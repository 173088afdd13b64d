import FluentSql.Builder.Meaning
import FluentSql.Connection.Basic
import FluentSql.QueryLog

/-!
# Session/Basic — statements over a connection

A session threads one `State` through everything a caller does: the state of the connection, the
number of open transactions and the query log.  A failure ends what is being done and keeps the
state reached, so the log and the level stay true after it.
-/

namespace FluentSql

/-- **A database**: a connection and the dialect it speaks. -/
structure Database (σ : Type) where
  connection : Connection σ
  dialect : Dialect

/-- **The state of a session.** -/
structure SessionState (σ : Type) where
  /-- The state of the connection. -/
  link : σ
  /-- The number of open transactions, savepoints included. -/
  level : Nat := 0
  log : QueryLog := {}

/-- **Something done in a session**: it answers or fails, and leaves a state either way. -/
abbrev Session (σ : Type) := ExceptT QueryError (StateM (SessionState σ))

namespace Session

variable {σ α : Type}

/-- Something done, as a function of the state. -/
def ofFun (f : SessionState σ → Except QueryError α × SessionState σ) : Session σ α := f

/-- The outcome and the state left. -/
def play (x : Session σ α) (s : SessionState σ) : Except QueryError α × SessionState σ := x s

/-- An operation of the connection. -/
def ask (operation : Operates σ α) : Session σ α := ofFun fun s =>
  let (r, link) := operation s.link
  (r, { s with link := link })

/-- A change of the state that cannot fail. -/
def change (f : SessionState σ → SessionState σ) : Session σ Unit := ofFun fun s => (.ok (), f s)

/-- Continues with what was built, or fails with the build error. -/
def built (r : Except BuildError α) : Session σ α := ofFun fun s => (r.mapError .build, s)

/-- **Does something and hands its outcome on**, failure or not. -/
def observe (x : Session σ α) : Session σ (Except QueryError α) := ofFun fun s =>
  let (r, s) := x.play s
  (.ok r, s)

end Session

namespace Database

variable {σ : Type}

/-- Where builders of this database send their statements. -/
def target (db : Database σ) : Target := ⟨db.dialect, db.connection.database⟩

/-- An empty builder. -/
def query (db : Database σ) : Builder := .new db.target

/-- A builder on a table. -/
def table (db : Database σ) (name : String) : Builder := db.query.call (.tables [name])

/-! ## Running statements -/

/-- Prepares and executes a statement, past the log. -/
def exec (db : Database σ) (s : Statement) (debug : Bool) : Session σ ResultSet := do
  Session.ask (db.connection.prepare s.sql)
  Session.ask (db.connection.execute ⟨s, debug⟩)

/-- **Runs a statement.**  When it succeeds it goes to the log. -/
def run (db : Database σ) (s : Statement) (debug : Bool) : Session σ ResultSet := do
  let result ← db.exec s debug
  Session.change fun st =>
    { st with log := st.log.record ⟨s.sql, s.bindings, db.connection.elapsed st.link⟩ }
  return result

/-- The rows of a literal SELECT. -/
def select (db : Database σ) (s : Statement) : Session σ (List Row) := do
  return (← db.run s false).takeRemaining.1

/-- The number of rows a literal statement changed. -/
def statement (db : Database σ) (s : Statement) : Session σ UInt64 := do
  return (← db.run s false).rowCount

/-- Runs what a builder was compiled to, with the builder's debug flag. -/
def runBuilt (db : Database σ) (b : Builder) (s : Except BuildError Statement) :
    Session σ ResultSet := do
  db.run (← Session.built s) b.debug

end Database

end FluentSql
