import FluentSql.Session.Read
import FluentSql.Session.Transaction
import FluentSql.Session.Write

/-!
# Session/Action — sessions as data

An `Operation` is one thing a caller does, an `Action` an operation or a transaction around a list of
actions.  Performing an action gives a `Report` of it: the states before and after, the outcome, and
for a transaction the reports of what ran inside.
-/

namespace FluentSql

/-- **One thing done in a session.** -/
inductive Operation (σ : Type)
  | get (b : Builder)
  | first (b : Builder)
  | find (b : Builder) (id : Value)
  | findBy (b : Builder) (column : String) (value : Value)
  | value (b : Builder) (column : String)
  | existsRow (b : Builder)
  | count (b : Builder)
  | getPage (b : Builder)
  | insertMany (b : Builder) (rows : List (Record Assignment))
  | insertGetId (b : Builder) (row : Record Assignment) (sequence : Option String)
  | insertSource (b : Builder) (columns : List String) (source : Source)
  | update (b : Builder) (values : Record Assignment)
  | increment (b : Builder) (column : String) (amount : Value) (extra : Record Assignment)
  | decrement (b : Builder) (column : String) (amount : Value) (extra : Record Assignment)
  | delete (b : Builder)
  | softDelete (b : Builder) (time : DateTime)
  | softDeleteColumn (b : Builder) (time : DateTime) (column format : String)
  | restore (b : Builder)
  | restoreColumn (b : Builder) (column : String)
  | select (s : Statement)
  | statement (s : Statement)
  /-- Runs a statement past the log. -/
  | exec (s : Statement)
  | openTransaction
  | commit
  | rollback
  | setLogging (on : Bool)
  | flushLog
  /-- Changes the connection from outside. -/
  | arrange (f : σ → σ)

/-- **What an operation answers.** -/
inductive Reply
  | done
  | rows (rows : List Row)
  | row (row : Option Row)
  | value (v : Option Value)
  | flag (b : Bool)
  | count (n : UInt64)
  | page (p : Page)
  | id (id : InsertId)
  | result (r : ResultSet)
  /-- The number of actions a transaction ran. -/
  | ran (n : Nat)
  deriving DecidableEq, Repr

/-- An operation, or a transaction that may be told to fail at its end. -/
inductive Action (σ : Type)
  | run (operation : Operation σ)
  | transaction (body : List (Action σ)) (abort : Option String)

/-- **The report of an action.** -/
inductive Report (σ : Type)
  | mk (before after : SessionState σ) (outcome : Except QueryError Reply)
      (inner : List (Report σ))

namespace Report

variable {σ : Type}

/-- The state before the action. -/
def before : Report σ → SessionState σ
  | mk s _ _ _ => s

/-- The state after the action. -/
def after : Report σ → SessionState σ
  | mk _ s _ _ => s

/-- What the action answered. -/
def outcome : Report σ → Except QueryError Reply
  | mk _ _ r _ => r

/-- The reports of the actions inside a transaction. -/
def inner : Report σ → List (Report σ)
  | mk _ _ _ reports => reports

end Report

variable {σ : Type}

/-- **What an operation does.** -/
def Operation.session (db : Database σ) : Operation σ → Session σ Reply
  | get b => .rows <$> db.get b
  | first b => .row <$> db.first b
  | find b id => .row <$> db.find b id
  | findBy b column v => .row <$> db.findBy b column v
  | value b column => .value <$> db.value b column
  | existsRow b => .flag <$> db.existsRow b
  | count b => .count <$> db.count b
  | getPage b => .page <$> db.getPage b
  | insertMany b rows => .count <$> db.insertMany b rows
  | insertGetId b row sequence => .id <$> db.insertGetId b row sequence
  | insertSource b columns source => .count <$> db.insertSource b columns source
  | update b values => .count <$> db.update b values
  | increment b column amount extra => .count <$> db.increment b column amount extra
  | decrement b column amount extra => .count <$> db.decrement b column amount extra
  | delete b => .count <$> db.delete b
  | softDelete b time => .count <$> db.softDelete b time
  | softDeleteColumn b time column format => .count <$> db.softDeleteColumn b time column format
  | restore b => .count <$> db.restore b
  | restoreColumn b column => .count <$> db.restoreColumn b column
  | select s => .rows <$> db.select s
  | statement s => .count <$> db.statement s
  | exec s => .result <$> db.exec s false
  | openTransaction => (fun _ => .done) <$> db.openTransaction
  | commit => (fun _ => .done) <$> db.commit
  | rollback => (fun _ => .done) <$> db.rollback
  | setLogging on => do
    Session.change fun s => { s with log := s.log.setEnabled on }
    return .done
  | flushLog => do
    Session.change fun s => { s with log := s.log.flush }
    return .done
  | arrange f => do
    Session.change fun s => { s with link := f s.link }
    return .done

/-- The outcome of a transaction's actions: their first failure, else the planned one, else how many
there were. -/
def bodyOutcome (abort : Option String) (reports : List (Report σ)) : Except QueryError Reply :=
  match reports.getLast? with
  | some (.mk _ _ (.error e) _) => .error e
  | _ =>
    match abort with
    | some message => .error (.notFound message)
    | none => .ok (.ran reports.length)

/-- The state that reports leave, starting from a state. -/
def stateAfter (s : SessionState σ) (reports : List (Report σ)) : SessionState σ :=
  match reports.getLast? with
  | some r => r.after
  | none => s

mutual

/-- **Performs an action.** -/
def Action.perform (db : Database σ) (s : SessionState σ) : Action σ → Report σ
  | .run operation =>
    let (outcome, after) := (operation.session db).play s
    .mk s after outcome []
  | .transaction body abort =>
    match db.openTransaction.play s with
    | (.error e, after) => .mk s after (.error e) []
    | (.ok (), opened) =>
      let reports := performUntilFailure db opened body
      let (outcome, after) :=
        (db.settle (bodyOutcome abort reports)).play (stateAfter opened reports)
      .mk s after outcome reports

/-- Performs actions up to the first that fails. -/
def performUntilFailure (db : Database σ) (s : SessionState σ) : List (Action σ) → List (Report σ)
  | [] => []
  | a :: rest =>
    let report := a.perform db s
    match report.outcome with
    | .ok _ => report :: performUntilFailure db report.after rest
    | .error _ => [report]

end

/-- **Performs every action**, failures or not. -/
def performAll (db : Database σ) (s : SessionState σ) : List (Action σ) → List (Report σ)
  | [] => []
  | a :: rest =>
    let report := a.perform db s
    report :: performAll db report.after rest

end FluentSql
