import FluentSql.Session.Basic

/-!
# Session/Transaction — transactions, one inside another

The outermost transaction is the connection's own; every deeper one is a savepoint named for its
level.  The level changes only when the step of the connection succeeded, by one.
-/

namespace FluentSql.Database

variable {σ α : Type}

/-- The savepoint of a level. -/
def savepointName (level : Nat) : String := "trans" ++ Text.ofNat level

/-- Fails unless the dialect has savepoints. -/
def requireSavepoints (db : Database σ) (action : String) : Session σ Unit :=
  if db.dialect.savepoints then pure ()
  else throw (.transaction
    (action ++ " needs savepoints, which the " ++ db.dialect.name ++ " grammar does not support"))

/-- The number of open transactions. -/
def level : Session σ Nat := Session.ofFun fun s => (.ok s.level, s)

/-- Sets the number of open transactions. -/
def setLevel (n : Nat) : Session σ Unit := Session.change fun s => { s with level := n }

/-- Runs a statement without values. -/
def command (db : Database σ) (sql : String) : Session σ Unit := discard (db.statement ⟨sql, []⟩)

/-- **Opens a transaction**, or a savepoint inside an open one. -/
def openTransaction (db : Database σ) : Session σ Unit := do
  let n ← level
  if n = 0 then Session.ask db.connection.openTransaction
  else
    db.requireSavepoints "nested begin"
    db.command (Dialect.savepoint (savepointName (n + 1)))
  setLevel (n + 1)

/-- **Commits the innermost transaction.**  Only the outermost reaches the connection. -/
def commit (db : Database σ) : Session σ Unit := do
  let n ← level
  if n = 0 then throw (.transaction "commit without an active transaction")
  if n = 1 then Session.ask db.connection.commit
  setLevel (n - 1)

/-- **Rolls the innermost transaction back**, to its savepoint if it is a nested one. -/
def rollback (db : Database σ) : Session σ Unit := do
  let n ← level
  if n = 0 then throw (.transaction "rollback without an active transaction")
  if n = 1 then Session.ask db.connection.rollback
  else
    db.requireSavepoints "nested rollback"
    db.command (Dialect.savepointRollback (savepointName n))
  setLevel (n - 1)

/-- **Ends a transaction by its outcome** — a success is committed, a failure rolled back and then
raised again. -/
def settle (db : Database σ) (outcome : Except QueryError α) : Session σ α :=
  match outcome with
  | .ok a => do
    db.commit
    return a
  | .error e => do
    db.rollback
    throw e

/-- **Does something in a transaction.** -/
def transaction (db : Database σ) (body : Session σ α) : Session σ α := do
  db.openTransaction
  db.settle (← Session.observe body)

end FluentSql.Database
