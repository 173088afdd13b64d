import FluentSql.Builder.Basic
import FluentSql.ResultSet

/-!
# Connection/Basic — what a session needs of a database

A connection over states `σ` is a record of operations: each takes the state, answers or fails, and
leaves a state.  Nothing is assumed about them here; a failing operation may still have changed the
state.
-/

namespace FluentSql

/-- **What is sent for execution**: a statement, and whether to show it with its values. -/
structure Request where
  statement : Statement
  debug : Bool := false
  deriving DecidableEq, Repr

/-- An operation that answers or fails and leaves a state. -/
abbrev Operates (σ α : Type) := σ → Except QueryError α × σ

/-- **A connection**, by its operations on the states `σ`. -/
structure Connection (σ : Type) where
  /-- The name of the database, if the connection reports one. -/
  database : Option String
  prepare : String → Operates σ Unit
  execute : Request → Operates σ ResultSet
  openTransaction : Operates σ Unit
  commit : Operates σ Unit
  rollback : Operates σ Unit
  /-- Whether a transaction is open. -/
  inTransaction : σ → Bool
  /-- The key generated last, perhaps by a named sequence. -/
  lastInsertId : Option String → Operates σ Value
  /-- Milliseconds that the latest execution took. -/
  elapsed : σ → Binary64

end FluentSql
