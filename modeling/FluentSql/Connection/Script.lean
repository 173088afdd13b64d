import FluentSql.Connection.Basic

/-!
# Connection/Script — a connection that plays a script

Every execution takes the next outcome of the script, and an empty result when the script is over.
Failures of single operations can be planned too: each strikes once.  The connection remembers what
reached it.
-/

namespace FluentSql

/-- The operations that can be made to fail. -/
inductive Weakness
  | prepare
  | openTransaction
  | commit
  | rollback
  | lastInsertId
  deriving DecidableEq, Repr

/-- **What a scripted connection was asked** besides executions. -/
inductive Event
  | opened
  | committed
  | rolledBack
  | lastInsertId (sequence : Option String)
  deriving DecidableEq, Repr

/-- An event as one line. -/
def Event.text : Event → String
  | opened => "BEGIN"
  | committed => "COMMIT"
  | rolledBack => "ROLLBACK"
  | lastInsertId none => "LAST_INSERT_ID"
  | lastInsertId (some sequence) => "LAST_INSERT_ID:" ++ sequence

/-- **A script and what was played of it.** -/
structure Script where
  /-- The outcomes of the executions to come. -/
  outcomes : List (Except String ResultSet) := []
  /-- The failures to come. -/
  failures : List (Weakness × String) := []
  lastInsertId : Value := .int 0
  inTransaction : Bool := false
  executed : List Request := []
  events : List Event := []

namespace Script

/-! ## Writing a script -/

/-- Adds an outcome of an execution. -/
def plan (s : Script) (outcome : Except String ResultSet) : Script :=
  { s with outcomes := s.outcomes ++ [outcome] }

/-- Adds the failure of the first operation of a kind. -/
def planFailure (s : Script) (w : Weakness) (reason : String) : Script :=
  { s with failures := s.failures ++ [(w, reason)] }

/-! ## Playing it -/

/-- Splits off the first failure of a kind. -/
def splitFailure (w : Weakness) :
    List (Weakness × String) → Option (String × List (Weakness × String))
  | [] => none
  | (v, reason) :: rest =>
    if v = w then some (reason, rest)
    else (splitFailure w rest).map fun (found, rest) => (found, (v, reason) :: rest)

/-- **An operation that may be planned to fail.** -/
def attempt {α : Type} (w : Weakness) (run : Operates Script α) : Operates Script α := fun s =>
  match splitFailure w s.failures with
  | some (reason, rest) => (.error (.database reason), { s with failures := rest })
  | none => run s

/-- Records an event. -/
def happen (s : Script) (e : Event) : Script := { s with events := s.events ++ [e] }

/-- **Executes a request**: it is recorded, then the next outcome is used. -/
def execute (r : Request) : Operates Script ResultSet := fun s =>
  let s := { s with executed := s.executed ++ [r] }
  match s.outcomes with
  | [] => (.ok {}, s)
  | .ok result :: rest => (.ok result, { s with outcomes := rest })
  | .error reason :: rest => (.error (.database reason), { s with outcomes := rest })

/-- Opens or ends the transaction. -/
def turn (e : Event) (inTransaction : Bool) : Operates Script Unit := fun s =>
  (.ok (), { s.happen e with inTransaction := inTransaction })

/-- **The connection that plays a script**, on a database of the given name. -/
def connection (database : Option String) : Connection Script where
  database := database
  prepare _ := attempt .prepare fun s => (.ok (), s)
  execute := execute
  openTransaction := attempt .openTransaction (turn .opened true)
  commit := attempt .commit (turn .committed false)
  rollback := attempt .rollback (turn .rolledBack false)
  inTransaction s := s.inTransaction
  lastInsertId sequence s :=
    attempt .lastInsertId (fun s => (.ok s.lastInsertId, s)) (s.happen (.lastInsertId sequence))
  elapsed _ := .zero false

end Script

end FluentSql
