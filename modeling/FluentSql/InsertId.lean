import FluentSql.Value.Literal

/-!
# InsertId — the key an insert generated

A connection reports a generated key as a value.  Whatever reads as an integer is one, NULL is the
absent key `0`, and any other key keeps its text.
-/

namespace FluentSql

/-- **A generated key.** -/
inductive InsertId
  | int (n : Int64)
  | text (s : String)
  deriving DecidableEq, Repr

namespace InsertId

/-- The key a value reports. -/
def ofValue : Value → InsertId
  | .null => int 0
  | v =>
    match v.toInt64? with
    | some n => int n
    | none => text v.display

/-- The key as text. -/
def display : InsertId → String
  | int n => Text.ofInt n.toInt
  | text s => s

end InsertId

end FluentSql
