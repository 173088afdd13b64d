import FluentSql.InsertId
import FluentSql.Json.Reader

/-!
# Value/Json — values as JSON

A value is written as the JSON of its kind, a blob as the list of its bytes.  Reading tries the
kinds in the order null, flag, integer, float, text, blob; an integer beyond the signed 64-bit range
is a float.
-/

namespace FluentSql

namespace Value

/-- **The JSON of a value.** -/
def toJson : Value → Json
  | null => .null
  | bool flag => .bool flag
  | int n => .int n.toInt
  | float x => .float x
  | text s => .string s
  | blob bytes => .array (bytes.map fun b => .int b.toNat)

/-- A byte of a blob. -/
def byte? : Json → Option UInt8
  | .int n => if 0 ≤ n ∧ n < 256 then some (UInt8.ofNat n.toNat) else none
  | _ => none

/-- **The value a document stands for.** -/
def ofJson? : Json → Option Value
  | .null => some null
  | .bool flag => some (bool flag)
  | .int n => match Text.toInt64? n with
    | some i => some (int i)
    | none => some (float (Binary64.ofInt n))
  | .float x => some (float x)
  | .string s => some (text s)
  | .array items => (items.mapM byte?).map blob
  | .object _ => none

/-- Why a text is not the JSON of a value. -/
inductive ReadError
  /-- The text is no JSON document. -/
  | malformed
  /-- The document is of no kind of value. -/
  | noKind
  deriving DecidableEq, Repr

/-- The wording of a document of no kind. -/
def ReadError.noKindMessage : String := "data did not match any variant of untagged enum SqlValue"

/-- **A value from its JSON text.**  A document of no kind is reported before anything that follows
the document. -/
def read (s : String) : Except ReadError Value :=
  match Json.read? .strict s with
  | none => .error .malformed
  | some (j, rest) =>
    match ofJson? j with
    | none => .error .noKind
    | some v => if rest.isEmpty then .ok v else .error .malformed

end Value

/-- The JSON of a generated key. -/
def InsertId.toJson : InsertId → Json
  | int n => .int n.toInt
  | text s => .string s

end FluentSql
