import FluentSql.Binary64.Shortest
import FluentSql.Text.Blank

/-!
# Value/Basic — the values a statement binds

A `Value` stands behind one placeholder of a statement.  Everything the caller compares, assigns or
pages by becomes one of six kinds; the text of a statement never contains it.
-/

namespace FluentSql

/-- **A value bound to a placeholder.** -/
inductive Value
  | null
  | bool (flag : Bool)
  | int (n : Int64)
  | float (x : Binary64)
  | text (s : String)
  | blob (bytes : List UInt8)
  deriving DecidableEq, Repr

namespace Value

/-! ## Kinds -/

/-- Whether the value is NULL. -/
def isNull : Value → Bool
  | null => true
  | _ => false

@[simp] theorem isNull_iff {v : Value} : v.isNull = true ↔ v = null := by
  cases v <;> simp [isNull]

/-- Whether the value is an integer or a float. -/
def isNumeric : Value → Bool
  | int _ | float _ => true
  | _ => false

/-- The text of a text value. -/
def text? : Value → Option String
  | text s => some s
  | _ => none

/-- **The value read as an integer** — a flag is 0 or 1, a float counts when it is whole, a text
when it is the decimal form of one between blanks. -/
def toInt64? : Value → Option Int64
  | int n => some n
  | bool flag => some (if flag then 1 else 0)
  | float x => x.toInt64?
  | text s => Text.readInt64 (Text.stripBlanks s.toList)
  | null | blob _ => none

/-- **Equality of values** — floats compare as numbers, so a NaN differs from itself. -/
def equals : Value → Value → Bool
  | null, null => true
  | bool a, bool b => a == b
  | int a, int b => a == b
  | float a, float b => a.equals b
  | text a, text b => a == b
  | blob a, blob b => a == b
  | _, _ => false

/-! ## Making values -/

/-- **An unsigned 64-bit integer** — the integer itself if a signed word holds it, else the text of
its decimal form. -/
def ofUInt64 (n : UInt64) : Value :=
  match Text.toInt64? n.toNat with
  | some i => int i
  | none => text (Text.ofNat n.toNat)

/-- The value of an optional one: nothing is NULL. -/
def ofOption : Option Value → Value
  | some v => v
  | none => null

end Value

end FluentSql
