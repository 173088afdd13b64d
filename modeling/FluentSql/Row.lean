import FluentSql.Value.Json

/-!
# Row — what a statement gives back, one row at a time

A row keeps its columns in the order of the statement, and a name may occur twice: reading by name
finds the first.
-/

namespace FluentSql

/-- **A row**: names with their values. -/
structure Row where
  columns : List (String × Value) := []
  deriving DecidableEq, Repr

namespace Row

/-- The row with one more column at its end. -/
def push (r : Row) (name : String) (value : Value) : Row := ⟨r.columns ++ [(name, value)]⟩

/-- The value of the first column of a name. -/
def get? (r : Row) (name : String) : Option Value :=
  (r.columns.find? fun c => c.1 == name).map Prod.snd

/-- The value at a position, counted from zero. -/
def at? (r : Row) (index : Nat) : Option Value := r.columns[index]?.map Prod.snd

/-- The names of the columns. -/
def names (r : Row) : List String := r.columns.map Prod.fst

/-- The values of the columns. -/
def values (r : Row) : List Value := r.columns.map Prod.snd

/-- The number of columns. -/
def size (r : Row) : Nat := r.columns.length

/-- **Equality of rows** — the same names in the same order with equal values. -/
def equals (r s : Row) : Bool :=
  r.size == s.size &&
    (r.columns.zip s.columns).all fun (a, b) => a.1 == b.1 && a.2.equals b.2

/-- The row as an object, repeated names and all. -/
def toJson (r : Row) : Json := .object (r.columns.map fun (name, value) => (name, value.toJson))

end Row

end FluentSql
