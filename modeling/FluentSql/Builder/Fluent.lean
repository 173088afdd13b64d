import FluentSql.Builder.Meaning

/-!
# Builder/Fluent — the calls by name

Short names for the calls that a query is written with most: each is one `Call`, and
`b.calls [.table "users", .whereEq "id" v, .whereCmp "age" ">" w]` reads like the chain it stands for.
-/

namespace FluentSql.Call

/-! ## Sources and columns -/

/-- A table, or `table as alias`. -/
abbrev table (name : String) : Call := .tables [name]

/-- A source of literal text without further values. -/
abbrev tableExpr (e : Expression) : Call := .tableRaw e []

/-- A fragment put among the sources as it is. -/
abbrev setTable (f : Fragment) : Call := .push .froms [f] []

/-! ## Conditions -/

/-- `column = ?`. -/
abbrev whereEq (column : String) (value : Value) : Call :=
  .condition .wheres .and (.compare ⟨column, none, value⟩)

/-- `column operator ?`. -/
abbrev whereCmp (column operator : String) (value : Value) : Call :=
  .condition .wheres .and (.compare ⟨column, some operator, value⟩)

/-- `OR column = ?`. -/
abbrev orWhereEq (column : String) (value : Value) : Call :=
  .condition .wheres .or (.compare ⟨column, none, value⟩)

/-- A group of conditions in parentheses. -/
abbrev whereGroup (calls : List Call) : Call := .condition .wheres .and (.group calls)

end FluentSql.Call
