/-!
# Query/Clause — the clauses of a query

Ten clauses, in the order in which a SELECT statement has their placeholders.
-/

namespace FluentSql

/-- **A clause of a query.** -/
inductive Clause
  | columns
  | froms
  | joins
  | wheres
  | groups
  | havings
  | orders
  | limits
  | offset
  | unions
  deriving DecidableEq, Repr

namespace Clause

/-- Every clause, in the order of the statement. -/
def all : List Clause :=
  [columns, froms, joins, wheres, groups, havings, orders, limits, offset, unions]

/-- The name of a clause. -/
def name : Clause → String
  | columns => "columns"
  | froms => "froms"
  | joins => "joins"
  | wheres => "wheres"
  | groups => "groups"
  | havings => "havings"
  | orders => "orders"
  | limits => "limits"
  | offset => "offset"
  | unions => "unions"

end Clause

end FluentSql
