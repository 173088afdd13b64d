import FluentSql.Condition.Operator

/-!
# Condition/Comparison — a column compared with a value

The members of a batch of conditions.  `normalized` settles the operator of one before it is added.
-/

namespace FluentSql

/-- **A column compared with a value**, by equality if no operator is given. -/
structure Comparison where
  column : String
  operator : Option String
  value : Value
  deriving DecidableEq, Repr

/-- The comparison with its operator settled. -/
def Comparison.normalized (c : Comparison) : Except BuildError Comparison :=
  (Operator.prepare c.operator c.value).map fun op => { c with operator := some op }

end FluentSql
