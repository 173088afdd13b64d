import FluentSql.Builder.Condition

/-!
# Builder/Join — joins and their conditions

A join is one entry: its kind, the table, and what ties the table to the rest.  The conditions of a
join are collected on their own, like those of a nested query, and go into the entry as one text
without their first connective.
-/

namespace FluentSql

/-- **The kind of a join.** -/
inductive JoinKind
  | inner
  | left
  | right
  | cross
  | fullOuter
  deriving DecidableEq, Repr, Inhabited

/-- The keyword of a join. -/
def JoinKind.keyword : JoinKind → String
  | inner => "INNER JOIN"
  | left => "LEFT JOIN"
  | right => "RIGHT JOIN"
  | cross => "CROSS JOIN"
  | fullOuter => "FULL OUTER JOIN"

/-- **One step of the conditions of a join.** -/
inductive JoinStep
  /-- Two columns compared. -/
  | on (link : Connective) (first operator second : String)
  /-- A column compared with a value. -/
  | compare (link : Connective) (comparison : Comparison)
  /-- A column tested for NULL. -/
  | null (negated : Bool) (column : String)
  /-- A column among listed values. -/
  | within (column : String) (values : List Value)
  /-- Only looks at the kind and the table of the join. -/
  | note
  deriving DecidableEq, Repr

/-- **What ties a joined table to the rest.** -/
inductive JoinCondition
  | none
  /-- Two operands as they are written. -/
  | columns (first operator second : String)
  /-- Conditions built step by step. -/
  | steps (list : List JoinStep)
  /-- A column compared with a bound value. -/
  | value (column operator : String) (value : Value)
  deriving DecidableEq, Repr

/-- The edits of a step, on the clause that collects the conditions. -/
def JoinStep.edits (t : Target) : JoinStep → List Edit
  | on link first operator second =>
    Edit.after (Operator.check operator) fun op =>
      [.condition .joins link
        (t.dialect.quoteColumn first ++ " " ++ op ++ " " ++ t.dialect.quoteColumn second) []]
  | compare link c => c.edits t .joins link
  | null negated column => [.nullCondition t .joins .and negated column]
  | within column values => [.inCondition t .joins .and false column values]
  | note => []

/-- The entry of a join. -/
def Edit.join (kind : JoinKind) (table : String) (condition : String) (values : List Value) : Edit :=
  entry .joins (kind.keyword ++ " " ++ table ++ condition) values

/-- **The edits of a join** with a table that is written already and the values in it.  Conditions
that fail step by step leave the join in place; a failing operator leaves nothing. -/
def JoinCondition.edits (t : Target) (kind : JoinKind) (table : String) (values : List Value) :
    JoinCondition → List Edit
  | none => [.join kind table "" values]
  | columns first operator second =>
    Edit.after (Operator.check operator) fun op =>
      [.join kind table (" ON " ++ first ++ " " ++ op ++ " " ++ second) values]
  | steps list =>
    let nested := Builder.ofEdits t (list.flatMap (JoinStep.edits t))
    let part := nested.query.part .joins
    Edit.failure nested.error ++
      [if part.isEmpty then .join kind table "" values
        else .join kind table
          (" ON " ++ Connective.dropLeadingText (Fragment.join " " part.fragments))
          (values ++ part.bindings)]
  | value column operator v =>
    Edit.after (Operator.prepare (some operator) v) fun op =>
      [.join kind table (" WHERE " ++ t.dialect.quoteColumn column ++ " " ++ op ++ " ?")
        (values ++ [v])]

end FluentSql
