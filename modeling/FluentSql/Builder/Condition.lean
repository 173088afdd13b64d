import FluentSql.Builder.Basic
import FluentSql.Condition.Comparison
import FluentSql.Condition.Connective

/-!
# Builder/Condition — the edits of conditions without sub-queries

A condition is one text entry behind its connective.  The functions here write those that involve
only columns and values; WHERE, HAVING and the conditions of a join share them, each naming its own
clause.
-/

namespace FluentSql

/-- The values of a list as placeholders. -/
def placeholders (values : List Value) : String := Text.joinWith ", " (values.map fun _ => "?")

/-- `NOT` in front of a keyword, or the keyword alone. -/
def negatedKeyword (negated : Bool) (keyword : String) : String :=
  if negated then "NOT " ++ keyword else keyword

/-- The test for NULL. -/
def nullTest (negated : Bool) : String := if negated then "IS NOT NULL" else "IS NULL"

namespace Edit

/-- **A condition behind its connective.** -/
def condition (clause : Clause) (link : Connective) (sql : String) (values : List Value) : Edit :=
  entry clause (link.keyword ++ " " ++ sql) values

/-- A condition of literal text, behind the connective in lower case. -/
def rawCondition (clause : Clause) (link : Connective) (e : Expression) (values : List Value) :
    Edit :=
  rawEntry clause { e with text := link.rawKeyword ++ " " ++ e.text } values

/-- A column tested for NULL. -/
def nullCondition (t : Target) (clause : Clause) (link : Connective) (negated : Bool)
    (column : String) : Edit :=
  condition clause link (t.dialect.quoteColumn column ++ " " ++ nullTest negated) []

/-- **A column among listed values.**  In an empty list there is nothing. -/
def inCondition (t : Target) (clause : Clause) (link : Connective) (negated : Bool)
    (column : String) (values : List Value) : Edit :=
  if values.isEmpty then condition clause link (if negated then "1 = 1" else "0 = 1") []
  else
    condition clause link
      (t.dialect.quoteColumn column ++ " " ++ negatedKeyword negated "IN" ++ " (" ++
        placeholders values ++ ")") values

/-- A column between two values. -/
def betweenCondition (t : Target) (clause : Clause) (link : Connective) (negated : Bool)
    (column : String) (low high : Value) : Edit :=
  condition clause link
    (t.dialect.quoteColumn column ++ " " ++ negatedKeyword negated "BETWEEN" ++ " ? AND ?")
    [low, high]

end Edit

/-- **A column compared with a value** — NULL is never bound: equality with it is a test for NULL,
and its negation a test for the contrary. -/
def Comparison.edits (t : Target) (clause : Clause) (link : Connective) (c : Comparison) :
    List Edit :=
  Edit.after (Operator.prepare c.operator c.value) fun op =>
    if c.value.isNull then [.nullCondition t clause link (op != "=") c.column]
    else [.condition clause link (t.dialect.quoteColumn c.column ++ " " ++ op ++ " ?") [c.value]]

/-- A batch: each member is settled first and then added. -/
def Comparison.batch (t : Target) (clause : Clause) (link : Connective) (cs : List Comparison) :
    List Edit :=
  cs.flatMap fun c => Edit.after c.normalized (Comparison.edits t clause link)

end FluentSql
