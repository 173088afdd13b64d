import FluentSql.Error
import FluentSql.Value.Basic

/-!
# Condition/Operator — the operators a comparison may use

An operator is the only text of a caller that is spliced into a condition unquoted, so it has to be
one of `operators`, in any case and between blanks.  NULL is not compared but tested, and only three
operators can mean such a test.
-/

namespace FluentSql.Operator

/-- **The known operators.** -/
def operators : List String :=
  ["=", "<", ">", "<=", ">=", "<>", "!=", "<=>", "like", "like binary", "not like", "ilike",
    "not ilike", "&", "|", "^", "<<", ">>", "&~", "is", "is not", "rlike", "not rlike", "regexp",
    "not regexp", "~", "~*", "!~", "!~*", "similar to", "not similar to"]

/-- A letter in lower case.  Beyond ASCII only the Kelvin sign has a lower-case form that is a
letter of an operator. -/
def lowerCase (c : Char) : Char := if c = '\u212a' then 'k' else c.toLower

/-- Whether an operator is known. -/
def isKnown (operator : String) : Bool :=
  operators.any fun known =>
    known.toList == (Text.stripBlanks operator.toList).map lowerCase

/-- Whether an operator can test for NULL: equality and its two negations. -/
def testsNull (operator : String) : Bool :=
  let op := Text.trim operator
  op == "=" || op == "<>" || op == "!="

/-- Whether a value cannot stand behind an operator. -/
def rejects (operator : String) (value : Value) : Bool := value.isNull && !testsNull operator

/-- **The operator of a comparison with a value** — equality if none is given, else the given one
without the blanks around it, which has to be known and to admit the value. -/
def prepare (operator : Option String) (value : Value) : Except BuildError String :=
  match operator with
  | none => .ok "="
  | some operator =>
    let op := Text.trim operator
    if !isKnown op then .error (.invalidOperator op)
    else if rejects op value then .error (.illegalOperatorAndValue op)
    else .ok op

/-- The operator of a comparison that involves no value.  The error shows it with its blanks. -/
def check (operator : String) : Except BuildError String :=
  if isKnown operator then .ok (Text.trim operator) else .error (.invalidOperator operator)

end FluentSql.Operator
