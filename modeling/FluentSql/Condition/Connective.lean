import FluentSql.Text.Blank

/-!
# Condition/Connective — AND and OR, and the one that a list does not need

Every condition is stored behind its connective, and the first condition of a list is written
without one.  `dropLeading` takes it off the text: in any case, with the blanks around it, and only
when a blank follows, so `order` and `android` keep their letters.
-/

namespace FluentSql

/-- **The connective in front of a condition.** -/
inductive Connective
  | and
  | or
  deriving DecidableEq, Repr, Inhabited

namespace Connective

/-- The keyword of a structured condition. -/
def keyword : Connective → String
  | and => "AND"
  | or => "OR"

/-- The keyword of a raw condition. -/
def rawKeyword : Connective → String
  | and => "and"
  | or => "or"

/-- The text after a word at its start, the ASCII letters compared without case. -/
def afterWord? : List Char → List Char → Option (List Char)
  | [], s => some s
  | k :: word, c :: s => if c.toLower = k then afterWord? word s else none
  | _ :: _, [] => none

/-- What follows the connective at the start of a text, beginning with the blank behind it. -/
def after? (k : Connective) (s : List Char) : Option (List Char) :=
  match afterWord? k.rawKeyword.toList s with
  | some (c :: rest) => if Text.isBlank c then some (c :: rest) else none
  | _ => none

/-- **A list of conditions without its first connective.**  A text that starts with no connective
stays as it is, leading blanks included. -/
def dropLeading (s : List Char) : List Char :=
  match (and.after? (Text.dropBlanks s)).or (or.after? (Text.dropBlanks s)) with
  | some rest => Text.dropBlanks rest
  | none => s

/-- The same on strings. -/
def dropLeadingText (s : String) : String := String.ofList (dropLeading s.toList)

example : dropLeading " aNd\t x".toList = "x".toList := by decide
example : dropLeading " order".toList = " order".toList := by decide

end Connective

end FluentSql
