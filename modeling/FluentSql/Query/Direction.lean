import FluentSql.Text.Blank

/-!
# Query/Direction — the two ways to sort
-/

namespace FluentSql

/-- **A sort direction.** -/
inductive Direction
  | asc
  | desc
  deriving DecidableEq, Repr, Inhabited

namespace Direction

/-- The keyword of a direction. -/
def keyword : Direction → String
  | asc => "ASC"
  | desc => "DESC"

/-- **A direction from its name**, in any case and between blanks. -/
def parse? (s : String) : Option Direction :=
  let name := (Text.stripBlanks s.toList).map Char.toLower
  if name = "asc".toList then some asc
  else if name = "desc".toList then some desc
  else none

end Direction

end FluentSql
