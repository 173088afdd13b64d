import FluentSql.Dialect.Basic
import FluentSql.Text.Blank
import FluentSql.Text.Join

/-!
# Dialect/Quote — identifiers in quotes

An identifier stands between two quote characters with every quote inside doubled.  A column path
is quoted segment by segment at its points, and its alias after the last ` as `.  `*` and what is
quoted already pass through.
-/

namespace FluentSql.Dialect

/-! ## One identifier -/

/-- A text with every occurrence of a character doubled. -/
def doubled (quote : Char) : List Char → List Char
  | [] => []
  | c :: rest => if c = quote then c :: c :: doubled quote rest else c :: doubled quote rest

/-- Whether a text starts and ends with the quote, at two different places. -/
def isQuoted (quote : Char) : List Char → Bool
  | c :: d :: rest => c == quote && (d :: rest).getLast? == some quote
  | _ => false

/-- **An identifier in quotes**, the blanks around it dropped. -/
def identifier (quote : Char) (name : List Char) : List Char :=
  let name := Text.stripBlanks name
  if name = ['*'] ∨ isQuoted quote name = true then name
  else quote :: (doubled quote name ++ [quote])

/-! ## Paths and aliases -/

/-- The segments between the points of a path; a path without a point is one segment. -/
def segments : List Char → List (List Char)
  | [] => [[]]
  | c :: rest =>
    if c = '.' then [] :: segments rest
    else match segments rest with
      | [] => [[c]]
      | s :: more => (c :: s) :: more

/-- Texts with a point between them. -/
def joinPath : List (List Char) → List Char
  | [] => []
  | [s] => s
  | s :: t :: rest => s ++ '.' :: joinPath (t :: rest)

/-- What follows ` as ` at the start of a text, in any case. -/
def afterAs? : List Char → Option (List Char)
  | ' ' :: a :: s :: ' ' :: rest => if a.toLower = 'a' ∧ s.toLower = 's' then some rest else none
  | _ => none

/-- The text before and after the last ` as `. -/
def splitLastAs? : List Char → Option (List Char × List Char)
  | [] => none
  | c :: rest =>
    match splitLastAs? rest with
    | some (before, after) => some (c :: before, after)
    | none => (afterAs? (c :: rest)).map fun after => ([], after)

/-- **A path and its alias**, both without the blanks around them; none when one of the two would
be empty. -/
def splitAlias? (column : List Char) : Option (List Char × List Char) :=
  match splitLastAs? column with
  | some (before, after) =>
    if Text.stripBlanks before = [] ∨ Text.stripBlanks after = [] then none
    else some (Text.stripBlanks before, Text.stripBlanks after)
  | none => none

theorem length_splitLastAs? {s before after : List Char}
    (h : splitLastAs? s = some (before, after)) : before.length < s.length := by
  induction s generalizing before with
  | nil => simp [splitLastAs?] at h
  | cons c rest ih =>
    unfold splitLastAs? at h
    split at h
    · next before' after' heq =>
      simp only [Option.some.injEq, Prod.mk.injEq] at h
      obtain ⟨rfl, rfl⟩ := h
      simpa using ih heq
    · simp only [Option.map_eq_some_iff, Prod.mk.injEq] at h
      obtain ⟨_, _, h, _⟩ := h
      simp [← h]

/-- The path of an aliased column is shorter than the column. -/
theorem length_splitAlias? {s name label : List Char}
    (h : splitAlias? s = some (name, label)) : name.length < s.length := by
  unfold splitAlias? at h
  split at h
  · next before after heq =>
    split at h
    · simp at h
    · simp only [Option.some.injEq, Prod.mk.injEq] at h
      rw [← h.1]
      exact Nat.lt_of_le_of_lt (Text.length_stripBlanks_le before) (length_splitLastAs? heq)
  · simp at h

/-- **A column path in quotes**, with its alias behind `AS` if it has one. -/
@[semireducible] def column (quote : Char) (path : List Char) : List Char :=
  match _h : splitAlias? path with
  | some (name, label) => column quote name ++ " AS ".toList ++ identifier quote label
  | none => joinPath ((segments path).map (identifier quote))
termination_by path.length
decreasing_by exact length_splitAlias? ‹_›

/-! ## On strings -/

/-- An identifier in the quotes of the dialect. -/
def quoteIdentifier (d : Dialect) (name : String) : String :=
  String.ofList (identifier d.quote name.toList)

/-- A column, or a table, in the quotes of the dialect. -/
def quoteColumn (d : Dialect) (name : String) : String := String.ofList (column d.quote name.toList)

/-- `name AS alias`, the name already written. -/
def aliased (d : Dialect) (sql label : String) : String := sql ++ " AS " ++ d.quoteIdentifier label

/-- The names of columns with commas between them. -/
def columnList (d : Dialect) (columns : List String) : String :=
  Text.joinWith ", " (columns.map d.quoteColumn)

example : column '`' "a.b As c".toList = "`a`.`b` AS `c`".toList := by decide
example : identifier '"' " say \"hi ".toList = "\"say \"\"hi\"".toList := by decide

end FluentSql.Dialect
