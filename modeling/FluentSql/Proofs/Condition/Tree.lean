import FluentSql.Proofs.Connective

/-!
# Proofs/Condition/Tree — trees of conditions and how they are written

A list of conditions is a tree: its leaves are predicates and its inner nodes are groups.  It is
written level by level.  The first member of a level stands without its connective and without leading
blanks, every later one behind a space and its connective, and a group is its level in parentheses, or
nothing if nothing is in it.  That is structural; what is done to the text is not: the members are
joined with all their connectives, and the first is found again by looking at characters.
`renderLevel_eq` says that the two agree.
-/

namespace FluentSql

/-- **A text that is more than blanks.** -/
def NotBlank (s : String) : Prop := ∃ c ∈ s.toList, Text.isBlank c = false

/-- **A tree of conditions.** -/
inductive Condition
  /-- A predicate with its connective in upper case. -/
  | structured (link : Connective) (text : String)
  /-- A literal predicate with its connective in lower case. -/
  | raw (link : Connective) (text : String)
  | group (link : Connective) (conditions : List Condition)

/-- **A member of a level**: the word for its connective, and what is written behind it. -/
structure Member where
  word : String
  text : String

/-- A member behind its connective. -/
def Member.sql (m : Member) : String := m.word ++ " " ++ m.text

/-- **A level as it is written**, if it has a member — no connective and no blanks before the first,
a space and the connective before every other. -/
def renderLevel : List Member → Option String
  | [] => none
  | m :: ms =>
    some (String.ofList (Text.dropBlanks m.text.toList) ++
      String.join (ms.map fun m => " " ++ m.sql))

mutual

/-- **A condition as a member of its level**; a group of nothing is none. -/
def Condition.member? : Condition → Option Member
  | .structured link text => some ⟨link.keyword, text⟩
  | .raw link text => some ⟨link.rawKeyword, text⟩
  | .group link conditions =>
    (renderLevel (members conditions)).map fun s => ⟨link.keyword, "(" ++ s ++ ")"⟩

/-- The members of a level. -/
def members : List Condition → List Member
  | [] => []
  | c :: cs => c.member?.toList ++ members cs

end

/-- **The text of a list of conditions**, if it has a member. -/
def renderConditions (cs : List Condition) : Option String := renderLevel (members cs)

@[simp] theorem members_nil : members [] = [] := by rw [members]

@[simp] theorem members_cons (c : Condition) (cs : List Condition) :
    members (c :: cs) = c.member?.toList ++ members cs := by rw [members]

@[simp] theorem members_append (cs ds : List Condition) :
    members (cs ++ ds) = members cs ++ members ds := by
  induction cs with
  | nil => rfl
  | cons c cs ih => rw [List.cons_append, members_cons, members_cons, ih, List.append_assoc]

/-! ## Members that are more than a connective -/

/-- **A member behind a connective that has something to say.** -/
structure Member.Proper (m : Member) : Prop where
  word : ∃ k : Connective, m.word = k.keyword ∨ m.word = k.rawKeyword
  text : NotBlank m.text

/-- A word of a connective goes, and the blanks behind it. -/
theorem Member.Proper.dropLeading_append {m : Member} (h : m.Proper) (s : List Char) :
    Connective.dropLeading (m.sql.toList ++ s) = Text.dropBlanks m.text.toList ++ s := by
  obtain ⟨k, hword⟩ := h.word
  obtain ⟨c, hc, hblank⟩ := h.text
  have hsql : m.sql.toList ++ s = m.word.toList ++ ' ' :: (m.text.toList ++ s) := by
    rw [Member.sql, String.toList_append, String.toList_append, List.append_assoc,
      List.append_assoc]
    rfl
  rw [hsql, ← Text.dropBlanks_append (Text.dropBlanks_ne_nil hc hblank)]
  rcases hword with hword | hword <;> rw [hword]
  · exact Connective.dropLeading_keyword k _
  · exact Connective.dropLeading_rawKeyword k _

/-- Joining puts the separator before every text but the first. -/
theorem joinWith_cons (sep s : String) (ss : List String) :
    Text.joinWith sep (s :: ss) = s ++ String.join (ss.map (sep ++ ·)) := by
  induction ss generalizing s with
  | nil => simp
  | cons u ss ih =>
    rw [Text.joinWith_cons_cons, ih, List.map_cons, String.join_cons]
    simp only [String.append_assoc]

/-- **The level of a list of members is their joined text without its first connective.** -/
theorem renderLevel_eq {ms : List Member} (h : ∀ m ∈ ms, m.Proper) :
    renderLevel ms =
      if ms.isEmpty then none
      else some (Connective.dropLeadingText (Text.joinWith " " (ms.map Member.sql))) := by
  rcases ms with - | ⟨m, ms⟩
  · rfl
  · have hm : m.Proper := h m List.mem_cons_self
    have hjoin : Connective.dropLeadingText (Text.joinWith " " ((m :: ms).map Member.sql)) =
        String.ofList (Text.dropBlanks m.text.toList) ++
          String.join (ms.map fun m => " " ++ m.sql) := by
      rw [List.map_cons, joinWith_cons, Connective.dropLeadingText, String.toList_append,
        hm.dropLeading_append, String.ofList_append, String.ofList_toList, List.map_map]
      rfl
    rw [hjoin]
    rfl

example : renderConditions [.structured .or "a = ?", .group .and [],
    .group .or [.raw .and " or b", .structured .and "c = ?"]] = some "a = ? OR (or b AND c = ?)" := by
  cbv

end FluentSql
