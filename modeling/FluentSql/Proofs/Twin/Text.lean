import FluentSql.Proofs.Connective
import FluentSql.Proofs.Operator
import Mathlib.Data.List.Forall2

/-!
# Proofs/Twin/Text — one text in the quotes of two dialects

`requote` turns the quotes of MySQL into those of SQLite.  Two texts are twins when the second is the
first one so turned, and the first has no quote of the other kind to begin with (`Twin`).  A text
without quotes is its own twin, a name is quoted to twins, and twins put together, or cut alike, are
twins again.
-/

namespace FluentSql

/-- A backtick turned into a double quote, any other character as it is. -/
def requoteChar (c : Char) : Char := if c = '`' then '"' else c

/-- **A text with every backtick turned into a double quote.** -/
def requote (s : String) : String := String.ofList (s.toList.map requoteChar)

/-- **A text without quotes of identifiers**, of either kind. -/
def Quoteless (s : String) : Prop := '`' ∉ s.toList ∧ '"' ∉ s.toList

instance (s : String) : Decidable (Quoteless s) := inferInstanceAs (Decidable (_ ∧ _))

/-- **One text in the quotes of MySQL and in those of SQLite.** -/
structure Twin (s s' : String) : Prop where
  eq : s' = requote s
  /-- No double quote is there but those that were backticks. -/
  free : '"' ∉ s.toList

/-! ## Characters -/

theorem requoteChar_of_ne {c : Char} (h : c ≠ '`') : requoteChar c = c := if_neg h

/-- Nothing else becomes a character that is not a quote. -/
theorem requoteChar_eq_iff {c d : Char} (hd : d ≠ '`') (hd' : d ≠ '"') :
    requoteChar c = d ↔ c = d := by
  unfold requoteChar
  split
  · next hc => exact ⟨fun h => absurd h.symm hd', fun h => absurd (h.symm.trans hc) hd⟩
  · exact Iff.rfl

theorem map_requoteChar {s : List Char} (h : '`' ∉ s) : s.map requoteChar = s :=
  (List.map_congr_left fun _ hc => requoteChar_of_ne fun he => h (he ▸ hc)).trans (List.map_id s)

/-- **Two characters that are no double quotes are told apart by what they become.** -/
theorem requoteChar_inj {c d : Char} (hc : c ≠ '"') (hd : d ≠ '"') :
    requoteChar c = requoteChar d ↔ c = d := by
  by_cases h : d = '`'
  · subst h
    unfold requoteChar
    split
    · next heq => exact ⟨fun _ => heq, fun _ => rfl⟩
    · next heq => exact ⟨fun he => absurd he hc, fun he => absurd he heq⟩
  · rw [requoteChar_of_ne h, requoteChar_eq_iff h hd]

/-! ## Cutting -/

@[simp] theorem isBlank_requoteChar (c : Char) : Text.isBlank (requoteChar c) = Text.isBlank c := by
  unfold requoteChar
  split
  · next h => rw [h]; decide
  · rfl

theorem dropBlanks_requoted (s : List Char) :
    Text.dropBlanks (s.map requoteChar) = (Text.dropBlanks s).map requoteChar := by
  have hblank : Text.isBlank ∘ requoteChar = Text.isBlank := funext isBlank_requoteChar
  rw [Text.dropBlanks, List.dropWhile_map, hblank, Text.dropBlanks]

theorem Query.dropCommas_requoted (s : List Char) :
    Query.dropCommas (s.map requoteChar) = (Query.dropCommas s).map requoteChar := by
  induction s using Query.dropCommas.induct with
  | case1 rest ih => exact ih
  | case2 s h =>
    have hmap : ∀ rest, s.map requoteChar ≠ ',' :: ' ' :: rest := by
      intro rest heq
      obtain ⟨c, s, rfl, hc, hs⟩ := List.map_eq_cons_iff.mp heq
      obtain ⟨d, s, rfl, hd, -⟩ := List.map_eq_cons_iff.mp hs
      rw [requoteChar_eq_iff (by decide) (by decide)] at hc hd
      exact h s (by rw [hc, hd])
    rw [Query.dropCommas.eq_2 _ hmap, Query.dropCommas.eq_2 _ h]

namespace Connective

theorem afterWord?_requoted {word : List Char} (hback : '`' ∉ word) (hdouble : '"' ∉ word)
    (s : List Char) :
    afterWord? word (s.map requoteChar) = (afterWord? word s).map (List.map requoteChar) := by
  induction word generalizing s with
  | nil => rfl
  | cons k word ih =>
    rw [List.mem_cons, not_or] at hback hdouble
    cases s with
    | nil => rfl
    | cons c s =>
      have hlower : (requoteChar c).toLower = k ↔ c.toLower = k := by
        unfold requoteChar
        split
        · next hc =>
          subst hc
          exact ⟨fun h => absurd h hdouble.1, fun h => absurd h hback.1⟩
        · exact Iff.rfl
      simp only [List.map_cons, afterWord?, hlower]
      split
      · exact ih hback.2 hdouble.2 s
      · rfl

theorem after?_requoted (k : Connective) (s : List Char) :
    k.after? (s.map requoteChar) = (k.after? s).map (List.map requoteChar) := by
  have hword : Quoteless k.rawKeyword := by cases k <;> decide
  rw [after?, afterWord?_requoted hword.1 hword.2, after?]
  rcases afterWord? k.rawKeyword.toList s with - | - | ⟨c, rest⟩
  · rfl
  · rfl
  · simp only [Option.map_some, List.map_cons, isBlank_requoteChar]
    split <;> rfl

/-- **The first connective is found whatever the quotes.** -/
theorem dropLeading_requoted (s : List Char) :
    dropLeading (s.map requoteChar) = (dropLeading s).map requoteChar := by
  rw [dropLeading, dropBlanks_requoted, after?_requoted, after?_requoted, dropLeading,
    ← Option.map_or]
  cases (and.after? (Text.dropBlanks s)).or (or.after? (Text.dropBlanks s)) with
  | none => rfl
  | some rest => exact dropBlanks_requoted rest

end Connective

/-! ## Names -/

namespace Dialect

/-- A name without quotes in the quotes of the two dialects. -/
theorem identifier_requoted {name : List Char} (h : '`' ∉ name) (h' : '"' ∉ name) :
    identifier '"' name = (identifier '`' name).map requoteChar := by
  rw [identifier_of_notMem h, identifier_of_notMem h']
  split
  · rfl
  · rw [List.map_cons, List.map_append,
      map_requoteChar fun hc => h (Text.stripBlanks_subset name hc)]
    rfl

theorem map_joinPath (ss : List (List Char)) :
    (joinPath ss).map requoteChar = joinPath (ss.map (List.map requoteChar)) := by
  induction ss using joinPath.induct with
  | case1 => rfl
  | case2 s => rfl
  | case3 s t rest ih =>
    rw [joinPath, List.map_append, List.map_cons, ih]
    rfl

/-- **A path without quotes in the quotes of the two dialects.** -/
theorem column_requoted {path : List Char} (h : '`' ∉ path) (h' : '"' ∉ path) :
    column '"' path = (column '`' path).map requoteChar := by
  induction path using column.induct with
  | case1 path name label heq ih =>
    obtain ⟨hname, hlabel⟩ := subset_of_splitAlias? heq
    rw [column_of_some heq, column_of_some heq, List.map_append, List.map_append,
      ih (fun hc => h (hname hc)) (fun hc => h' (hname hc)),
      identifier_requoted (fun hc => h (hlabel hc)) (fun hc => h' (hlabel hc))]
    rfl
  | case2 path heq =>
    rw [column_of_none heq, column_of_none heq, map_joinPath, List.map_map]
    refine congrArg joinPath (List.map_congr_left fun s hs => ?_)
    exact identifier_requoted (fun hc => h (subset_of_mem_segments hs hc))
      fun hc => h' (subset_of_mem_segments hs hc)

end Dialect

/-! ## Twins -/

@[simp] theorem toList_requote (s : String) : (requote s).toList = s.toList.map requoteChar :=
  String.toList_ofList

namespace Twin

variable {s s' u u' : String}

/-- **A text without quotes is its own twin.** -/
theorem plain (h : Quoteless s) : Twin s s :=
  ⟨by rw [requote, map_requoteChar h.1, String.ofList_toList], h.2⟩

theorem toList (h : Twin s s') : s'.toList = s.toList.map requoteChar := by
  rw [h.eq, toList_requote]

/-- Characters that correspond make twins. -/
theorem ofList {cs cs' : List Char} (h : cs' = cs.map requoteChar) (hfree : '"' ∉ cs) :
    Twin (String.ofList cs) (String.ofList cs') :=
  ⟨by rw [h, requote, String.toList_ofList], by rwa [String.toList_ofList]⟩

theorem append (h : Twin s s') (h' : Twin u u') : Twin (s ++ u) (s' ++ u') := by
  refine ⟨?_, ?_⟩
  · rw [h.eq, h'.eq, requote, requote, requote, String.toList_append, List.map_append,
      String.ofList_append]
  · rw [String.toList_append, List.mem_append, not_or]
    exact ⟨h.free, h'.free⟩

/-- Twins behind a text without quotes. -/
theorem behind (h : Twin s s') {u : String} (hu : Quoteless u) : Twin (u ++ s) (u ++ s') :=
  (plain hu).append h

/-- Twins in front of a text without quotes. -/
theorem before (h : Twin s s') {u : String} (hu : Quoteless u) : Twin (s ++ u) (s' ++ u) :=
  h.append (plain hu)

theorem joinWith {sep : String} (hsep : Quoteless sep) {ss ss' : List String}
    (h : List.Forall₂ Twin ss ss') : Twin (Text.joinWith sep ss) (Text.joinWith sep ss') := by
  induction h with
  | nil => exact ⟨rfl, List.not_mem_nil⟩
  | cons hfirst hrest ih =>
    cases hrest with
    | nil => exact hfirst
    | cons _ _ => exact (hfirst.append (plain hsep)).append ih

/-- **Twins are cut alike.** -/
theorem cut {f : List Char → List Char} (hf : Trims f)
    (hmap : ∀ s : List Char, f (s.map requoteChar) = (f s).map requoteChar) (h : Twin s s') :
    Twin (String.ofList (f s.toList)) (String.ofList (f s'.toList)) := by
  refine .ofList (by rw [h.toList, hmap]) fun hc => h.free ?_
  obtain ⟨p, hp, -⟩ := hf s.toList
  rw [hp]
  exact List.mem_append_right p hc

theorem dropLeading (h : Twin s s') :
    Twin (Connective.dropLeadingText s) (Connective.dropLeadingText s') :=
  h.cut Connective.trims_dropLeading Connective.dropLeading_requoted

theorem dropCommas (h : Twin s s') : Twin (String.ofList (Query.dropCommas s.toList))
    (String.ofList (Query.dropCommas s'.toList)) :=
  h.cut Query.trims_dropCommas Query.dropCommas_requoted

/-- One twin begins with a prefix where the other begins with its twin. -/
theorem isPrefixOf_eq (h : Twin s s') (h' : Twin u u') :
    s'.toList.isPrefixOf u'.toList = s.toList.isPrefixOf u.toList := by
  have hchars : ∀ cs ds : List Char, '"' ∉ cs → '"' ∉ ds →
      (cs.map requoteChar).isPrefixOf (ds.map requoteChar) = cs.isPrefixOf ds := by
    intro cs
    induction cs with
    | nil => exact fun _ _ _ => rfl
    | cons c cs ih =>
      intro ds hcs hds
      cases ds with
      | nil => rfl
      | cons d ds =>
        rw [List.mem_cons, not_or] at hcs hds
        have hhead : (requoteChar c == requoteChar d) = (c == d) := by
          rw [Bool.eq_iff_iff, beq_iff_eq, beq_iff_eq]
          exact requoteChar_inj (Ne.symm hcs.1) (Ne.symm hds.1)
        rw [List.map_cons, List.map_cons, List.isPrefixOf, List.isPrefixOf, hhead, ih ds hcs.2 hds.2]
  rw [h.toList, h'.toList, hchars _ _ h.free h'.free]

/-! ## Names and operators -/

theorem quoteColumn {name : String} (h : Quoteless name) :
    Twin (Dialect.mysql.quoteColumn name) (Dialect.sqlite.quoteColumn name) :=
  .ofList (Dialect.column_requoted h.1 h.2) fun hc =>
    (Dialect.mem_column hc).elim (by decide) fun hc => hc.elim (by decide) h.2

theorem quoteIdentifier {name : String} (h : Quoteless name) :
    Twin (Dialect.mysql.quoteIdentifier name) (Dialect.sqlite.quoteIdentifier name) :=
  .ofList (Dialect.identifier_requoted h.1 h.2) fun hc =>
    (Dialect.mem_identifier hc).elim (by decide) h.2

theorem aliased {label : String} (h : Twin s s') (hlabel : Quoteless label) :
    Twin (Dialect.mysql.aliased s label) (Dialect.sqlite.aliased s' label) :=
  (h.before (by decide)).append (quoteIdentifier hlabel)

theorem columnList {columns : List String} (h : ∀ column ∈ columns, Quoteless column) :
    Twin (Dialect.mysql.columnList columns) (Dialect.sqlite.columnList columns) := by
  refine joinWith (by decide) ?_
  rw [List.forall₂_map_left_iff, List.forall₂_map_right_iff, List.forall₂_same]
  exact fun column hcolumn => quoteColumn (h column hcolumn)

end Twin

end FluentSql
