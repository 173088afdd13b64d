import FluentSql.Proofs.Keyword.Scan

/-!
# Proofs/Keyword/Name — quoted names and operators show no clause keyword

Quoting puts an identifier between two quotes and doubles the quotes inside, so a scan that comes in
at the first quote goes out at the last one and sees nothing of it (`sealed_identifier`).  The one
identifier that is not so written is the one that looks quoted already: it passes through as it is,
and has to show no keyword itself (`Tidy`).  Operators are written without quotes; an accepted one is a
known one up to the case of its letters, and case does not matter to keywords (`keywordsOf_lowerCase`).
-/

namespace FluentSql

open Scan

/-! ## Names that are tidy -/

/-- **An identifier that shows no keyword if it looks quoted already.** -/
def Dialect.Tidy (d : Dialect) (name : List Char) : Prop :=
  isQuoted d.quote (Text.stripBlanks name) = true → Inert (String.ofList (Text.stripBlanks name))

instance (d : Dialect) (name : List Char) : Decidable (d.Tidy name) :=
  inferInstanceAs (Decidable (_ → _))

namespace Dialect

/-- **The identifiers that a path is quoted as**: the segments between its points and its labels. -/
@[semireducible] def pieces (path : List Char) : List (List Char) :=
  match _h : splitAlias? path with
  | some (name, label) => pieces name ++ [label]
  | none => segments path
termination_by path.length
decreasing_by exact length_splitAlias? ‹_›

/-! ## Between quotes -/

/-- **A scan in a quote goes over doubled quotes and out at the next single one**, and sees nothing. -/
theorem scan_doubled {q : Char} (hq : isQuote q = true) (s : List Char) :
    closes ⟨some q, 0⟩ (doubled q s ++ [q]) = true ∧
      ∀ c ∈ outside ⟨some q, 0⟩ (doubled q s ++ [q]), c = ' ' := by
  have hmark : isMark q = true := by simp [isMark, hq]
  have hlook : ∀ c, Place.look ⟨some q, 0⟩ c = ' ' := fun c => if_neg fun h => by cases h.1
  have hreopen : Place.look ⟨none, 0⟩ q = ' ' := if_neg fun h => by simp [hmark] at h
  have hout : Place.next ⟨some q, 0⟩ q = ⟨none, 0⟩ := if_pos rfl
  have hin : Place.next ⟨none, 0⟩ q = ⟨some q, 0⟩ := if_pos hq
  have hquote : Place.overruns ⟨none, 0⟩ q = false := by
    have : q ≠ ')' := by
      rintro rfl
      cases hq
    simp [Place.overruns, this]
  induction s with
  | nil =>
    rw [doubled, List.nil_append, closes, outside, hout]
    exact ⟨rfl, List.forall_mem_singleton.mpr (hlook q)⟩
  | cons c s ih =>
    rw [doubled]
    split
    · next hc =>
      subst hc
      simp only [List.cons_append, closes, outside, hout, hin, hquote]
      exact ⟨ih.1, List.forall_mem_cons.mpr ⟨hlook c, List.forall_mem_cons.mpr ⟨hreopen, ih.2⟩⟩⟩
    · next hc =>
      have hstay : Place.next ⟨some q, 0⟩ c = ⟨some q, 0⟩ := if_neg hc
      simp only [List.cons_append, closes, outside, hstay]
      exact ⟨ih.1, List.forall_mem_cons.mpr ⟨hlook c, ih.2⟩⟩

/-- A quote is a break between words. -/
theorem isWordChar_of_isQuote {q : Char} (h : isQuote q = true) : isWordChar q = false := by
  simp only [isQuote, Bool.or_eq_true, beq_iff_eq] at h
  rcases h with rfl | rfl <;> decide

/-- A text that looks quoted begins and ends with the quote. -/
theorem breaks_of_isQuoted {q : Char} (hq : isQuote q = true) {s : List Char}
    (h : isQuoted q s = true) : breaksFirst s = true ∧ breaksLast s = true := by
  have hbreak := isWordChar_of_isQuote hq
  obtain ⟨body, rfl⟩ := isQuoted_iff.mp h
  refine ⟨breaksFirst_iff.mpr ⟨q, _, rfl, hbreak⟩, ?_⟩
  rw [breaksLast, ← List.cons_append, List.getLast?_concat]
  simp [hbreak]

variable {d : Dialect}

/-- **A quoted identifier shows no keyword.** -/
theorem sealed_identifier (hq : isQuote d.quote = true) {name : List Char} (h : d.Tidy name) :
    Sealed (String.ofList (identifier d.quote name)) := by
  rw [identifier]
  split
  · next hpass =>
    rcases hpass with hstar | hquoted
    · rw [hstar]
      decide
    · have hbreaks := breaks_of_isQuoted hq hquoted
      exact ⟨h hquoted, by rw [String.toList_ofList]; exact hbreaks.1,
        by rw [String.toList_ofList]; exact hbreaks.2⟩
  · have hbreak := isWordChar_of_isQuote hq
    have hmark : isMark d.quote = true := by simp [isMark, hq]
    obtain ⟨hcloses, hblanks⟩ := scan_doubled hq (Text.stripBlanks name)
    have hin : Place.outer.next d.quote = ⟨some d.quote, 0⟩ := if_pos hq
    have hquote : Place.outer.overruns d.quote = false := by
      have hne : d.quote ≠ ')' := fun he => by
        rw [he] at hq
        cases hq
      simp [Place.overruns, hne]
    have hlook : Place.outer.look d.quote = ' ' := if_neg fun h => by simp [hmark] at h
    refine ⟨⟨?_, ?_⟩, ?_, ?_⟩
    · rw [Closed, String.toList_ofList, closes, hquote, hin]
      exact hcloses
    · rw [keywords, String.toList_ofList, outside, hin, hlook]
      exact keywordsOf_blanks (List.forall_mem_cons.mpr ⟨rfl, hblanks⟩)
    · rw [String.toList_ofList]
      exact breaksFirst_iff.mpr ⟨d.quote, _, rfl, hbreak⟩
    · rw [String.toList_ofList]
      exact breaksLast_iff.mpr ⟨d.quote :: doubled d.quote _, d.quote, rfl, hbreak⟩

/-! ## Paths -/

/-- Sealed texts with a point between them. -/
theorem sealed_point {s u : String} (hs : Sealed s) (hu : Sealed u) : Sealed (s ++ "." ++ u) where
  closed := (hs.closed.append (by decide)).append hu.closed
  keywords := by
    rw [keywords_append_of_first (hs.closed.append (by decide)) hu.first,
      keywords_append_of_last hs.closed hs.last, hs.keywords, hu.keywords]
    decide
  first := by
    rw [String.append_assoc, String.toList_append]
    exact breaksFirst_append hs.first _
  last := by
    rw [String.toList_append]
    exact breaksLast_append _ hu.last

theorem sealed_joinPath {ss : List (List Char)} (hne : ss ≠ [])
    (h : ∀ s ∈ ss, Sealed (String.ofList s)) : Sealed (String.ofList (joinPath ss)) := by
  induction ss using joinPath.induct with
  | case1 => exact absurd rfl hne
  | case2 s => exact h s List.mem_cons_self
  | case3 s t rest ih =>
    obtain ⟨hs, hrest⟩ := List.forall_mem_cons.mp h
    have hpath : String.ofList (joinPath (s :: t :: rest)) =
        String.ofList s ++ "." ++ String.ofList (joinPath (t :: rest)) := by
      rw [joinPath, String.append_assoc, String.ofList_append]
      exact congrArg (String.ofList s ++ ·) (@String.ofList_append ['.'] _)
    rw [hpath]
    exact sealed_point hs (ih (List.cons_ne_nil t rest) hrest)

/-- **A quoted path shows no keyword**, with or without a label. -/
theorem sealed_column (hq : isQuote d.quote = true) {path : List Char}
    (h : ∀ s ∈ pieces path, d.Tidy s) : Sealed (String.ofList (column d.quote path)) := by
  induction path using column.induct with
  | case1 path name label heq ih =>
    rw [pieces, heq] at h
    obtain ⟨hname, hlabel⟩ := List.forall_mem_append.mp h
    rw [column_of_some heq, String.ofList_append, String.ofList_append]
    exact ((ih hname).append (by decide)).append
      (sealed_identifier hq (hlabel label List.mem_cons_self))
  | case2 path heq =>
    rw [pieces, heq] at h
    rw [column_of_none heq]
    refine sealed_joinPath (by simpa using segments_ne_nil path) fun s hs => ?_
    obtain ⟨segment, hsegment, rfl⟩ := List.mem_map.mp hs
    exact sealed_identifier hq (h segment hsegment)

end Dialect

/-! ## Operators -/

namespace Operator

/-- Beyond ASCII a letter stays as it is, but for the Kelvin sign. -/
theorem lowerCase_of_not_ascii {c : Char} (h : ¬ c.toNat < 128) (hk : c ≠ '\u212a') :
    lowerCase c = c := by
  rw [lowerCase, if_neg hk]
  exact dif_neg fun hletter => h (Nat.lt_of_le_of_lt hletter.2 (by decide))

/-- What holds of all of ASCII, of the Kelvin sign and of what has no case holds of every character. -/
theorem forall_lowerCase {P : Char → Prop} (hascii : ∀ n < 128, P (Char.ofNat n))
    (hkelvin : P '\u212a') (hrest : ∀ c, lowerCase c = c → P c) (c : Char) : P c := by
  by_cases h : c.toNat < 128
  · have hc := hascii c.toNat h
    rwa [Char.ofNat_toNat] at hc
  · by_cases hk : c = '\u212a'
    · exact hk ▸ hkelvin
    · exact hrest c (lowerCase_of_not_ascii h hk)

theorem isWordChar_lowerCase (c : Char) : isWordChar (lowerCase c) = isWordChar c :=
  forall_lowerCase (P := fun c => isWordChar (lowerCase c) = isWordChar c) (by decide +kernel)
    (by decide) (fun c hc => by rw [hc]) c

theorem lowerCase_lowerCase (c : Char) : lowerCase (lowerCase c) = lowerCase c :=
  forall_lowerCase (P := fun c => lowerCase (lowerCase c) = lowerCase c) (by decide +kernel)
    (by decide) (fun c hc => by rw [hc, hc]) c

/-- **Keywords are read in any case.** -/
theorem keywordsOf_lowerCase (s : List Char) : keywordsOf (s.map lowerCase) = keywordsOf s := by
  have hwords : (s.map lowerCase).splitOnP (fun c => !isWordChar c) =
      (s.splitOnP fun c => !isWordChar c).map (List.map lowerCase) := by
    induction s with
    | nil => rfl
    | cons c s ih =>
      rw [List.map_cons, List.splitOnP_cons_eq_if_modifyHead, List.splitOnP_cons_eq_if_modifyHead,
        isWordChar_lowerCase, ih]
      split
      · rfl
      · cases s.splitOnP fun c => !isWordChar c <;> rfl
  have hkeyword : ∀ w : List Char, keyword? (w.map lowerCase) = keyword? w := by
    intro w
    have hmap : lowerCase ∘ lowerCase = lowerCase := funext lowerCase_lowerCase
    rw [keyword?, List.map_map, hmap, keyword?]
  rw [keywordsOf, hwords, List.filterMap_map, keywordsOf]
  exact List.filterMap_congr fun w _ => hkeyword w

/-- **An accepted operator shows no clause keyword.** -/
theorem Known.inert {op : String} (h : Known op) : Inert op := by
  obtain ⟨hcloses, hseen⟩ := closes_of_isMark (isMark_of_not_mem (h.not_mem (by decide) (by decide))
    (h.not_mem (by decide) (by decide)) (h.not_mem (by decide) (by decide))
    (h.not_mem (by decide) (by decide)))
  obtain ⟨known, hknown, heq⟩ := h
  have hnone : ∀ known ∈ operators, keywordsOf known.toList = [] := by decide +kernel
  refine ⟨hcloses, ?_⟩
  rw [keywords, hseen, ← keywordsOf_lowerCase, heq]
  exact hnone known hknown

end Operator

end FluentSql
