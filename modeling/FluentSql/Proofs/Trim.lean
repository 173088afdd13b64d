import FluentSql.Text.Blank
import Mathlib.Data.List.Infix
import Mathlib.Data.List.TakeWhile

/-!
# Proofs/Trim — what trimming takes off and what it leaves

    ␣␣a b␣  ──dropBlanks──▸  a b␣  ──dropTrailingBlanks──▸  a b

Trimming takes off blanks and nothing else, so every other character stays (`mem_stripBlanks`).  What
it leaves is a part of the text (`infix_stripBlanks`) without a blank at either end
(`tight_stripBlanks`), and such a text it leaves as it is (`Tight.stripBlanks_eq`).  Leading blanks end
inside a text that is more than blanks, so that dropping them goes past what stands behind it
(`dropBlanks_append`).
-/

namespace FluentSql.Text

variable {s t : List Char} {c : Char}

/-! ## Leading blanks -/

@[simp] theorem dropBlanks_nil : dropBlanks [] = [] := rfl

/-- Only blanks come before what is left of a text without its leading blanks. -/
theorem exists_blanks_append_dropBlanks (s : List Char) :
    ∃ p : List Char, s = p ++ dropBlanks s ∧ ∀ c ∈ p, isBlank c = true :=
  ⟨s.takeWhile isBlank, List.takeWhile_append_dropWhile.symm, fun _ hc => List.mem_takeWhile_imp hc⟩

/-- A character other than a blank stays. -/
theorem mem_dropBlanks (hc : c ∈ s) (h : isBlank c = false) : c ∈ dropBlanks s := by
  obtain ⟨p, hp, hblanks⟩ := exists_blanks_append_dropBlanks s
  rw [hp] at hc
  refine (List.mem_append.mp hc).resolve_left fun hmem => ?_
  rw [hblanks c hmem] at h
  cases h

/-- A text with a character other than a blank is more than blanks. -/
theorem dropBlanks_ne_nil (hc : c ∈ s) (h : isBlank c = false) : dropBlanks s ≠ [] :=
  List.ne_nil_of_mem (mem_dropBlanks hc h)

theorem isBlank_head?_dropBlanks (hc : c ∈ (dropBlanks s).head?) : isBlank c = false := by
  have hhead := List.head?_dropWhile_not isBlank s
  rw [dropBlanks, Option.mem_def] at hc
  rw [hc] at hhead
  exact hhead

theorem dropBlanks_of_head? (h : ∀ c ∈ s.head?, isBlank c = false) : dropBlanks s = s := by
  cases s with
  | nil => rfl
  | cons c s => exact List.dropWhile_cons_of_neg (by simp [h c rfl])

/-- **Leading blanks end inside a text that is more than blanks**, so what follows the text stays. -/
theorem dropBlanks_append (h : dropBlanks s ≠ []) (t : List Char) :
    dropBlanks (s ++ t) = dropBlanks s ++ t := by
  unfold dropBlanks at h ⊢
  rw [List.dropWhile_append, if_neg (by simpa using h)]

/-- Leading blanks end at the latest where another character begins. -/
theorem dropBlanks_append_cons (s : List Char) (hc : isBlank c = false) (r : List Char) :
    dropBlanks (s ++ c :: r) = dropBlanks s ++ c :: r := by
  by_cases hs : dropBlanks s = []
  · have hall : ∀ a ∈ s, isBlank a = true := List.dropWhile_eq_nil_iff.mp hs
    rw [hs, dropBlanks, List.dropWhile_append_of_pos hall]
    exact List.dropWhile_cons_of_neg (by simp [hc])
  · exact dropBlanks_append hs _

/-! ## Blanks at both ends -/

theorem prefix_stripBlanks (s : List Char) : stripBlanks s <+: dropBlanks s := by
  rw [← List.reverse_suffix, stripBlanks, dropTrailingBlanks, List.reverse_reverse]
  exact List.dropWhile_suffix isBlank

/-- **What trimming leaves is a part of the text.** -/
theorem infix_stripBlanks (s : List Char) : stripBlanks s <:+: s :=
  (prefix_stripBlanks s).isInfix.trans (List.dropWhile_suffix isBlank).isInfix

theorem stripBlanks_subset (s : List Char) : stripBlanks s ⊆ s := (infix_stripBlanks s).subset

/-- **Trimming takes off nothing but blanks.** -/
theorem mem_stripBlanks (hc : c ∈ s) (h : isBlank c = false) : c ∈ stripBlanks s :=
  List.mem_reverse.mpr (mem_dropBlanks (List.mem_reverse.mpr (mem_dropBlanks hc h)) h)

/-- A text that trimming leaves nothing of is all blank. -/
theorem isBlank_of_stripBlanks_eq_nil (h : stripBlanks s = []) (hc : c ∈ s) :
    isBlank c = true := by
  by_contra hblank
  have hmem := mem_stripBlanks hc (Bool.not_eq_true _ ▸ hblank)
  rw [h] at hmem
  cases hmem

/-! ## Texts without a blank at either end -/

/-- **A text without a blank at either end.** -/
structure Tight (s : List Char) : Prop where
  first : ∀ c ∈ s.head?, isBlank c = false
  last : ∀ c ∈ s.getLast?, isBlank c = false

instance (s : List Char) : Decidable (Tight s) :=
  decidable_of_iff (s.head?.all (!isBlank ·) = true ∧ s.getLast?.all (!isBlank ·) = true) <| by
    simp only [Option.all_eq_true, Bool.not_eq_true']
    exact ⟨fun h => ⟨h.1, h.2⟩, fun h => ⟨h.first, h.last⟩⟩

/-- **Trimming leaves a tight text.** -/
theorem tight_stripBlanks (s : List Char) : Tight (stripBlanks s) where
  first c hc := by
    obtain ⟨rest, hrest⟩ := prefix_stripBlanks s
    refine isBlank_head?_dropBlanks (s := s) ?_
    rw [← hrest]
    exact List.mem_head?_append_of_mem_head? hc
  last c hc := by
    rw [stripBlanks, dropTrailingBlanks, List.getLast?_reverse] at hc
    exact isBlank_head?_dropBlanks hc

/-- **Trimming leaves a tight text as it is.** -/
theorem Tight.stripBlanks_eq (h : Tight s) : stripBlanks s = s := by
  have hback : dropBlanks s.reverse = s.reverse :=
    dropBlanks_of_head? (by rw [List.head?_reverse]; exact h.last)
  rw [stripBlanks, dropBlanks_of_head? h.first, dropTrailingBlanks]
  exact (congrArg List.reverse hback).trans s.reverse_reverse

/-- A text without blanks is tight. -/
theorem tight_of_forall (h : ∀ c ∈ s, isBlank c = false) : Tight s where
  first c hc := h c (List.mem_of_mem_head? hc)
  last c hc := h c (List.mem_of_mem_getLast? hc)

/-- **Trimming twice is trimming once.** -/
theorem stripBlanks_stripBlanks (s : List Char) : stripBlanks (stripBlanks s) = stripBlanks s :=
  (tight_stripBlanks s).stripBlanks_eq

/-- A text is tight with a character other than a blank inside it, if its two parts are. -/
theorem Tight.append_cons (hs : Tight s) (ht : Tight t) (hc : isBlank c = false) :
    Tight (s ++ c :: t) where
  first := by
    cases s with
    | nil => simpa using hc
    | cons d s => simpa using hs.first
  last := by
    rcases List.eq_nil_or_concat' t with rfl | ⟨t, d, rfl⟩
    · simpa using hc
    · have hlast := ht.last
      have hend : s ++ c :: (t ++ [d]) = s ++ c :: t ++ [d] := by simp
      rw [List.getLast?_concat] at hlast
      rwa [hend, List.getLast?_concat]

/-- The front of a tight text is not all blank. -/
theorem Tight.exists_front (h : Tight (s ++ t)) (hs : s ≠ []) : ∃ c ∈ s, isBlank c = false := by
  obtain ⟨c, s, rfl⟩ := List.exists_cons_of_ne_nil hs
  exact ⟨c, List.mem_cons_self, h.first c rfl⟩

/-- The back of a tight text is not all blank. -/
theorem Tight.exists_back (h : Tight (s ++ t)) (ht : t ≠ []) : ∃ c ∈ t, isBlank c = false := by
  refine ⟨t.getLast ht, List.getLast_mem ht, h.last _ ?_⟩
  rw [List.getLast?_append_of_ne_nil s ht, List.getLast?_eq_some_getLast ht]
  rfl

end FluentSql.Text
