import FluentSql.Proofs.Trim
import FluentSql.Query.Select

/-!
# Proofs/Connective — what taking off the first connective takes away

`Connective.dropLeading` works on characters: it looks for a word, in any case, between blanks.  Two
facts carry everything said about it elsewhere.  Off a text that begins with a connective it takes
exactly the connective and the blanks around it (`dropLeading_keyword`, `dropLeading_rawKeyword`);
off any text at all it takes only letters and blanks (`exists_cut`), so no placeholder and no mark is
ever lost with a connective.
-/

namespace FluentSql

/-! ## Functions that cut a text short in front -/

/-- **What is cut off in front of a list of entries**: blanks, commas and the letters of a connective,
with a blank at the end. -/
structure Cut (p : List Char) : Prop where
  chars : ∀ c ∈ p, Text.isBlank c = true ∨ c = ',' ∨ c.toLower ∈ "andor".toList
  last : p = [] ∨ ∃ u c, p = u ++ [c] ∧ Text.isBlank c = true

/-- No other character goes with what is cut off. -/
theorem Cut.not_mem {p : List Char} (h : Cut p) {c : Char} (hblank : Text.isBlank c = false)
    (hcomma : c ≠ ',') (hletter : c.toLower ∉ "andor".toList) : c ∉ p := fun hc =>
  (h.chars c hc).elim (by simp [hblank]) fun h => h.elim hcomma hletter

/-- **A function that only cuts off a beginning without placeholders.** -/
def Trims (f : List Char → List Char) : Prop :=
  ∀ s, ∃ p : List Char, s = p ++ f s ∧ '?' ∉ p

namespace Query

/-- Commas are cut off with the blanks behind them. -/
theorem exists_cut_dropCommas (s : List Char) : ∃ p : List Char, s = p ++ dropCommas s ∧ Cut p := by
  induction s using dropCommas.induct with
  | case1 rest ih =>
    obtain ⟨p, hrest, hp⟩ := ih
    refine ⟨',' :: ' ' :: p, ?_, ?_, .inr ?_⟩
    · rw [dropCommas, List.cons_append, List.cons_append, ← hrest]
    · exact List.forall_mem_cons.mpr ⟨.inr (.inl rfl), List.forall_mem_cons.mpr ⟨.inl rfl, hp.chars⟩⟩
    · rcases hp.last with rfl | ⟨u, c, rfl, hc⟩
      · exact ⟨[','], ' ', rfl, rfl⟩
      · exact ⟨',' :: ' ' :: u, c, rfl, hc⟩
  | case2 s h => exact ⟨[], by rw [dropCommas.eq_2 s h]; rfl, by simp, .inl rfl⟩

theorem trims_dropCommas : Trims dropCommas := fun s =>
  (exists_cut_dropCommas s).imp fun _ h =>
    ⟨h.1, h.2.not_mem (by decide) (by decide) (by decide)⟩

end Query

namespace Connective

/-- **A word is taken off as it is written**, whatever the case of its letters. -/
theorem exists_append_of_afterWord? {word s rest : List Char} (h : afterWord? word s = some rest) :
    ∃ w : List Char, s = w ++ rest ∧ w.map Char.toLower = word := by
  induction word generalizing s with
  | nil => exact ⟨[], by simpa [afterWord?] using h, rfl⟩
  | cons k word ih =>
    cases s with
    | nil => simp [afterWord?] at h
    | cons c s =>
      simp only [afterWord?] at h
      split at h
      · next hc =>
        obtain ⟨w, hs, hw⟩ := ih h
        exact ⟨c :: w, by rw [hs]; rfl, by rw [List.map_cons, hc, hw]⟩
      · cases h

/-- **The letters in front of what follows a connective** are those of the connective, and a blank
follows. -/
theorem exists_append_of_after? {k : Connective} {s rest : List Char} (h : k.after? s = some rest) :
    ∃ (w : List Char) (c : Char) (tail : List Char), s = w ++ rest ∧
      w.map Char.toLower = k.rawKeyword.toList ∧ rest = c :: tail ∧ Text.isBlank c = true := by
  unfold after? at h
  split at h
  · next c tail hw =>
    split at h
    · next hc =>
      obtain rfl : c :: tail = rest := by simpa using h
      obtain ⟨w, hs, hletters⟩ := exists_append_of_afterWord? hw
      exact ⟨w, c, tail, hs, hletters, rfl, hc⟩
    · cases h
  · cases h

/-- A connective is spelled with its letters. -/
theorem toLower_mem {k : Connective} {w : List Char} (h : w.map Char.toLower = k.rawKeyword.toList) :
    ∀ c ∈ w, c.toLower ∈ "andor".toList := by
  intro c hc
  have hmem : c.toLower ∈ k.rawKeyword.toList := h ▸ List.mem_map_of_mem hc
  cases k with
  | and => exact List.mem_append_left "or".toList hmem
  | or => exact List.mem_append_right "and".toList hmem

/-- **A connective is cut off with the blanks around it**, of which there is one behind it at least. -/
theorem exists_cut (s : List Char) : ∃ p : List Char, s = p ++ dropLeading s ∧ Cut p := by
  unfold dropLeading
  split
  · next rest hrest =>
    obtain ⟨k, hk⟩ : ∃ k : Connective, k.after? (Text.dropBlanks s) = some rest :=
      (Option.or_eq_some_iff.mp hrest).elim (fun h => ⟨.and, h⟩) fun h => ⟨.or, h.2⟩
    obtain ⟨w, c, tail, hw, hletters, rfl, hc⟩ := exists_append_of_after? hk
    obtain ⟨p, hp, hblanks⟩ := Text.exists_blanks_append_dropBlanks s
    obtain ⟨q, hq, hblanks'⟩ := Text.exists_blanks_append_dropBlanks tail
    have hdrop : Text.dropBlanks (c :: tail) = Text.dropBlanks tail :=
      List.dropWhile_cons_of_pos hc
    refine ⟨p ++ (w ++ c :: q), ?_, fun d hd => ?_, .inr ?_⟩
    · rw [hdrop, List.append_assoc, List.append_assoc, List.cons_append, ← hq, ← hw]
      exact hp
    · simp only [List.mem_append, List.mem_cons] at hd
      rcases hd with hd | hd | rfl | hd
      · exact .inl (hblanks d hd)
      · exact .inr (.inr (toLower_mem hletters d hd))
      · exact .inl hc
      · exact .inl (hblanks' d hd)
    · rcases List.eq_nil_or_concat' q with rfl | ⟨u, d, rfl⟩
      · exact ⟨p ++ w, c, by simp, hc⟩
      · exact ⟨p ++ (w ++ c :: u), d, by simp, hblanks' d (by simp)⟩
  · exact ⟨[], rfl, by simp, .inl rfl⟩

/-- **No placeholder goes with a connective.** -/
theorem trims_dropLeading : Trims dropLeading := fun s =>
  (exists_cut s).imp fun _ h => ⟨h.1, h.2.not_mem (by decide) (by decide) (by decide)⟩

/-- **A connective in front is taken off**, and the blanks behind it with it. -/
theorem dropLeading_keyword (k : Connective) (s : List Char) :
    dropLeading (k.keyword.toList ++ ' ' :: s) = Text.dropBlanks s := by
  cases k <;> rfl

/-- The same for the connective of a raw condition. -/
theorem dropLeading_rawKeyword (k : Connective) (s : List Char) :
    dropLeading (k.rawKeyword.toList ++ ' ' :: s) = Text.dropBlanks s := by
  cases k <;> rfl

end Connective

end FluentSql
