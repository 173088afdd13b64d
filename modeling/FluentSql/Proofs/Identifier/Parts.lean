import FluentSql.Proofs.Identifier.Path

/-!
# Proofs/Identifier/Parts — where a column is cut

    a.b as c  ──▸  a.b │ c  ──▸  a │ b │ c

A column is cut at its last ` as `, and what stands before it at its points.  What a cut leaves is a
part of the column, so a word that it shows the column shows too; and a word without a separator lies
on one side of it (`append_eq_append_cons`).  So ` as ` lies in one segment of a path, and no character
that it does not have, doubled or not, brings it in (`showsAs_append_cons`, `showsAs_doubled`).

A cut is declined when one of its two parts would be blank.  That comes from a blank at an end of the
column, and a text without one is cut wherever it shows ` as ` (`splitAlias?_of_tight`).
-/

namespace FluentSql

namespace Dialect

/-! ## Where a word can stand -/

section

variable {α : Type} {u v w s t : List α} {c : α}

/-- **A word without a separator stands on one side of it.** -/
theorem append_eq_append_cons (hc : c ∉ w) (h : u ++ w ++ v = s ++ c :: t) :
    (∃ v', s = u ++ w ++ v' ∧ v = v' ++ c :: t) ∨ ∃ u', u = s ++ c :: u' ∧ t = u' ++ w ++ v := by
  rcases List.append_eq_append_iff.mp h with ⟨v', hs, hv⟩ | ⟨w', huw, hv⟩
  · exact .inl ⟨v', hs, hv⟩
  -- The separator is behind the word, or in front of it: inside it there is none.
  · rcases List.cons_eq_append_iff.mp hv with ⟨rfl, hv⟩ | ⟨rest, rfl, rfl⟩
    · exact .inl ⟨[], by rw [List.append_nil, huw, List.append_nil], hv.symm⟩
    · rcases List.append_eq_append_iff.mp huw with ⟨w', -, hw⟩ | ⟨u', hu, hrest⟩
      · exact absurd (by rw [hw]; simp) hc
      · rcases List.cons_eq_append_iff.mp hrest with ⟨rfl, hw⟩ | ⟨u', rfl, hw⟩
        · exact absurd (by rw [hw]; simp) hc
        · exact .inr ⟨u', hu, by rw [hw]⟩

theorem infix_append_cons_iff (hc : c ∉ w) : w <:+: s ++ c :: t ↔ w <:+: s ∨ w <:+: t := by
  constructor
  · rintro ⟨u, v, h⟩
    rcases append_eq_append_cons hc h with ⟨v', hs, -⟩ | ⟨u', -, ht⟩
    · exact .inl ⟨u, v', hs.symm⟩
    · exact .inr ⟨u', v, ht.symm⟩
  · rintro (h | h)
    · exact h.trans (List.prefix_append s _).isInfix
    · exact h.trans ((List.suffix_cons c t).trans (List.suffix_append s _)).isInfix

end

/-! ## Segments -/

theorem point_notMem_segments {path s : List Char} (hs : s ∈ segments path) : '.' ∉ s := by
  induction path generalizing s with
  | nil =>
    rw [List.mem_singleton.mp hs]
    exact List.not_mem_nil
  | cons c path ih =>
    rw [segments] at hs
    split at hs
    · rcases List.mem_cons.mp hs with rfl | hs
      · exact List.not_mem_nil
      · exact ih hs
    · next hc =>
      obtain ⟨r, more, hmore⟩ := List.exists_cons_of_ne_nil (segments_ne_nil path)
      rw [hmore] at hs ih
      rcases List.mem_cons.mp hs with rfl | hs
      · exact List.not_mem_cons_of_ne_of_not_mem (Ne.symm hc) (ih List.mem_cons_self)
      · exact ih (List.mem_cons_of_mem r hs)

/-- **A path is its segments with points between them.** -/
theorem joinPath_segments (path : List Char) : joinPath (segments path) = path := by
  induction path with
  | nil => rfl
  | cons c path ih =>
    obtain ⟨r, more, hmore⟩ := List.exists_cons_of_ne_nil (segments_ne_nil path)
    rw [segments, hmore]
    rw [hmore] at ih
    split
    · next hc => rw [hc, joinPath, ih, List.nil_append]
    · cases more <;> rw [← ih] <;> rfl

theorem infix_joinPath {ss : List (List Char)} {s : List Char} (hs : s ∈ ss) :
    s <:+: joinPath ss := by
  induction ss using joinPath.induct with
  | case1 => cases hs
  | case2 t =>
    rw [List.mem_singleton.mp hs]
    exact List.infix_refl t
  | case3 t r rest ih =>
    rcases List.mem_cons.mp hs with rfl | hs
    · exact (List.prefix_append s _).isInfix
    · exact (ih hs).trans ((List.suffix_cons '.' _).trans (List.suffix_append t _)).isInfix

/-- **A word without a point stands in one segment of a path**, and what follows it in the segment
follows it in the path. -/
theorem exists_of_joinPath {ss : List (List Char)} {u w v : List Char} (hpoint : '.' ∉ w)
    (hw : w ≠ []) (h : u ++ w ++ v = joinPath ss) :
    ∃ s ∈ ss, ∃ u' v' rest, s = u' ++ w ++ v' ∧ v = v' ++ rest := by
  induction ss using joinPath.induct generalizing u with
  | case1 => simp [joinPath, hw] at h
  | case2 s => exact ⟨s, List.mem_cons_self, u, v, [], h.symm, (List.append_nil v).symm⟩
  | case3 s t rest ih =>
    rcases append_eq_append_cons hpoint h with ⟨v', hs, hv⟩ | ⟨u', -, hrest⟩
    · exact ⟨s, List.mem_cons_self, u, v', _, hs, hv⟩
    · obtain ⟨r, hr, hin⟩ := ih hrest.symm
      exact ⟨r, List.mem_cons_of_mem s hr, hin⟩

/-! ## Where ` as ` can stand -/

/-- **A character that ` as ` does not have**, in any case. -/
def OutsideAs (c : Char) : Prop := c ≠ ' ' ∧ c.toLower ≠ 'a' ∧ c.toLower ≠ 's'

instance (c : Char) : Decidable (OutsideAs c) := inferInstanceAs (Decidable (_ ∧ _))

theorem OutsideAs.notMem {c : Char} (hc : OutsideAs c) {word : List Char} (hword : IsAs word) :
    c ∉ ' ' :: (word ++ [' ']) := by
  obtain ⟨hspace, ha, hs⟩ := hc
  obtain ⟨first, second, rfl, hfirst, hsecond⟩ := isAs_iff.mp hword
  have hne {d e : Char} (hd : d.toLower = e) (hce : c.toLower ≠ e) : c ≠ d := fun h =>
    hce (by rw [h, hd])
  simpa [hspace] using ⟨hne hfirst ha, hne hsecond hs⟩

theorem ShowsAs.mono {s t : List Char} (h : ShowsAs s) (hst : s <:+: t) : ShowsAs t :=
  h.imp fun _ ⟨hword, hin⟩ => ⟨hword, hin.trans hst⟩

theorem not_showsAs_nil : ¬ ShowsAs [] := splitLastAs?_eq_none_iff.mp rfl

theorem not_showsAs_stripBlanks {s : List Char} (h : ¬ ShowsAs s) :
    ¬ ShowsAs (Text.stripBlanks s) := fun hstrip =>
  h (hstrip.mono (Text.infix_stripBlanks s))

/-- **A character that ` as ` does not have separates it.** -/
theorem showsAs_append_cons {c : Char} (hc : OutsideAs c) {s t : List Char} :
    ShowsAs (s ++ c :: t) ↔ ShowsAs s ∨ ShowsAs t := by
  refine (exists_congr fun word => and_congr_right fun hword =>
    infix_append_cons_iff (hc.notMem hword)).trans ?_
  simp only [and_or_left, exists_or, ShowsAs]

theorem showsAs_cons {c : Char} (hc : OutsideAs c) {s : List Char} :
    ShowsAs (c :: s) ↔ ShowsAs s := by
  have h := showsAs_append_cons hc (s := []) (t := s)
  rwa [List.nil_append, or_iff_right not_showsAs_nil] at h

/-- Doubling a character that ` as ` does not have brings in no ` as `. -/
theorem showsAs_doubled {q : Char} (hq : OutsideAs q) (front s : List Char) :
    ShowsAs (front ++ doubled q s) ↔ ShowsAs (front ++ s) := by
  induction s generalizing front with
  | nil => rfl
  | cons c s ih =>
    rw [doubled]
    split
    · next hc =>
      subst hc
      rw [showsAs_append_cons hq, showsAs_append_cons hq, showsAs_cons hq]
      exact or_congr_right (ih [])
    · rw [List.append_cons, ih, ← List.append_cons]

theorem not_showsAs_joinPath {ss : List (List Char)} (h : ∀ s ∈ ss, ¬ ShowsAs s) :
    ¬ ShowsAs (joinPath ss) := by
  rintro ⟨word, hword, u, v, hin⟩
  have hpoint : OutsideAs '.' := by decide
  obtain ⟨s, hs, u', v', -, heq, -⟩ := exists_of_joinPath (hpoint.notMem hword) (by simp) hin
  exact h s hs ⟨word, hword, u', v', heq.symm⟩

/-! ## Splitting a column from its label -/

/-- **Where a column is split**: at its last ` as `. -/
theorem eq_of_splitLastAs? {s before after : List Char}
    (h : splitLastAs? s = some (before, after)) :
    ∃ word, IsAs word ∧ s = before ++ ' ' :: (word ++ ' ' :: after) ∧ ¬ ShowsAs (' ' :: after) := by
  induction s generalizing before with
  | nil => cases h
  | cons c s ih =>
    rw [splitLastAs?] at h
    split at h
    · next before' after' heq =>
      cases h
      obtain ⟨word, hword, hs, hlast⟩ := ih heq
      exact ⟨word, hword, by rw [hs, List.cons_append], hlast⟩
    · next heq =>
      obtain ⟨rest, hrest, hsplit⟩ := Option.map_eq_some_iff.mp h
      cases hsplit
      obtain ⟨word, hword, hs⟩ := afterAs?_eq_some_iff.mp hrest
      refine ⟨word, hword, hs, fun hshows => splitLastAs?_eq_none_iff.mp heq ?_⟩
      rw [(List.cons.inj hs).2]
      exact hshows.mono (List.suffix_append word _).isInfix

/-- The parts that a column is split into are trimmed. -/
theorem eq_of_splitAlias? {s name label : List Char} (h : splitAlias? s = some (name, label)) :
    ∃ before after, ¬ ShowsAs after ∧ name = Text.stripBlanks before ∧
      label = Text.stripBlanks after := by
  unfold splitAlias? at h
  split at h
  · next before after heq =>
    split at h
    · cases h
    · obtain ⟨word, -, -, hlast⟩ := eq_of_splitLastAs? heq
      cases h
      exact ⟨before, after, mt (·.cons ' ') hlast, rfl, rfl⟩
  · cases h

/-- **A tight text is split wherever it shows ` as `**, as its first and its last character belong to
the two parts. -/
theorem splitAlias?_of_tight {s : List Char} (hs : Text.Tight s) :
    splitAlias? s = (splitLastAs? s).map fun r => (Text.stripBlanks r.1, Text.stripBlanks r.2) := by
  rw [splitAlias?]
  cases hsplit : splitLastAs? s with
  | none => rfl
  | some r =>
    obtain ⟨before, after⟩ := r
    obtain ⟨word, -, rfl, -⟩ := eq_of_splitLastAs? hsplit
    have hblank {t : List Char} (ht : Text.stripBlanks t = []) {c : Char} (hc : c ∈ t ∨ c = ' ') :
        Text.isBlank c = true := by
      rcases hc with hc | rfl
      · exact Text.isBlank_of_stripBlanks_eq_nil ht hc
      · decide
    refine if_neg (not_or.mpr ⟨fun hbefore => ?_, fun hafter => ?_⟩)
    · rw [List.append_cons] at hs
      obtain ⟨c, hc, hfirst⟩ := hs.exists_front (by simp)
      rw [hblank hbefore (by simpa using hc)] at hfirst
      cases hfirst
    · rw [← List.cons_append, ← List.append_assoc] at hs
      obtain ⟨c, hc, hlast⟩ := hs.exists_back (List.cons_ne_nil ' ' after)
      rw [hblank hafter (by simpa [or_comm] using hc)] at hlast
      cases hlast

theorem splitAlias?_eq_none_of_not_showsAs {s : List Char} (h : ¬ ShowsAs s) :
    splitAlias? s = none := by
  rw [splitAlias?, splitLastAs?_eq_none_iff.mpr h]

theorem not_showsAs_of_tight {s : List Char} (hs : Text.Tight s) (h : splitAlias? s = none) :
    ¬ ShowsAs s := by
  rw [splitAlias?_of_tight hs, Option.map_eq_none_iff] at h
  exact splitLastAs?_eq_none_iff.mp h

end Dialect

end FluentSql
