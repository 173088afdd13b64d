import FluentSql.Dialect.Quote
import FluentSql.Proofs.Trim

/-!
# Proofs/Quote — the characters of a quoted name

Quoting adds nothing of its own but quotes, points and the word between a path and its alias: a
character of a quoted name is one of these or comes from the name (`mem_column`).  So a name without
placeholders is quoted without placeholders, whatever the dialect's quote, as long as that is none
(`not_mem_quoteColumn`).
-/

namespace FluentSql

namespace Dialect

theorem doubled_subset (quote : Char) (s : List Char) : doubled quote s ⊆ s := by
  induction s with
  | nil => exact List.Subset.refl _
  | cons c s ih =>
    intro d hd
    unfold doubled at hd
    split at hd
    · rcases List.mem_cons.mp hd with rfl | hd
      · exact List.mem_cons_self
      · exact (List.mem_cons.mp hd).elim (fun h => h ▸ List.mem_cons_self)
          fun h => List.mem_cons_of_mem c (ih h)
    · exact (List.mem_cons.mp hd).elim (fun h => h ▸ List.mem_cons_self)
        fun h => List.mem_cons_of_mem c (ih h)

theorem doubled_of_notMem {quote : Char} {s : List Char} (h : quote ∉ s) : doubled quote s = s := by
  induction s with
  | nil => rfl
  | cons c s ih =>
    rw [List.mem_cons, not_or] at h
    rw [doubled, if_neg (Ne.symm h.1), ih h.2]

/-- **A text looks quoted** when it begins and ends with the quote, at two different places. -/
theorem isQuoted_iff {quote : Char} {s : List Char} :
    isQuoted quote s = true ↔ ∃ body, s = quote :: (body ++ [quote]) := by
  constructor
  · intro h
    unfold isQuoted at h
    split at h
    · next c d rest =>
      rw [Bool.and_eq_true, beq_iff_eq, beq_iff_eq] at h
      obtain ⟨body, hbody⟩ := List.getLast?_eq_some_iff.mp h.2
      exact ⟨body, by rw [h.1, hbody]⟩
    · cases h
  · rintro ⟨body, rfl⟩
    cases body with
    | nil => simp [isQuoted]
    | cons c body => simp [isQuoted, List.getLast?_cons]

theorem isQuoted_of_notMem {quote : Char} {s : List Char} (h : quote ∉ s) :
    isQuoted quote s = false := by
  rw [Bool.eq_false_iff]
  intro hquoted
  obtain ⟨body, rfl⟩ := isQuoted_iff.mp hquoted
  exact h List.mem_cons_self

/-- **A name without quotes is put between quotes**, unless it is the one for all columns. -/
theorem identifier_of_notMem {quote : Char} {name : List Char} (h : quote ∉ name) :
    identifier quote name =
      if Text.stripBlanks name = ['*'] then ['*']
      else quote :: (Text.stripBlanks name ++ [quote]) := by
  have hstrip : quote ∉ Text.stripBlanks name := fun hc => h (Text.stripBlanks_subset name hc)
  simp only [identifier, isQuoted_of_notMem hstrip, doubled_of_notMem hstrip, or_false,
    Bool.false_eq_true]
  split
  · next heq => exact heq
  · rfl

/-- A character of a quoted identifier is the quote or one of the name. -/
theorem mem_identifier {quote c : Char} {name : List Char} (h : c ∈ identifier quote name) :
    c = quote ∨ c ∈ name := by
  simp only [identifier] at h
  split at h
  · exact .inr (Text.stripBlanks_subset name h)
  · rcases List.mem_cons.mp h with h | h
    · exact .inl h
    · rcases List.mem_append.mp h with h | h
      · exact .inr (Text.stripBlanks_subset name (doubled_subset quote _ h))
      · exact .inl (List.mem_singleton.mp h)

theorem segments_ne_nil (path : List Char) : segments path ≠ [] := by
  unfold segments
  split
  · exact List.cons_ne_nil _ _
  · split
    · exact List.cons_ne_nil _ _
    · split <;> exact List.cons_ne_nil _ _

theorem subset_of_mem_segments {path s : List Char} (h : s ∈ segments path) : s ⊆ path := by
  induction path generalizing s with
  | nil =>
    obtain rfl : s = [] := List.mem_singleton.mp h
    exact List.Subset.refl _
  | cons c path ih =>
    unfold segments at h
    split at h
    · rcases List.mem_cons.mp h with rfl | h
      · exact List.nil_subset _
      · exact List.subset_cons_of_subset c (ih h)
    · split at h
      · obtain rfl : s = [c] := List.mem_singleton.mp h
        exact List.cons_subset.mpr ⟨List.mem_cons_self, List.nil_subset _⟩
      · next t more heq =>
        rw [heq] at ih
        rcases List.mem_cons.mp h with rfl | h
        · exact List.cons_subset_cons c (ih List.mem_cons_self)
        · exact List.subset_cons_of_subset c (ih (List.mem_cons_of_mem t h))

theorem mem_joinPath {c : Char} {ss : List (List Char)} (h : c ∈ joinPath ss) :
    c = '.' ∨ ∃ s ∈ ss, c ∈ s := by
  induction ss using joinPath.induct with
  | case1 => simp [joinPath] at h
  | case2 s => exact .inr ⟨s, List.mem_cons_self, h⟩
  | case3 s t rest ih =>
    rw [joinPath] at h
    rcases List.mem_append.mp h with h | h
    · exact .inr ⟨s, List.mem_cons_self, h⟩
    · rcases List.mem_cons.mp h with h | h
      · exact .inl h
      · exact (ih h).imp_right fun ⟨u, hu, hc⟩ => ⟨u, List.mem_cons_of_mem s hu, hc⟩

theorem subset_of_afterAs? {s rest : List Char} (h : afterAs? s = some rest) : rest ⊆ s := by
  unfold afterAs? at h
  split at h
  · next a b tail =>
    split at h
    · obtain rfl : tail = rest := Option.some.inj h
      exact fun _ hc => by simp [hc]
    · cases h
  · cases h

theorem subset_of_splitLastAs? {s before after : List Char}
    (h : splitLastAs? s = some (before, after)) : before ⊆ s ∧ after ⊆ s := by
  induction s generalizing before with
  | nil => simp [splitLastAs?] at h
  | cons c s ih =>
    unfold splitLastAs? at h
    split at h
    · next before' after' heq =>
      simp only [Option.some.injEq, Prod.mk.injEq] at h
      obtain ⟨rfl, rfl⟩ := h
      obtain ⟨hb, ha⟩ := ih heq
      exact ⟨List.cons_subset_cons c hb, List.subset_cons_of_subset c ha⟩
    · simp only [Option.map_eq_some_iff, Prod.mk.injEq] at h
      obtain ⟨_, h, rfl, rfl⟩ := h
      exact ⟨List.nil_subset _, subset_of_afterAs? h⟩

theorem subset_of_splitAlias? {path name label : List Char}
    (h : splitAlias? path = some (name, label)) : name ⊆ path ∧ label ⊆ path := by
  unfold splitAlias? at h
  split at h
  · next before after heq =>
    split at h
    · cases h
    · simp only [Option.some.injEq, Prod.mk.injEq] at h
      obtain ⟨rfl, rfl⟩ := h
      obtain ⟨hb, ha⟩ := subset_of_splitLastAs? heq
      exact ⟨List.Subset.trans (Text.stripBlanks_subset _) hb,
        List.Subset.trans (Text.stripBlanks_subset _) ha⟩
  · cases h

/-- A column with a label is written with ` AS ` between the two. -/
theorem column_of_some {quote : Char} {path name label : List Char}
    (h : splitAlias? path = some (name, label)) :
    column quote path = column quote name ++ " AS ".toList ++ identifier quote label := by
  rw [column, h]

/-- A column without one is written segment by segment. -/
theorem column_of_none {quote : Char} {path : List Char} (h : splitAlias? path = none) :
    column quote path = joinPath ((segments path).map (identifier quote)) := by
  rw [column, h]

/-- **A character of a quoted path is a quote, a point, one of the word between path and alias, or
one of the path.** -/
theorem mem_column {quote c : Char} {path : List Char} (h : c ∈ column quote path) :
    c = quote ∨ c ∈ " AS .".toList ∨ c ∈ path := by
  induction path using column.induct with
  | case1 path name label heq ih =>
    obtain ⟨hn, hl⟩ := subset_of_splitAlias? heq
    rw [column_of_some heq] at h
    rcases List.mem_append.mp h with h | h
    · rcases List.mem_append.mp h with h | h
      · exact (ih h).imp_right (Or.imp_right fun h => hn h)
      · exact .inr (.inl (List.mem_append_left ".".toList h))
    · exact (mem_identifier h).imp_right fun h => .inr (hl h)
  | case2 path heq =>
    rw [column_of_none heq] at h
    rcases mem_joinPath h with rfl | ⟨s, hs, hc⟩
    · exact .inr (.inl (by decide))
    · obtain ⟨seg, hseg, rfl⟩ := List.mem_map.mp hs
      exact (mem_identifier hc).imp_right fun h => .inr (subset_of_mem_segments hseg h)

/-! ## Characters that quoting does not bring in -/

variable {d : Dialect} {c : Char}

theorem not_mem_quoteIdentifier (hq : d.quote ≠ c) {name : String} (h : c ∉ name.toList) :
    c ∉ (d.quoteIdentifier name).toList := by
  rw [quoteIdentifier, String.toList_ofList]
  exact fun hc => (mem_identifier hc).elim (fun he => hq he.symm) h

/-- **A name without a character is quoted without it**, if quoting itself does not use it. -/
theorem not_mem_quoteColumn (hq : d.quote ≠ c) (hs : c ∉ " AS .".toList) {name : String}
    (h : c ∉ name.toList) : c ∉ (d.quoteColumn name).toList := by
  rw [quoteColumn, String.toList_ofList]
  exact fun hc => (mem_column hc).elim (fun he => hq he.symm) fun hc => hc.elim hs h

/-- An identifier in quotes begins with the quote or is a star. -/
theorem exists_quoteIdentifier (d : Dialect) (name : String) :
    ∃ m rest, (d.quoteIdentifier name).toList = m :: rest ∧ (m = d.quote ∨ m = '*') := by
  rw [quoteIdentifier, String.toList_ofList, identifier]
  split
  · next h =>
    rcases h with h | h
    · exact ⟨'*', [], h, .inr rfl⟩
    · obtain ⟨body, hbody⟩ := isQuoted_iff.mp h
      exact ⟨d.quote, _, hbody, .inl rfl⟩
  · exact ⟨d.quote, _, rfl, .inl rfl⟩

end Dialect

end FluentSql
