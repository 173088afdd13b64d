import FluentSql.Builder.Condition
import FluentSql.Proofs.Quote

/-!
# Proofs/Operator — what an accepted operator is made of

Operators are the one text of a caller that is written unquoted.  Whatever `prepare` and `check`
accept is a known operator up to the case of its letters (`known_of_prepare`, `known_of_check`), so it
holds no character that no known operator holds: no placeholder, and no quote.
-/

namespace FluentSql

namespace Operator

/-- **A known operator**, in any case and without blanks around it. -/
def Known (op : String) : Prop := ∃ known ∈ operators, op.toList.map lowerCase = known.toList

/-- An operator that is known between blanks is known without them. -/
theorem known_trim {operator : String} (h : isKnown operator = true) :
    Known (Text.trim operator) := by
  obtain ⟨known, hknown, heq⟩ := List.any_eq_true.mp h
  exact ⟨known, hknown, by rw [Text.toList_trim]; exact (eq_of_beq heq).symm⟩

/-- **The operator of a comparison with a value**, once settled, is known. -/
theorem known_of_prepare {operator : Option String} {value : Value} {op : String}
    (h : prepare operator value = .ok op) : Known op := by
  unfold prepare at h
  split at h
  · cases h
    exact ⟨"=", by decide, rfl⟩
  · next operator =>
    simp only at h
    split at h
    · cases h
    · next hknown =>
      split at h
      · cases h
      · cases h
        have htrim := known_trim (by simpa using hknown)
        rwa [Text.trim, Text.toList_trim, Text.stripBlanks_stripBlanks] at htrim

/-- The operator of a comparison that involves no value, likewise. -/
theorem known_of_check {operator op : String} (h : check operator = .ok op) : Known op := by
  unfold check at h
  split at h
  · next hknown =>
    cases h
    exact known_trim hknown
  · cases h

/-- **A known operator holds only characters of the list**, as far as these have no case. -/
theorem Known.not_mem {op : String} (h : Known op) {c : Char} (hc : lowerCase c = c)
    (hfree : ∀ known ∈ operators, c ∉ known.toList) : c ∉ op.toList := by
  obtain ⟨known, hknown, heq⟩ := h
  intro hmem
  have hlower : lowerCase c ∈ op.toList.map lowerCase := List.mem_map_of_mem hmem
  rw [hc, heq] at hlower
  exact hfree known hknown hlower

/-- The operator of a comparison with a value, once settled, holds no placeholder. -/
theorem not_mem_of_prepare {operator : Option String} {value : Value} {op : String}
    (h : prepare operator value = .ok op) : '?' ∉ op.toList :=
  (known_of_prepare h).not_mem (by decide) (by decide)

/-- The operator of a comparison that involves no value, likewise. -/
theorem not_mem_of_check {operator op : String} (h : check operator = .ok op) :
    '?' ∉ op.toList :=
  (known_of_check h).not_mem (by decide) (by decide)

theorem trim_trim (s : String) : Text.trim (Text.trim s) = Text.trim s := by
  rw [Text.trim, Text.toList_trim, Text.stripBlanks_stripBlanks]
  rfl

/-- **An operator that is settled stays settled.** -/
theorem prepare_of_prepare {operator : Option String} {value : Value} {op : String}
    (h : prepare operator value = .ok op) : prepare (some op) value = .ok op := by
  cases operator with
  | none =>
    obtain rfl : "=" = op := Except.ok.inj h
    have htrim : Text.trim "=" = "=" := by decide
    have hknown : isKnown "=" = true := by decide
    have htests : testsNull "=" = true := by decide
    simp [prepare, rejects, htrim, hknown, htests]
  | some operator =>
    by_cases hknown : isKnown (Text.trim operator) = true
    · by_cases hrejects : rejects (Text.trim operator) value = true
      · simp [prepare, hknown, hrejects] at h
      · simp only [prepare, hknown, hrejects] at h
        obtain rfl : Text.trim operator = op := Except.ok.inj h
        simp [prepare, trim_trim, hknown, hrejects]
    · simp [prepare, hknown] at h

end Operator

/-- Settling the operator of a comparison leaves its column. -/
theorem Comparison.column_of_normalized {c n : Comparison} (h : c.normalized = .ok n) :
    n.column = c.column := by
  unfold normalized at h
  cases hop : Operator.prepare c.operator c.value with
  | error e =>
    rw [hop] at h
    cases h
  | ok op =>
    rw [hop] at h
    cases h
    rfl

/-- **A member of a batch adds what it adds on its own**, for its operator is settled already. -/
theorem Comparison.batch_eq (t : Target) (clause : Clause) (link : Connective)
    (cs : List Comparison) : batch t clause link cs = cs.flatMap (edits t clause link) := by
  refine List.flatMap_congr fun ⟨column, operator, value⟩ _ => ?_
  cases hop : Operator.prepare operator value with
  | error e =>
    have hnormalized : normalized ⟨column, operator, value⟩ = .error e := by
      rw [normalized, hop]
      rfl
    rw [hnormalized, edits, hop]
    rfl
  | ok op =>
    have hnormalized : normalized ⟨column, operator, value⟩ = .ok ⟨column, some op, value⟩ := by
      rw [normalized, hop]
      rfl
    have hsettled : edits t clause link ⟨column, some op, value⟩ =
        edits t clause link ⟨column, operator, value⟩ := by
      rw [edits, edits, Operator.prepare_of_prepare hop, hop]
    rw [hnormalized, Edit.after]
    exact hsettled

end FluentSql
