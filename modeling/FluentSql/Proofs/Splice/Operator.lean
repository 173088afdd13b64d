import FluentSql.Proofs.Failure.Call
import FluentSql.Proofs.Splice.Nested

/-!
# Proofs/Splice/Operator — where a call takes an operator

An operator stands between two operands, before a value, or against NULL, where a test is written in
its place (`OperatorSlot`).  The calls that take one are the same for all operators but for the one
text, so over the operators that are accepted (`Accepted`) their edits have one gap, and what is
written in it is the operator without the blanks around it (`Call.Takes.edits_gap`).
-/

namespace FluentSql

/-! ## Slots -/

/-- **How an operator is used.** -/
inductive OperatorSlot
  /-- Between two operands that are both written. -/
  | alone
  /-- Before a value. -/
  | beside (v : Value)
  /-- Against NULL, with a test in its place. -/
  | test

namespace OperatorSlot

/-- The slot of the operator of a comparison. -/
def ofValue (v : Value) : OperatorSlot := if v.isNull then .test else .beside v

/-- How the operator is settled. -/
def settle (operator : String) : OperatorSlot → Except BuildError String
  | alone => Operator.check operator
  | beside v => Operator.prepare (some operator) v
  | test => Operator.prepare (some operator) .null

/-- **What is written in the slot.** -/
def written (operator : String) : OperatorSlot → String
  | alone | beside _ => Text.trim operator
  | test => nullTest (Text.trim operator != "=")

/-- The operator of a comparison is settled for its value, NULL or not. -/
theorem settle_ofValue (operator : String) (v : Value) :
    (ofValue v).settle operator = Operator.prepare (some operator) v := by
  rw [ofValue]
  split
  · next hnull =>
    rw [Value.isNull_iff.mp hnull]
    rfl
  · rfl

variable {s : OperatorSlot}

/-- **An operator that is settled is known**, and has lost only its blanks. -/
theorem known_of_settle {operator op : String} (h : s.settle operator = .ok op) :
    op = Text.trim operator ∧ Operator.Known op := by
  have hcheck {operator op : String} (h : Operator.check operator = .ok op) :
      op = Text.trim operator := by
    unfold Operator.check at h
    split at h
    · exact (Except.ok.inj h).symm
    · cases h
  have hprepare {operator op : String} {v : Value}
      (h : Operator.prepare (some operator) v = .ok op) : op = Text.trim operator := by
    unfold Operator.prepare at h
    simp only at h
    split at h
    · cases h
    · split at h
      · cases h
      · exact (Except.ok.inj h).symm
  cases s with
  | alone => exact ⟨hcheck h, Operator.known_of_check h⟩
  | beside v =>
    rw [settle] at h
    exact ⟨hprepare h, Operator.known_of_prepare h⟩
  | test =>
    rw [settle] at h
    exact ⟨hprepare h, Operator.known_of_prepare h⟩

/-- **The operators that a slot accepts.** -/
def Accepted (s : OperatorSlot) : Type := { operator // s.settle operator = .ok (Text.trim operator) }

/-- What is written for an accepted operator. -/
def text (s : OperatorSlot) (o : s.Accepted) : String := s.written o.1

end OperatorSlot

/-- A known operator begins with a character other than a blank. -/
theorem Operator.Known.visible {op : String} (h : Known op) :
    ∃ c r, op.toList = c :: r ∧ Text.isBlank c = false := by
  obtain ⟨known, hmem, heq⟩ := h
  obtain ⟨k, rest, hknown, hk⟩ : ∃ k rest, known.toList = k :: rest ∧ Text.isBlank k = false := by
    have hall : ∀ known ∈ operators, (known.toList.head?.any fun k => !Text.isBlank k) = true := by
      decide
    have hhead := hall known hmem
    cases hlist : known.toList with
    | nil => simp [hlist] at hhead
    | cons k rest => exact ⟨k, rest, rfl, by simpa [hlist] using hhead⟩
  rw [hknown] at heq
  obtain ⟨c, r, hop, hc, -⟩ := List.map_eq_cons_iff.mp heq
  refine ⟨c, r, hop, Bool.eq_false_iff.mpr fun hblank => ?_⟩
  have hlower : lowerCase c = c := by
    rw [lowerCase, if_neg (by rintro rfl; exact absurd hblank (by decide)),
      Text.toLower_of_isBlank hblank]
  rw [← hc, hlower, hblank] at hk
  exact Bool.noConfusion hk

/-- What is written for an operator begins with a character other than a blank. -/
theorem OperatorSlot.visible (s : OperatorSlot) : Visible s.text := by
  rintro ⟨operator, hsettle⟩
  have hknown := (known_of_settle hsettle).2.visible
  cases s with
  | alone => exact hknown
  | beside v => exact hknown
  | test =>
    change ∃ c r, (nullTest (Text.trim operator != "=")).toList = c :: r ∧ Text.isBlank c = false
    cases Text.trim operator != "="
    · exact ⟨'I', "S NULL".toList, rfl, by decide⟩
    · exact ⟨'I', "S NOT NULL".toList, rfl, by decide⟩

/-! ## Who takes an operator -/

/-- **Steps of a join that take an operator.** -/
inductive JoinStep.Takes : OperatorSlot → (String → JoinStep) → Prop
  | on (link : Connective) (first second : String) : Takes .alone fun o => .on link first o second
  | compare (link : Connective) (column : String) (value : Value) :
    Takes (.ofValue value) fun o => .compare link ⟨column, some o, value⟩

/-- **Conditions of a join that take an operator.** -/
inductive JoinCondition.Takes : OperatorSlot → (String → JoinCondition) → Prop
  | columns (first second : String) : Takes .alone fun o => .columns first o second
  | value (column : String) (v : Value) : Takes (.beside v) fun o => .value column o v
  | steps (before after : List JoinStep) {s : OperatorSlot} {step : String → JoinStep}
    (h : JoinStep.Takes s step) : Takes s fun o => .steps (before ++ step o :: after)

/-- **Predicates that take an operator.** -/
inductive Predicate.Takes : OperatorSlot → (String → Predicate) → Prop
  | compare (column : String) (value : Value) :
    Takes (.ofValue value) fun o => .compare ⟨column, some o, value⟩
  | compareSource (column : String) (source : Source) :
    Takes .alone fun o => .compareSource column o source
  | sourceCompare (source : Source) (value : Value) :
    Takes (.beside value) fun o => .sourceCompare source o value
  | quantified (quantifier : Quantifier) (column : String) (source : Source) :
    Takes .alone fun o => .quantified quantifier column o source

/-- **Calls that take an operator.** -/
inductive Call.Takes : OperatorSlot → (String → Call) → Prop
  | condition (zone : Zone) (link : Connective) {s : OperatorSlot} {p : String → Predicate}
    (h : Predicate.Takes s p) : Takes s fun o => .condition zone link (p o)
  | compareMany (zone : Zone) (link : Connective) (before : List Comparison) (column : String)
    (value : Value) (after : List Comparison) :
    Takes (.ofValue value) fun o =>
      .compareMany zone link (before ++ ⟨column, some o, value⟩ :: after)
  | join (kind : JoinKind) (table : String) {s : OperatorSlot} {j : String → JoinCondition}
    (h : JoinCondition.Takes s j) : Takes s fun o => .join kind table (j o)
  | joinSource (kind : JoinKind) (source : Source) (label : String) {s : OperatorSlot}
    {j : String → JoinCondition} (h : JoinCondition.Takes s j) :
    Takes s fun o => .joinSource kind source label (j o)

end FluentSql
