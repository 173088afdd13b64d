import FluentSql.Proofs.Failure.Call

/-!
# Proofs/Failure/Nested — no error of a nested builder is lost

A call makes builders on its way: for a group, for a sub-query, for the conditions of a join, and
for whatever is nested in those.  When any of them has failed, the call fails
(`Call.isSome_error?`).
-/

namespace FluentSql

/-! ## Builders made on the way -/

/-- The builder that collects the conditions of a join. -/
def JoinCondition.nested (t : Target) : JoinCondition → List Builder
  | steps list => [Builder.ofEdits t (list.flatMap (JoinStep.edits t))]
  | _ => []

mutual

/-- **The builders that a call makes on its way**, and those that their calls make, to any depth. -/
def Call.nested (t : Target) : Call → List Builder
  | .nest calls _ _ => (Builder.new t).calls calls :: callsNested t calls
  | .tableSource source _ => source.nested t
  | .selectSource source _ => source.nested t
  | .condition _ _ p => p.nested t
  | .join _ _ condition => condition.nested t
  | .joinSource _ source _ condition => source.nested t ++ condition.nested t
  | .listSource _ source _ => source.nested t
  | .union _ source => source.nested t
  | _ => []

/-- The builders of a condition. -/
def Predicate.nested (t : Target) : Predicate → List Builder
  | .group calls => (Builder.new t).calls calls :: callsNested t calls
  | .compareSource _ _ source => source.nested t
  | .sourceCompare source _ _ => source.nested t
  | .inSource _ _ source => source.nested t
  | .like _ subject _ => subject.nested t
  | .existence _ source => source.nested t
  | .quantified _ _ _ source => source.nested t
  | _ => []

/-- The builders of a source. -/
def Source.nested (t : Target) : Source → List Builder
  | .text _ => []
  | .raw _ => []
  | .closure calls => (Builder.new t).calls calls :: callsNested t calls
  | .prepared target calls =>
    (Builder.new (target.getD t)).calls calls :: callsNested (target.getD t) calls

/-- The builders of an operand. -/
def Operand.nested (t : Target) : Operand → List Builder
  | .column _ => []
  | .source source => source.nested t

/-- The builders of calls. -/
def callsNested (t : Target) : List Call → List Builder
  | [] => []
  | call :: rest => call.nested t ++ callsNested t rest

end

/-- The error of a builder made from nothing. -/
theorem Builder.error_new_calls (t : Target) (calls : List Call) :
    ((Builder.new t).calls calls).error = callsError? t calls :=
  ((Builder.new t).error_calls calls).trans (callsError?_eq t calls).symm

theorem JoinCondition.isSome_error? {t : Target} {condition : JoinCondition} {n : Builder}
    (hn : n ∈ condition.nested t) (h : n.error.isSome) : condition.error?.isSome := by
  cases condition with
  | steps list =>
    obtain rfl := List.mem_singleton.mp hn
    have herror := FirstError.flatMap (JoinStep.edits t) list
    rw [funext (JoinStep.firstError_edits t)] at herror
    rw [Builder.error_ofEdits] at h
    exact (congrArg Option.isSome herror).symm.trans h
  | none | columns | value => exact absurd hn List.not_mem_nil

theorem isSome_or_of_left {a b : Option BuildError} (h : a.isSome) : (a.or b).isSome := by
  rw [Option.isSome_or, h, Bool.true_or]

theorem isSome_or_of_right {a b : Option BuildError} (h : b.isSome) : (a.or b).isSome := by
  rw [Option.isSome_or, h, Bool.or_true]

mutual

/-- **A call fails when any builder made on its way has failed.** -/
theorem Call.isSome_error? {t : Target} {n : Builder} (h : n.error.isSome) (c : Call)
    (hn : n ∈ c.nested t) : (c.error? t).isSome := by
  cases c with
  | nest calls clause link =>
    rw [Call.nested] at hn
    rw [Call.error?]
    rcases List.mem_cons.mp hn with rfl | hn
    · exact Builder.error_new_calls t calls ▸ h
    · exact callsError?_isSome h calls hn
  | tableSource source label | selectSource source label | listSource listing source direction
  | union all source =>
    rw [Call.nested] at hn
    rw [Call.error?]
    exact source.isSome_error? h hn
  | condition zone link p =>
    rw [Call.nested] at hn
    rw [Call.error?]
    exact p.isSome_error? h hn
  | join kind table condition =>
    rw [Call.nested] at hn
    rw [Call.error?]
    exact condition.isSome_error? hn h
  | joinSource kind source label condition =>
    rw [Call.nested] at hn
    rw [Call.error?]
    rcases List.mem_append.mp hn with hn | hn
    · exact isSome_or_of_left (source.isSome_error? h hn)
    · exact isSome_or_of_right (condition.isSome_error? hn h)
  | _ => exact absurd hn List.not_mem_nil

theorem Predicate.isSome_error? {t : Target} {n : Builder} (h : n.error.isSome) (p : Predicate)
    (hn : n ∈ p.nested t) : (p.error? t).isSome := by
  cases p with
  | group calls =>
    rw [Predicate.nested] at hn
    rw [Predicate.error?]
    rcases List.mem_cons.mp hn with rfl | hn
    · exact Builder.error_new_calls t calls ▸ h
    · exact callsError?_isSome h calls hn
  | compareSource column operator source | sourceCompare source operator value
  | quantified quantifier column operator source =>
    rw [Predicate.nested] at hn
    rw [Predicate.error?]
    exact isSome_or_of_right (source.isSome_error? h hn)
  | inSource negated column source | existence negated source =>
    rw [Predicate.nested] at hn
    rw [Predicate.error?]
    exact source.isSome_error? h hn
  | like negated subject pattern =>
    rw [Predicate.nested] at hn
    rw [Predicate.error?]
    exact subject.isSome_error? h hn
  | compare | inList | null | between | raw => exact absurd hn List.not_mem_nil

theorem Source.isSome_error? {t : Target} {n : Builder} (h : n.error.isSome) (source : Source)
    (hn : n ∈ source.nested t) : (source.error? t).isSome := by
  cases source with
  | text | raw => exact absurd hn List.not_mem_nil
  | closure calls =>
    rw [Source.nested] at hn
    rw [Source.error?]
    rcases List.mem_cons.mp hn with rfl | hn
    · exact Builder.error_new_calls t calls ▸ h
    · exact callsError?_isSome h calls hn
  | prepared target calls =>
    rw [Source.nested] at hn
    rw [Source.error?]
    rcases List.mem_cons.mp hn with rfl | hn
    · exact Builder.error_new_calls (target.getD t) calls ▸ h
    · exact callsError?_isSome h calls hn

theorem Operand.isSome_error? {t : Target} {n : Builder} (h : n.error.isSome) (operand : Operand)
    (hn : n ∈ operand.nested t) : (operand.error? t).isSome := by
  cases operand with
  | column name => exact absurd hn List.not_mem_nil
  | source source =>
    rw [Operand.nested] at hn
    rw [Operand.error?]
    exact source.isSome_error? h hn

theorem callsError?_isSome {t : Target} {n : Builder} (h : n.error.isSome) (calls : List Call)
    (hn : n ∈ callsNested t calls) : (callsError? t calls).isSome := by
  cases calls with
  | nil => exact absurd hn List.not_mem_nil
  | cons call rest =>
    rw [callsNested] at hn
    rw [callsError?]
    rcases List.mem_append.mp hn with hn | hn
    · exact isSome_or_of_left (call.isSome_error? h hn)
    · exact isSome_or_of_right (callsError?_isSome h rest hn)

end

end FluentSql
