import FluentSql.Proofs.Frame
import FluentSql.Proofs.Operator

/-!
# Proofs/Values — where the values of a statement come from

The values that a chain of calls gives can be listed from the calls alone, sub-queries at any depth
included (`callsGiven`), and a builder binds no other (`Builder.bindings_subset_given`).  A column
compared with NULL gives none.
-/

namespace FluentSql

/-! ## Values of edits -/

/-- The values an edit puts into its clause. -/
def Edit.values : Edit → List Value
  | append _ _ values => values
  | replace _ _ values => values
  | _ => []

/-- **Edits that put in no values but some.** -/
def Gives (vs : List Value) (es : List Edit) : Prop := ∀ e ∈ es, e.values ⊆ vs

/-- **A statement that binds no values but some.** -/
def Binds (vs : List Value) (r : Except BuildError Statement) : Prop :=
  ∀ s, r = .ok s → s.bindings ⊆ vs

variable {vs ws : List Value} {es fs : List Edit}

theorem Binds.compile {b : Builder} (h : b.query.bindings ⊆ vs) : Binds vs b.compile := by
  intro s hs
  rw [Builder.compile_eq] at hs
  split at hs
  · cases hs
  · cases hs
    exact h

theorem Binds.map {r : Except BuildError Statement} {f : Statement → Statement} (h : Binds vs r)
    (hf : ∀ s, (f s).bindings = s.bindings) : Binds vs (r.map f) := by
  cases r with
  | error e => exact fun s hs => by cases hs
  | ok s =>
    intro s' hs'
    cases hs'
    exact hf s ▸ h s rfl

/-- An edit adds its values to those of its clause, or replaces them. -/
theorem Builder.bindings_edit {b : Builder} {c : Clause} (hb : (b.query.part c).bindings ⊆ vs)
    {e : Edit} (he : e.values ⊆ vs) : ((b.edit e).query.part c).bindings ⊆ vs := by
  by_cases hclause : e.clause? = some c
  · cases e with
    | append d fragments values =>
      obtain rfl : d = c := Option.some.inj hclause
      rw [edit, Query.append, Query.part_modify_self, Part.append_bindings]
      exact List.append_subset.mpr ⟨hb, he⟩
    | replace d fragment values =>
      obtain rfl : d = c := Option.some.inj hclause
      rw [edit, Query.replace, Query.append, Query.part_modify_self, Query.reset,
        Query.part_modify_self]
      exact he
    | _ => cases hclause
  · rw [part_edit hclause]
    exact hb

namespace Gives

theorem nil : Gives vs [] := List.forall_mem_nil _

theorem singleton {e : Edit} (h : e.values ⊆ vs) : Gives vs [e] := List.forall_mem_singleton.mpr h

theorem mono (h : Gives vs es) (hsub : vs ⊆ ws) : Gives ws es := fun e he =>
  List.Subset.trans (h e he) hsub

theorem append (h : Gives vs es) (h' : Gives vs fs) : Gives vs (es ++ fs) :=
  List.forall_mem_append.mpr ⟨h, h'⟩

theorem map {α : Type} {f : α → Edit} {l : List α} (h : ∀ a ∈ l, (f a).values ⊆ vs) :
    Gives vs (l.map f) := List.forall_mem_map.mpr h

/-- **What members give one by one, they give together.** -/
theorem flatMap {α : Type} {f : α → List Edit} {g : α → List Value} (h : ∀ a, Gives (g a) (f a))
    (l : List α) : Gives (l.flatMap g) (l.flatMap f) :=
  List.forall_mem_flatMap.mpr fun a ha e he _ hv => List.mem_flatMap.mpr ⟨a, ha, h a e he hv⟩

theorem failure (error : Option BuildError) : Gives vs (Edit.failure error) :=
  Edit.forall_mem_failure (fun _ => List.nil_subset vs) error

/-- **What a result leads to, or its error**, which holds no value. -/
theorem after {α : Type} {r : Except BuildError α} {next : α → List Edit}
    (h : ∀ a, r = .ok a → Gives vs (next a)) : Gives vs (Edit.after r next) :=
  Edit.forall_mem_after (fun _ => List.nil_subset vs) h

/-- **A clause holds the values that edits put into it.** -/
theorem part (h : Gives vs es) (t : Target) (c : Clause) :
    ((Builder.ofEdits t es).query.part c).bindings ⊆ vs := by
  have hfold (b : Builder) (hb : (b.query.part c).bindings ⊆ vs) :
      ((b.edits es).query.part c).bindings ⊆ vs := by
    induction es generalizing b with
    | nil => exact hb
    | cons e es ih =>
      exact ih (fun f hf => h f (List.mem_cons_of_mem e hf)) (b.edit e)
        (Builder.bindings_edit hb (h e List.mem_cons_self))
  refine hfold _ ?_
  cases c <;> exact List.nil_subset vs

/-- So does a query. -/
theorem bindings (h : Gives vs es) (t : Target) : (Builder.ofEdits t es).query.bindings ⊆ vs :=
  fun _ hv => by
    obtain ⟨c, -, hc⟩ := List.mem_flatMap.mp hv
    exact h.part t c hc

/-- **The statement of a nested query binds what its edits give.** -/
theorem compile (h : Gives vs es) (t : Target) : Binds vs (Builder.ofEdits t es).compile :=
  .compile (h.bindings t)

/-- As a table it binds the same. -/
theorem compile_qualifiedFor (h : Gives vs es) (t parent : Target) :
    Binds vs ((Builder.ofEdits t es).qualifiedFor parent).compile := by
  refine .compile ?_
  rw [Builder.bindings_qualifiedFor]
  exact h.bindings t

theorem groupEdits (h : Gives vs es) (t : Target) (clause : Clause) (link : Connective) :
    Gives vs ((Builder.ofEdits t es).groupEdits clause link) := by
  refine (failure _).append ?_
  split
  · exact nil
  · exact singleton (h.part t clause)

theorem conditionEdits (h : Gives vs es) (t : Target) (clause : Clause) (link : Connective) :
    Gives vs ((Builder.ofEdits t es).conditionEdits clause link) := by
  unfold Builder.conditionEdits
  split
  · exact h.groupEdits t clause link
  · exact after fun s hs => singleton (h.compile t s hs)

end Gives

/-! ## Values of calls -/

/-- A comparison gives its value, unless it is a test for NULL. -/
def Comparison.given (c : Comparison) : List Value := if c.value.isNull then [] else [c.value]

/-- The values of a step of a join. -/
def JoinStep.given : JoinStep → List Value
  | compare _ c => c.given
  | within _ values => values
  | _ => []

/-- The value behind an operator, if the operator can stand before it. -/
def Operator.given (operator : String) (value : Value) : List Value :=
  match prepare (some operator) value with
  | .ok _ => [value]
  | .error _ => []

/-- The values in the conditions of a join. -/
def JoinCondition.given : JoinCondition → List Value
  | steps list => list.flatMap JoinStep.given
  | value _ operator v => Operator.given operator v
  | _ => []

mutual

/-- **The values that a call gives**, to be bound one by one. -/
def Call.given : Call → List Value
  | .push _ _ values => values
  | .nest calls _ _ => callsGiven calls
  | .tableRaw e values => e.values ++ values
  | .tableSource source _ => source.given
  | .selectExpr e _ => e.values
  | .selectRaw e => e.values
  | .selectSource source _ => source.given
  | .condition _ _ p => p.given
  | .compareMany _ _ comparisons => comparisons.flatMap Comparison.given
  | .inMany lists => lists.flatMap (·.2)
  | .join _ _ condition => condition.given
  | .joinSource _ source _ condition => source.given ++ condition.given
  | .listRaw _ e values => e.values ++ values
  | .listSource _ source _ => source.given
  | .limit count => [.ofUInt64 count]
  | .limitRange offset count => [.ofUInt64 offset, .ofUInt64 count]
  | .limitRaw e => e.values
  | .offset count => [.ofUInt64 count]
  | .offsetRaw e => e.values
  | .forPage page size => [.ofUInt64 size, .ofUInt64 (pageOffset page size)]
  | .union _ source => source.given
  | _ => []

/-- The values in a condition. -/
def Predicate.given : Predicate → List Value
  | .compare c => c.given
  | .group calls => callsGiven calls
  | .compareSource _ _ source => source.given
  | .sourceCompare source operator value => source.given ++ Operator.given operator value
  | .inList _ _ values => values
  | .inSource _ _ source => source.given
  | .between _ _ low high => [low, high]
  | .like _ subject pattern => subject.given ++ [pattern]
  | .existence _ source => source.given
  | .quantified _ _ _ source => source.given
  | .raw e values => e.values ++ values
  | .null _ _ => []

/-- **The values in a source.** -/
def Source.given : Source → List Value
  | .text _ => []
  | .raw e => e.values
  | .closure calls => callsGiven calls
  | .prepared _ calls => callsGiven calls

/-- The values in an operand. -/
def Operand.given : Operand → List Value
  | .column _ => []
  | .source source => source.given

/-- **The values that calls give.** -/
def callsGiven : List Call → List Value
  | [] => []
  | call :: rest => call.given ++ callsGiven rest

end

/-! ## Edits put in the values of their calls -/

theorem Operator.given_eq {operator op : String} {value : Value}
    (h : prepare (some operator) value = .ok op) : given operator value = [value] := by
  rw [given, h]

section Conditions

variable (t : Target) (clause : Clause) (link : Connective)

theorem Comparison.gives (c : Comparison) : Gives c.given (c.edits t clause link) := by
  refine .after fun op _ => ?_
  rw [given]
  split
  · exact .singleton (List.nil_subset _)
  · exact .singleton (List.Subset.refl _)

theorem Edit.values_inCondition (negated : Bool) (column : String) (values : List Value) :
    (inCondition t clause link negated column values).values ⊆ values := by
  rw [inCondition]
  split
  · exact List.nil_subset values
  · exact List.Subset.refl values

theorem JoinStep.gives (step : JoinStep) : Gives step.given (step.edits t) := by
  cases step with
  | on link first operator second => exact .after fun op _ => .singleton (List.nil_subset _)
  | compare link c => exact c.gives t .joins link
  | null negated column => exact .singleton (List.nil_subset _)
  | within column values =>
    exact .singleton (Edit.values_inCondition t .joins .and false column values)
  | note => exact .nil

/-- **The values of a join** are those in its table and those in its conditions. -/
theorem JoinCondition.gives (kind : JoinKind) (table : String) {values : List Value}
    (hvalues : values ⊆ vs) (c : JoinCondition) :
    Gives (vs ++ c.given) (c.edits t kind table values) := by
  have htable : values ⊆ vs ++ c.given := List.subset_append_of_subset_left _ hvalues
  cases c with
  | none => exact .singleton htable
  | columns first operator second =>
    rw [JoinCondition.edits]
    exact .after fun op _ => .singleton htable
  | steps list =>
    have hsteps : ((Builder.ofEdits t (list.flatMap (JoinStep.edits t))).query.part
        .joins).bindings ⊆ list.flatMap JoinStep.given :=
      (Gives.flatMap (JoinStep.gives t) list).part t .joins
    rw [JoinCondition.edits]
    refine (Gives.failure _).append ?_
    split
    · exact .singleton htable
    · exact .singleton
        (List.append_subset.mpr ⟨htable, List.subset_append_of_subset_right _ hsteps⟩)
  | value column operator v =>
    rw [JoinCondition.edits]
    refine .after fun op hop => .singleton (List.append_subset.mpr ⟨htable, ?_⟩)
    rw [JoinCondition.given, Operator.given_eq hop]
    exact List.subset_append_right ..

end Conditions

mutual

/-- **A call puts in the values that it gives.** -/
theorem Call.gives (t : Target) (c : Call) : Gives c.given (c.edits t) := by
  cases c with
  | push clause fragments values => exact .singleton (List.Subset.refl values)
  | nest calls clause link =>
    rw [Call.edits, Call.given]
    exact (callsGive t calls).groupEdits t clause link
  | tables names => exact .map fun _ _ => List.nil_subset _
  | select columns =>
    rcases columns with - | ⟨c, cs⟩
    · exact .singleton (List.nil_subset _)
    · rw [Call.edits]
      exact .map fun _ _ => List.nil_subset _
  | selectExpr e label | selectRaw e =>
    have hvalues : e.values ++ [] ⊆ e.values := by
      rw [List.append_nil]
      exact List.Subset.refl e.values
    exact .singleton hvalues
  | tableRaw e values | listRaw listing e values => exact .singleton (List.Subset.refl _)
  | tableSource source label =>
    rw [Call.edits, Call.given]
    exact .after fun s hs => .singleton ((source.binds t).2 s hs)
  | selectSource source label | listSource listing source direction | union all source =>
    rw [Call.edits, Call.given]
    exact .after fun s hs => .singleton ((source.binds t).1 s hs)
  | condition zone link p =>
    rw [Call.edits, Call.given]
    exact p.gives t zone.clause link
  | compareMany zone link comparisons =>
    rw [Call.edits, Call.given]
    rw [Comparison.batch_eq]
    exact .flatMap (Comparison.gives t zone.clause link) comparisons
  | inMany lists =>
    rw [Call.edits, Call.given]
    refine .map fun l hl => ?_
    refine List.Subset.trans (Edit.values_inCondition t .wheres .and false l.1 l.2) ?_
    exact fun v hv => List.mem_flatMap.mpr ⟨l, hl, hv⟩
  | nullMany negated columns => exact .map fun _ _ => List.nil_subset _
  | join kind table condition =>
    rw [Call.edits, Call.given]
    exact condition.gives t kind _ (List.nil_subset [])
  | joinSource kind source label condition =>
    rw [Call.edits, Call.given]
    exact .after fun s hs => condition.gives t kind _ ((source.binds t).2 s hs)
  | list listing columns direction => exact .map fun _ _ => List.nil_subset _
  | rowLock lock =>
    rw [Call.edits, RowLock.edits]
    split <;> exact .singleton (List.nil_subset _)
  | limit | limitRange | offset | limitRaw | offsetRaw => exact .singleton (List.Subset.refl _)
  | forPage page size =>
    have hlimit : Gives [.ofUInt64 size] [Edit.limit size] := .singleton (List.Subset.refl _)
    have hoffset : Gives [.ofUInt64 (pageOffset page size)] [Edit.offset (pageOffset page size)] :=
      .singleton (List.Subset.refl _)
    exact (hlimit.mono (List.subset_append_left ..)).append
      (hoffset.mono (List.subset_append_right ..))
  | tableAs | selectAs | throws | debug | page | perPage | lock =>
    exact .singleton (List.nil_subset _)

theorem Predicate.gives (t : Target) (clause : Clause) (link : Connective) (p : Predicate) :
    Gives p.given (p.edits t clause link) := by
  cases p with
  | compare c =>
    rw [Predicate.edits, Predicate.given]
    exact c.gives t clause link
  | group calls =>
    rw [Predicate.edits, Predicate.given]
    exact (callsGive t calls).conditionEdits t clause link
  | compareSource column operator source | quantified quantifier column operator source =>
    rw [Predicate.edits, Predicate.given]
    exact .after fun op _ => .after fun s hs => .singleton ((source.binds t).1 s hs)
  | sourceCompare source operator value =>
    rw [Predicate.edits, Predicate.given]
    refine .after fun op hop => .after fun s hs => .singleton ?_
    rw [Operator.given_eq hop]
    exact List.append_subset.mpr
      ⟨List.subset_append_of_subset_left _ ((source.binds t).1 s hs), List.subset_append_right ..⟩
  | inList negated column values =>
    exact .singleton (Edit.values_inCondition t clause link negated column values)
  | inSource negated column source | existence negated source =>
    rw [Predicate.edits, Predicate.given]
    exact .after fun s hs => .singleton ((source.binds t).1 s hs)
  | like negated subject pattern =>
    rw [Predicate.edits, Predicate.given]
    exact .after fun s hs => .singleton (List.append_subset.mpr
      ⟨List.subset_append_of_subset_left _ (subject.binds t s hs), List.subset_append_right ..⟩)
  | null negated column => exact .singleton (List.nil_subset _)
  | between negated column low high => exact .singleton (List.Subset.refl _)
  | raw e values => exact .singleton (List.Subset.refl _)

/-- **The statement of a source binds the values in it**, also as a table. -/
theorem Source.binds (t : Target) (source : Source) :
    Binds source.given (source.evaluate t).statement ∧
      Binds source.given ((source.evaluate t).tableStatement t) := by
  cases source with
  | text sql =>
    have htext : Binds [] (Evaluated.text sql).statement := by
      intro s hs
      rw [Evaluated.statement] at hs
      split at hs
      · cases hs
      · cases hs
        exact List.Subset.refl []
    exact ⟨htext, htext⟩
  | raw e =>
    have hraw : Binds e.values (Evaluated.raw e).statement := by
      intro s hs
      cases hs
      exact List.Subset.refl e.values
    exact ⟨hraw, hraw⟩
  | closure calls =>
    have hcalls : Binds (callsGiven calls) (Builder.ofEdits t (callEdits t calls)).compile :=
      (callsGive t calls).compile t
    exact ⟨hcalls, hcalls⟩
  | prepared target calls =>
    have hcalls : Gives (callsGiven calls) (callEdits (target.getD t) calls) :=
      callsGive (target.getD t) calls
    exact ⟨hcalls.compile (target.getD t), hcalls.compile_qualifiedFor (target.getD t) t⟩

theorem Operand.binds (t : Target) (operand : Operand) :
    Binds operand.given (operand.resolve t) := by
  cases operand with
  | column name =>
    intro s hs
    cases hs
    exact List.Subset.refl []
  | source source =>
    cases source with
    | raw e =>
      intro s hs
      cases hs
      exact List.Subset.refl e.values
    | text sql | closure calls | prepared target calls =>
      rw [Operand.resolve]
      · exact (Source.binds t _).1.map fun _ => rfl
      · nofun

theorem callsGive (t : Target) (calls : List Call) :
    Gives (callsGiven calls) (callEdits t calls) := by
  cases calls with
  | nil => exact .nil
  | cons call rest =>
    rw [callEdits, callsGiven]
    exact ((call.gives t).mono (List.subset_append_left ..)).append
      ((callsGive t rest).mono (List.subset_append_right ..))

end

/-- **A builder binds no values but those that its calls give**, at any depth. -/
theorem Builder.bindings_subset_given (t : Target) (calls : List Call) :
    ((new t).calls calls).query.bindings ⊆ callsGiven calls := by
  have h : (new t).calls calls = ofEdits t (callEdits t calls) := calls_eq_edits (new t) calls
  rw [h]
  exact (callsGive t calls).bindings t

end FluentSql
