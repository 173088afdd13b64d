import FluentSql.Builder.Meaning
import FluentSql.Proofs.Edits

/-!
# Proofs/Frame — what a call leaves alone

Every call writes into slots of a builder that can be named beforehand (`Call.slots`), whatever its
arguments are and whether it fails or not: into clauses (`Call.touched`), or into what a builder holds
only one of.  All other clauses stay as they are (`Builder.part_call`).  An entry added to a clause is
added there and nowhere else (`Query.Gains`, `Builder.Gains`).
-/

namespace FluentSql

/-- The clause an edit writes into. -/
def Edit.clause? : Edit → Option Clause
  | append c _ _ => some c
  | replace c _ _ => some c
  | _ => none

/-- **An edit leaves every clause alone but its own.** -/
theorem Builder.part_edit {b : Builder} {e : Edit} {c : Clause} (h : e.clause? ≠ some c) :
    (b.edit e).query.part c = b.query.part c := by
  cases e with
  | append d fragments values =>
    exact Query.part_modify_of_ne _ _ fun hc => h (congrArg some hc.symm)
  | replace d fragment values =>
    have hd : c ≠ d := fun hc => h (congrArg some hc.symm)
    exact (Query.part_modify_of_ne _ _ hd).trans (Query.part_modify_of_ne _ _ hd)
  | lock sql => exact Query.part_setLock _ _ c
  | _ => rfl

/-- **A query with one more entry in a clause**: a fragment behind its fragments and values behind its
values, while every other clause and the lock are as they were. -/
structure Query.Gains (q q' : Query) (clause : Clause) (fragment : Fragment)
    (values : List Value) : Prop where
  part : q'.part clause =
    ⟨(q.part clause).fragments ++ [fragment], (q.part clause).bindings ++ values⟩
  others : ∀ c ≠ clause, q'.part c = q.part c
  lock : q'.lock = q.lock

/-- To append one fragment is to gain one entry. -/
theorem Query.gains_append (q : Query) (clause : Clause) (fragment : Fragment)
    (values : List Value) : q.Gains (q.append clause [fragment] values) clause fragment values where
  part := part_modify_self ..
  others _ h := part_modify_of_ne _ _ h
  lock := lock_modify ..

/-- **A builder whose query has one more entry**, and which is otherwise as it was. -/
structure Builder.Gains (b b' : Builder) (clause : Clause) (fragment : Fragment)
    (values : List Value) : Prop where
  rest : b' = { b with query := b'.query }
  query : b.query.Gains b'.query clause fragment values

theorem Builder.gains_edit (b : Builder) (clause : Clause) (fragment : Fragment)
    (values : List Value) : b.Gains (b.edit (.append clause [fragment] values)) clause fragment values :=
  ⟨rfl, b.query.gains_append clause fragment values⟩

/-! ## Slots -/

/-- **What calls write into**: a clause, or something that a builder holds only one of. -/
inductive Slot
  | clause (c : Clause)
  | lock
  | notFound
  | page
  | perPage
  | debug
  deriving DecidableEq, Repr

/-- The slot an edit writes into; to record an error is to write into none. -/
def Edit.slot? : Edit → Option Slot
  | append c _ _ => some (.clause c)
  | replace c _ _ => some (.clause c)
  | lock _ => some .lock
  | fail _ => none
  | notFound _ => some .notFound
  | page _ => some .page
  | perPage _ => some .perPage
  | debug _ => some .debug

theorem Edit.slot?_of_clause? {e : Edit} {c : Clause} (h : e.clause? = some c) :
    e.slot? = some (.clause c) := by
  cases e <;> cases h <;> rfl

/-- **Edits into some slots.** -/
def Into (slots : List Slot) (es : List Edit) : Prop :=
  ∀ e ∈ es, ∀ s, e.slot? = some s → s ∈ slots

namespace Into

variable {slots : List Slot} {es fs : List Edit}

theorem nil : Into slots [] := fun _ h => absurd h List.not_mem_nil

theorem singleton {e : Edit} (h : ∀ s, e.slot? = some s → s ∈ slots) : Into slots [e] :=
  List.forall_mem_singleton.mpr h

/-- An edit into the one slot there is. -/
theorem one {e : Edit} {s : Slot} (h : e.slot? = some s) : Into [s] [e] :=
  singleton fun _ hs => List.mem_singleton.mpr (Option.some.inj (hs.symm.trans h))

/-- One entry of a clause. -/
theorem entry {clause : Clause} {fragments : List Fragment} {values : List Value} :
    Into [.clause clause] [.append clause fragments values] := one rfl

/-- A clause replaced. -/
theorem replace {clause : Clause} {fragment : Fragment} {values : List Value} :
    Into [.clause clause] [.replace clause fragment values] := one rfl

theorem fail (e : BuildError) : Into slots [.fail e] := singleton nofun

theorem mono {slots' : List Slot} (h : Into slots es) (hsub : slots ⊆ slots') : Into slots' es :=
  fun e he s hs => hsub (h e he s hs)

theorem append (h : Into slots es) (h' : Into slots fs) : Into slots (es ++ fs) :=
  List.forall_mem_append.mpr ⟨h, h'⟩

theorem map {α : Type} {f : α → Edit} (h : ∀ a, Into slots [f a]) (l : List α) :
    Into slots (l.map f) :=
  List.forall_mem_map.mpr fun a _ => h a (f a) List.mem_cons_self

theorem flatMap {α : Type} {f : α → List Edit} (h : ∀ a, Into slots (f a)) (l : List α) :
    Into slots (l.flatMap f) := List.forall_mem_flatMap.mpr fun a _ => h a

/-- **What a result leads to, or its error.** -/
theorem after {α : Type} {r : Except BuildError α} {f : α → List Edit}
    (h : ∀ a, Into slots (f a)) : Into slots (Edit.after r f) :=
  Edit.forall_mem_after (fun _ => nofun) fun a _ => h a

theorem failure (error : Option BuildError) : Into slots (Edit.failure error) :=
  Edit.forall_mem_failure (fun _ => nofun) error

end Into

/-! ## Clauses -/

/-- **Edits within some clauses.** -/
def Within (clauses : List Clause) (es : List Edit) : Prop :=
  ∀ e ∈ es, ∀ c, e.clause? = some c → c ∈ clauses

/-- Edits into slots are within the clauses among the slots. -/
theorem Into.within {slots : List Slot} {clauses : List Clause} {es : List Edit}
    (h : Into slots es) (hclauses : ∀ c, .clause c ∈ slots → c ∈ clauses) : Within clauses es :=
  fun e he c hc => hclauses c (h e he _ (Edit.slot?_of_clause? hc))

namespace Within

variable {clauses : List Clause} {es : List Edit}

theorem nil : Within clauses [] := fun _ h => absurd h List.not_mem_nil

theorem failure (error : Option BuildError) : Within clauses (Edit.failure error) :=
  (Into.failure error : Into [] _).within fun _ hc => absurd hc List.not_mem_nil

/-- Edits leave the clauses alone they are not within. -/
theorem part_eq (h : Within clauses es) {c : Clause} (hc : c ∉ clauses) (b : Builder) :
    (b.edits es).query.part c = b.query.part c := by
  induction es generalizing b with
  | nil => rfl
  | cons e es ih =>
    have he : e.clause? ≠ some c := fun hclause => hc (h e List.mem_cons_self c hclause)
    rw [Builder.edits_cons, ih fun f hf => h f (List.mem_cons_of_mem e hf), Builder.part_edit he]

end Within

/-! ## Calls -/

section Conditions

variable (t : Target) (clause : Clause) (link : Connective)

theorem Comparison.into (c : Comparison) : Into [.clause clause] (c.edits t clause link) :=
  .after fun op => by
    split
    · exact .entry
    · exact .entry

theorem Edit.into_inCondition (negated : Bool) (column : String) (values : List Value) :
    Into [.clause clause] [inCondition t clause link negated column values] := by
  unfold inCondition
  split
  · exact .entry
  · exact .entry

theorem Builder.into_groupEdits (b : Builder) : Into [.clause clause] (b.groupEdits clause link) := by
  refine (Into.failure b.error).append ?_
  split
  · exact .nil
  · exact .entry

/-- **A condition stays within its clause.** -/
theorem Predicate.into (p : Predicate) : Into [.clause clause] (p.edits t clause link) := by
  cases p with
  | compare c => exact c.into t clause link
  | group calls =>
    rw [Predicate.edits, Builder.conditionEdits]
    split
    · exact Builder.into_groupEdits clause link _
    · exact .after fun s => .entry
  | inList negated column values => exact Edit.into_inCondition t clause link negated column values
  | compareSource _ _ _ | sourceCompare _ _ _ | quantified _ _ _ _ =>
    rw [Predicate.edits]
    exact .after fun op => .after fun s => .entry
  | inSource _ _ _ | like _ _ _ | existence _ _ =>
    rw [Predicate.edits]
    exact .after fun s => .entry
  | null _ _ | between _ _ _ _ | raw _ _ => exact .entry

theorem JoinCondition.into (kind : JoinKind) (table : String) (values : List Value)
    (c : JoinCondition) : Into [.clause .joins] (c.edits t kind table values) := by
  cases c with
  | none => exact .entry
  | columns first operator second => exact .after fun op => .entry
  | steps list =>
    refine (Into.failure _).append ?_
    split
    · exact .entry
    · exact .entry
  | value column operator v =>
    rw [JoinCondition.edits]
    exact .after fun op => .entry

end Conditions

/-- **The clauses a call writes into.** -/
def Call.touched : Call → List Clause
  | .push clause _ _ => [clause]
  | .nest _ clause _ => [clause]
  | .tables _ | .tableAs _ _ | .tableRaw _ _ | .tableSource _ _ => [.froms]
  | .select _ | .selectAs _ _ | .selectExpr _ _ | .selectRaw _ | .selectSource _ _ => [.columns]
  | .condition zone _ _ | .compareMany zone _ _ => [zone.clause]
  | .inMany _ | .nullMany _ _ => [.wheres]
  | .join _ _ _ | .joinSource _ _ _ _ => [.joins]
  | .list listing _ _ | .listRaw listing _ _ | .listSource listing _ _ => [listing.clause]
  | .limit _ | .limitRange _ _ | .limitRaw _ => [.limits]
  | .offset _ | .offsetRaw _ => [.offset]
  | .forPage _ _ => [.limits, .offset]
  | .union _ _ => [.unions]
  | .throws _ | .debug _ | .page _ | .perPage _ | .rowLock _ | .lock _ => []

/-- **The slots a call writes into.** -/
def Call.slots : Call → List Slot
  | .throws _ => [.notFound]
  | .debug _ => [.debug]
  | .page _ => [.page]
  | .perPage _ => [.perPage]
  | .rowLock _ => [.lock]
  | .lock _ => [.lock]
  | call => call.touched.map .clause

/-- The clauses among the slots of a call are those it touches. -/
theorem Call.mem_touched {call : Call} {c : Clause} (h : .clause c ∈ call.slots) :
    c ∈ call.touched := by
  cases call with
  | throws _ | debug _ | page _ | perPage _ | rowLock _ | lock _ => simp [slots] at h
  | _ => simpa [slots] using h

/-- **The edits of a call stay in its slots.** -/
theorem Call.into (t : Target) (c : Call) : Into c.slots (c.edits t) := by
  cases c with
  | nest calls clause link =>
    rw [Call.edits]
    exact Builder.into_groupEdits clause link _
  | condition zone link p =>
    rw [Call.edits]
    exact p.into t zone.clause link
  | compareMany zone link comparisons =>
    rw [Call.edits]
    exact .flatMap (fun c => .after fun n => n.into t zone.clause link) comparisons
  | inMany lists =>
    rw [Call.edits]
    exact .map (fun l => Edit.into_inCondition t .wheres .and false l.1 l.2) lists
  | join kind table condition =>
    rw [Call.edits]
    exact condition.into t kind _ _
  | joinSource kind source label condition =>
    rw [Call.edits]
    exact .after fun s => condition.into t kind _ _
  | select columns =>
    rcases columns with - | ⟨c, cs⟩
    · exact .entry
    · rw [Call.edits]
      exact .map (fun _ => .entry) _
  | tables _ | nullMany _ _ | list _ _ _ =>
    rw [Call.edits]
    exact .map (fun _ => .entry) _
  | tableSource _ _ | selectSource _ _ | listSource _ _ _ | union _ _ =>
    rw [Call.edits]
    exact .after fun s => .entry
  | push _ _ _ | tableAs _ _ | tableRaw _ _ | selectAs _ _ | selectExpr _ _ | selectRaw _
  | listRaw _ _ _ => exact .entry
  | limit _ | limitRange _ _ | limitRaw _ | offset _ | offsetRaw _ => exact .replace
  | forPage page size =>
    have hlimit : Into [.clause .limits] [Edit.limit size] := .replace
    have hoffset : Into [.clause .offset] [Edit.offset (pageOffset page size)] := .replace
    exact (hlimit.mono (by simp [slots, touched])).append
      (hoffset.mono (by simp [slots, touched]))
  | rowLock lock =>
    rw [Call.edits, RowLock.edits]
    split
    · exact .one rfl
    · exact .fail _
  | throws _ | debug _ | page _ | perPage _ | lock _ => exact .one rfl

/-- **The edits of a call stay within the clauses it touches.** -/
theorem Call.within (t : Target) (c : Call) : Within c.touched (c.edits t) :=
  (c.into t).within fun _ => mem_touched

/-- **A call leaves every clause alone that it does not touch**, whether it fails or not. -/
theorem Builder.part_call (b : Builder) (call : Call) {c : Clause} (h : c ∉ call.touched) :
    (b.call call).query.part c = b.query.part c := (call.within b.target).part_eq h b

end FluentSql
