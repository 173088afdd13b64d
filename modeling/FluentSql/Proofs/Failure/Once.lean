import FluentSql.Builder.Fluent
import FluentSql.Proofs.Failure.Call
import FluentSql.Proofs.Frame

/-!
# Proofs/Failure/Once — a call fails and writes nothing, or writes once

    settle the operator, resolve the source ──▶ write one entry
                        │
                        └── error ──▶ record it, write nothing

A call that settles or resolves something does so before it writes anything, in whichever order, and
writes its text and its values in one edit.  So its edits are one error or one entry (`Once`), whatever
has to go well first (`Once.after`).  Only the steps of a join stand apart: they fail on a builder of
their own, and the join is written all the same, without the steps that failed.
-/

namespace FluentSql

/-! ## What makes a call itself fail -/

/-- How the condition of a join keeps the join from being written. -/
def JoinCondition.fault? : JoinCondition → Option BuildError
  | steps _ => Option.none
  | condition => condition.error?

/-- The error of the steps of a join, which passes to the builder while the join is written. -/
def JoinCondition.passed? : JoinCondition → Option BuildError
  | steps list => list.findSome? JoinStep.error?
  | _ => Option.none

/-- **What makes a call itself fail**: its operator, a value that the operator does not admit, its
source, or the dialect. -/
def Call.fault? (t : Target) : Call → Option BuildError
  | .join _ _ j => j.fault?
  | .joinSource _ source _ j => (source.error? t).or j.fault?
  | call => call.error? t

/-- The error that passes to the builder while the call writes its entry. -/
def Call.passed? : Call → Option BuildError
  | .join _ _ j | .joinSource _ _ _ j => j.passed?
  | _ => none

/-- Whether a condition is one entry; a group is none when it is empty. -/
def Predicate.single : Predicate → Bool
  | .group _ => false
  | _ => true

/-- **Whether a call writes one entry or the lock**, unless it fails. -/
def Call.single : Call → Bool
  | .condition _ _ p => p.single
  | .tableAs _ _ | .tableRaw _ _ | .tableSource _ _ | .selectAs _ _ | .selectExpr _ _ | .selectRaw _
  | .selectSource _ _ | .join _ _ _ | .joinSource _ _ _ _ | .listRaw _ _ _ | .listSource _ _ _
  | .union _ _ | .rowLock _ | .lock _ => true
  | _ => false

/-! ## One error or one entry -/

/-- **An edit that writes one entry of a clause, or the lock.** -/
inductive Edit.Writes : Slot → Edit → Prop
  | entry (c : Clause) (fragment : Fragment) (values : List Value) :
    Writes (.clause c) (.append c [fragment] values)
  | lock (sql : String) : Writes .lock (.lock sql)

/-- **Edits that fail or write once**, by what makes them fail and by what they pass on. -/
inductive Once (s : Slot) : Option BuildError → Option BuildError → List Edit → Prop
  | fails (e : BuildError) (passed : Option BuildError) : Once s (some e) passed [.fail e]
  | writes (passed : Option BuildError) {w : Edit} (h : w.Writes s) :
    Once s none passed (Edit.failure passed ++ [w])

namespace Once

variable {s : Slot} {fault passed : Option BuildError} {α : Type} {r : Except BuildError α}
  {next : α → List Edit}

/-- One entry. -/
theorem entry {c : Clause} {fragment : Fragment} {values : List Value} :
    Once (.clause c) none none [.append c [fragment] values] := .writes none (.entry c fragment values)

/-- **What has to go well first fails first.** -/
theorem after (h : ∀ a, r = .ok a → Once s fault passed (next a)) :
    Once s ((failure? r).or fault) passed (Edit.after r next) := by
  cases r with
  | error e => exact .fails e passed
  | ok a => exact h a rfl

/-- Only one thing has to go well. -/
theorem after_only (h : ∀ a, Once s none passed (next a)) :
    Once s (failure? r) passed (Edit.after r next) :=
  Option.or_none (o := failure? r) ▸ after fun a _ => h a

end Once

/-! ## The edits of calls -/

section Conditions

variable (t : Target) (clause : Clause) (link : Connective)

theorem Comparison.once (c : Comparison) :
    Once (.clause clause) c.error? none (c.edits t clause link) :=
  .after_only fun op => by
    split
    · exact .entry
    · exact .entry

theorem Edit.once_inCondition (negated : Bool) (column : String) (values : List Value) :
    Once (.clause clause) none none [inCondition t clause link negated column values] := by
  rw [inCondition]
  split
  · exact .entry
  · exact .entry

/-- **A condition fails or writes once.** -/
theorem Predicate.once {p : Predicate} (h : p.single) :
    Once (.clause clause) (p.error? t) none (p.edits t clause link) := by
  cases p with
  | group calls => exact absurd h Bool.noConfusion
  | compare c =>
    rw [Predicate.edits, Predicate.error?]
    exact c.once t clause link
  | compareSource _ _ source | sourceCompare source _ _ | quantified _ _ _ source =>
    rw [Predicate.edits, Predicate.error?, ← source.failure?_statement t]
    exact .after fun op _ => .after_only fun s => .entry
  | inSource _ _ source | existence _ source =>
    rw [Predicate.edits, Predicate.error?, ← source.failure?_statement t]
    exact .after_only fun s => .entry
  | like _ subject _ =>
    rw [Predicate.edits, Predicate.error?, ← subject.failure?_resolve t]
    exact .after_only fun s => .entry
  | inList negated column values =>
    exact Edit.once_inCondition t clause link negated column values
  | null _ _ | between _ _ _ _ | raw _ _ => exact .entry

/-- **A join fails by its operator or writes once**, and passes on the error of its steps. -/
theorem JoinCondition.once (kind : JoinKind) (table : String) (values : List Value)
    (condition : JoinCondition) :
    Once (.clause .joins) condition.fault? condition.passed?
      (condition.edits t kind table values) := by
  cases condition with
  | none => exact .entry
  | columns _ _ _ | value _ _ _ =>
    rw [edits, fault?, error?]
    · exact .after_only fun op => .entry
    · rintro _ ⟨⟩
  | steps list =>
    have hpassed : (Builder.ofEdits t (list.flatMap (JoinStep.edits t))).error =
        list.findSome? JoinStep.error? := by
      rw [Builder.error_ofEdits, ← funext (JoinStep.firstError_edits t)]
      exact FirstError.flatMap _ list
    rw [edits, fault?, passed?, hpassed]
    refine .writes _ ?_
    split
    · exact .entry ..
    · exact .entry ..

end Conditions

theorem RowLock.once (t : Target) (lock : RowLock) :
    Once .lock (lock.error? t) none (lock.edits t) := by
  rw [edits, error?]
  cases t.dialect.lock? lock with
  | some sql => exact .writes none (.lock sql)
  | none => exact .fails _ none

/-- **A call fails or writes once**, into its one slot. -/
theorem Call.once (t : Target) {c : Call} (h : c.single) :
    ∃ s, c.slots = [s] ∧ Once s (c.fault? t) c.passed? (c.edits t) := by
  cases c with
  | condition zone link p =>
    refine ⟨.clause zone.clause, rfl, ?_⟩
    rw [Call.edits, Call.fault?, Call.error?]
    · exact p.once t zone.clause link h
    · nofun
    · nofun
  | join kind table condition =>
    refine ⟨.clause .joins, rfl, ?_⟩
    rw [Call.edits]
    exact condition.once t kind _ []
  | joinSource kind source label condition =>
    refine ⟨.clause .joins, rfl, ?_⟩
    rw [Call.edits, Call.fault?, ← source.failure?_statement t, ← Evaluated.failure?_tableStatement]
    exact .after fun s _ => condition.once t kind _ s.bindings
  | tableSource source label =>
    refine ⟨.clause .froms, rfl, ?_⟩
    rw [Call.edits, Call.fault?, Call.error?, ← source.failure?_statement t,
      ← Evaluated.failure?_tableStatement]
    · exact .after_only fun s => .entry
    · nofun
    · nofun
  | selectSource source _ | listSource _ source _ | union _ source =>
    refine ⟨_, rfl, ?_⟩
    rw [Call.edits, Call.fault?, Call.error?, ← source.failure?_statement t]
    · exact .after_only fun s => .entry
    · nofun
    · nofun
  | rowLock lock =>
    refine ⟨.lock, rfl, ?_⟩
    rw [Call.edits, Call.fault?, Call.error?]
    · exact lock.once t
    · nofun
    · nofun
  | lock sql => exact ⟨.lock, rfl, .writes none (.lock sql)⟩
  | tableAs _ _ | tableRaw _ _ | selectAs _ _ | selectExpr _ _ | selectRaw _ | listRaw _ _ _ =>
    exact ⟨_, rfl, .entry⟩
  | _ => exact absurd h Bool.noConfusion

/-! ## The builder after a call -/

/-- **A failing call leaves the query untouched.**  Of a builder, whatever it holds, a call that fails
changes the recorded error and nothing else, and that only if there was none.  A call that does not fail
changes the query, and the error only by what the steps of a join pass on: its one clause has one
fragment more and the values of that, or else the lock is set, and all other clauses are as they were. -/
theorem Builder.call_untouched_or_once (b : Builder) {c : Call} (h : c.single) :
    let written := (b.call c).query
    (∀ e, c.fault? b.target = some e → b.call c = { b with error := b.error.or (some e) }) ∧
    (c.fault? b.target = none →
      b.call c = { b with query := written, error := b.error.or c.passed? } ∧
      ((∃ clause fragment values, c.slots = [.clause clause] ∧
          b.query.Gains written clause fragment values) ∨
        ∃ sql, c.slots = [.lock] ∧ (∀ d, written.part d = b.query.part d) ∧
          written.lock = some sql)) := by
  intro written
  obtain ⟨s, hs, honce⟩ := c.once b.target h
  have hcall : b.call c = b.edits (c.edits b.target) := rfl
  generalize c.fault? b.target = fault, c.passed? = passed, c.edits b.target = es at honce hcall
  cases honce with
  | fails e passed =>
    exact ⟨fun e' he => Option.some.inj he ▸ hcall, fun hnone => absurd hnone (Option.some_ne_none e)⟩
  | @writes passed w hw =>
    refine ⟨fun e he => absurd he.symm (Option.some_ne_none e), fun _ => ?_⟩
    rw [edits_append, edits_failure] at hcall
    have hwritten : written = ({ b with error := b.error.or passed }.edit w).query :=
      congrArg Builder.query hcall
    cases hw with
    | entry clause fragment values =>
      refine ⟨hwritten ▸ hcall, .inl ⟨clause, fragment, values, hs, ?_⟩⟩
      exact hwritten ▸ b.query.gains_append clause fragment values
    | lock sql =>
      refine ⟨hwritten ▸ hcall, .inr ⟨sql, hs, ?_, ?_⟩⟩
      · exact hwritten ▸ b.query.part_setLock (some sql)
      · exact hwritten ▸ b.query.lock_setLock (some sql)

/-- A join with a sub-query that fails leaves the builder but for the error; one with a step that fails
is written, and its error passed on.  A lock is set. -/
theorem Builder.call_untouched_or_once_join :
    let b := (Builder.new ⟨.mysql, none⟩).calls [.table "t", .whereEq "a" (.int 1)]
    let joined (operator : String) (link : String) : Call :=
      .joinSource .left (.closure [.table "u", .whereCmp "x" operator (.int 2)]) "o"
        (.steps [.on .and "t.id" "=" "o.id", .on .or "t.id" link "o.x"])
    let written := (b.call (joined "<" "to")).query
    let locked := b.call (.rowLock .exclusive)
    ((joined "near" "=").single ∧
      (joined "near" "=").fault? b.target = some (.invalidOperator "near") ∧
      b.call (joined "near" "=") = { b with error := some (.invalidOperator "near") }) ∧
    ((joined "<" "to").single ∧ (joined "<" "to").fault? b.target = none ∧
      b.call (joined "<" "to") =
        { b with query := written, error := some (.invalidOperator "to") } ∧
      written.part .joins =
        ⟨[.text "LEFT JOIN (SELECT * FROM `u` WHERE `x` < ?) AS `o` ON `t`.`id` = `o`.`id`"],
          [.int 2]⟩ ∧
      written.part .wheres = ⟨[.text "AND `a` = ?"], [.int 1]⟩ ∧
      (∀ d ≠ .joins, written.part d = b.query.part d) ∧ written.lock = none) ∧
    (Call.rowLock .exclusive).single ∧ (Call.rowLock .exclusive).fault? b.target = none ∧
      (∀ d, locked.query.part d = b.query.part d) ∧ locked.query.lock = some "FOR UPDATE" := by
  intro b joined written locked
  have hfault : (joined "near" "=").fault? b.target = some (.invalidOperator "near") := by
    decide +kernel
  have hnone : (joined "<" "to").fault? b.target = none := by decide +kernel
  have hlock : (Call.rowLock .exclusive).fault? b.target = none := by decide
  refine ⟨⟨rfl, hfault, (b.call_untouched_or_once rfl).1 _ hfault⟩, ⟨rfl, hnone, ?_⟩, rfl, hlock, ?_⟩
  · obtain ⟨hcall, ⟨clause, fragment, values, hslots, hgains⟩ | ⟨sql, hslots, -⟩⟩ :=
      (b.call_untouched_or_once (c := joined "<" "to") rfl).2 hnone
    · obtain rfl : clause = .joins := Slot.clause.inj (List.singleton_inj.mp hslots.symm)
      exact ⟨hcall, by decide +kernel, by decide +kernel, hgains.others, hgains.lock⟩
    · exact absurd hslots (by decide)
  · obtain ⟨-, ⟨clause, -, -, hslots, -⟩ | ⟨sql, -, hparts, -⟩⟩ :=
      (b.call_untouched_or_once (c := .rowLock .exclusive) rfl).2 hlock
    · cases hslots
    · exact ⟨hparts, by decide +kernel⟩

end FluentSql
