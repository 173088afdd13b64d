import FluentSql.Builder.Meaning
import FluentSql.Proofs.Splice.Query

/-!
# Proofs/Splice/Keep — what is added to a clause stays in it

A limit and an offset are replaced when they are set again; an entry of any other clause stays, whatever
is called after it (`callsKeep`), and so does the gap in it.
-/

namespace FluentSql

namespace Keeps

variable {c : Clause} {es fs : List Edit}

theorem single {e : Edit} (h : ∀ fragment values, e ≠ .replace c fragment values) : Keeps c [e] :=
  List.forall_mem_singleton.mpr h

theorem entry {d : Clause} {fragments : List Fragment} {values : List Value} :
    Keeps c [.append d fragments values] := single nofun

theorem append (h : Keeps c es) (h' : Keeps c fs) : Keeps c (es ++ fs) :=
  List.forall_mem_append.mpr ⟨h, h'⟩

theorem flatMap {α : Type} {f : α → List Edit} (h : ∀ a, Keeps c (f a)) (l : List α) :
    Keeps c (l.flatMap f) := List.forall_mem_flatMap.mpr fun a _ => h a

theorem map {α : Type} {f : α → Edit} (h : ∀ a, Keeps c [f a]) (l : List α) : Keeps c (l.map f) :=
  List.forall_mem_map.mpr fun a _ => h a (f a) List.mem_cons_self

theorem after {α : Type} {r : Except BuildError α} {f : α → List Edit} (h : ∀ a, Keeps c (f a)) :
    Keeps c (Edit.after r f) := Edit.forall_mem_after (fun _ => nofun) fun a _ => h a

theorem failure (error : Option BuildError) : Keeps c (Edit.failure error) :=
  Edit.forall_mem_failure (fun _ => nofun) error

end Keeps

section

variable {c : Clause} (t : Target) (clause : Clause) (link : Connective)

theorem Edit.inCondition_keeps (negated : Bool) (column : String) (values : List Value) :
    Keeps c [inCondition t clause link negated column values] := by
  unfold inCondition
  split <;> exact .entry

theorem Comparison.keeps (comparison : Comparison) : Keeps c (comparison.edits t clause link) :=
  .after fun op => by split <;> exact .entry

theorem Comparison.batch_keeps (comparisons : List Comparison) :
    Keeps c (Comparison.batch t clause link comparisons) :=
  .flatMap (fun _ => .after fun n => n.keeps t clause link) comparisons

theorem JoinStep.keeps (step : JoinStep) : Keeps c (step.edits t) := by
  cases step with
  | on link first operator second => exact .after fun op => .entry
  | compare link comparison => exact comparison.keeps t .joins link
  | null negated column => exact .entry
  | within column values => exact Edit.inCondition_keeps t .joins .and false column values
  | note => exact .nil

theorem JoinCondition.keeps (kind : JoinKind) (table : String) (values : List Value)
    (condition : JoinCondition) : Keeps c (condition.edits t kind table values) := by
  cases condition with
  | none => exact .entry
  | columns first operator second => exact .after fun op => .entry
  | value column operator v =>
    rw [JoinCondition.edits]
    exact .after fun op => .entry
  | steps list =>
    refine (Keeps.failure _).append ?_
    split <;> exact .entry

theorem Builder.groupEdits_keeps (b : Builder) : Keeps c (b.groupEdits clause link) := by
  refine (Keeps.failure b.error).append ?_
  split
  · exact .nil
  · exact .entry

theorem Predicate.keeps (p : Predicate) : Keeps c (p.edits t clause link) := by
  cases p with
  | compare comparison => exact comparison.keeps t clause link
  | group calls =>
    rw [Predicate.edits, Builder.conditionEdits]
    split
    · exact Builder.groupEdits_keeps clause link _
    · exact .after fun s => .entry
  | inList negated column values => exact Edit.inCondition_keeps t clause link negated column values
  | compareSource _ _ _ | sourceCompare _ _ _ | quantified _ _ _ _ =>
    rw [Predicate.edits]
    exact .after fun op => .after fun s => .entry
  | inSource _ _ _ | like _ _ _ | existence _ _ =>
    rw [Predicate.edits]
    exact .after fun s => .entry
  | null _ _ | between _ _ _ _ | raw _ _ => exact .entry

end

/-- **Only limits and offsets are replaced**: a call keeps every other clause. -/
theorem Call.keeps {c : Clause} (hc : c.Lasting) (t : Target) (call : Call) : Keeps c (call.edits t) := by
  have hreplace {d : Clause} (hd : d ≠ c) {fragment : Fragment} {values : List Value} :
      Keeps c [.replace d fragment values] :=
    .single fun _ _ he => hd (Edit.replace.inj he).1
  cases call with
  | nest calls clause link =>
    rw [Call.edits]
    exact Builder.groupEdits_keeps clause link _
  | condition zone link p =>
    rw [Call.edits]
    exact p.keeps t zone.clause link
  | compareMany zone link comparisons =>
    rw [Call.edits]
    exact Comparison.batch_keeps t zone.clause link comparisons
  | inMany lists =>
    rw [Call.edits]
    exact .map (fun l => Edit.inCondition_keeps t .wheres .and false l.1 l.2) lists
  | join kind table condition =>
    rw [Call.edits]
    exact condition.keeps t kind _ _
  | joinSource kind source label condition =>
    rw [Call.edits]
    exact .after fun s => condition.keeps t kind _ _
  | select columns =>
    rcases columns with - | ⟨column, columns⟩
    · exact .entry
    · rw [Call.edits]
      exact .map (fun _ => .entry) _
  | tables _ | nullMany _ _ | list _ _ _ =>
    rw [Call.edits]
    exact .map (fun _ => .entry) _
  | tableSource _ _ | selectSource _ _ | listSource _ _ _ | union _ _ =>
    rw [Call.edits]
    exact .after fun s => .entry
  | push _ _ _ | tableAs _ _ | tableRaw _ _ | selectAs _ _ | selectExpr _ _ | selectRaw _
  | listRaw _ _ _ => exact .entry
  | limit _ | limitRange _ _ | limitRaw _ => exact hreplace (Ne.symm hc.1)
  | offset _ | offsetRaw _ => exact hreplace (Ne.symm hc.2)
  | forPage page size =>
    have hlimit : Keeps c [Edit.limit size] := hreplace (Ne.symm hc.1)
    have hpage : Keeps c [Edit.offset (pageOffset page size)] := hreplace (Ne.symm hc.2)
    exact hlimit.append hpage
  | rowLock lock =>
    rw [Call.edits, RowLock.edits]
    split <;> exact .single (by rintro _ _ ⟨⟩)
  | throws _ | debug _ | page _ | perPage _ | lock _ => exact .single (by rintro _ _ ⟨⟩)

theorem callsKeep {c : Clause} (hc : c.Lasting) (t : Target) (calls : List Call) :
    Keeps c (callEdits t calls) := by
  induction calls with
  | nil =>
    rw [callEdits]
    exact .nil
  | cons call calls ih =>
    rw [callEdits]
    exact (call.keeps hc t).append ih

end FluentSql
