import FluentSql.Builder.Meaning
import FluentSql.Proofs.Edits
import FluentSql.Proofs.Operator

/-!
# Proofs/Failure/Call — the first error of a chain of calls

`Call.error?` says how a call fails, from the call alone: an operator before the source it stands
by, a source by the first error of its own calls.  That is what the edits of the call record
(`Call.firstError_edits`), so a chain of calls records the error of the first call that fails
(`Builder.error_calls`).
-/

namespace FluentSql

variable {α : Type}

/-! ## The first error of edits -/

/-- The error of a result, if it has one. -/
def failure? : Except BuildError α → Option BuildError
  | .error e => some e
  | .ok _ => none

/-- **The first error that edits record.** -/
def firstError (es : List Edit) : Option BuildError := es.findSome? Edit.error?

namespace FirstError

variable {es fs : List Edit}

theorem append : firstError (es ++ fs) = (firstError es).or (firstError fs) :=
  List.findSome?_append

theorem map {f : α → Edit} (h : ∀ a, (f a).error? = none) (l : List α) :
    firstError (l.map f) = none := by
  rw [firstError, List.findSome?_eq_none_iff]
  exact List.forall_mem_map.mpr fun a _ => h a

theorem flatMap (f : α → List Edit) (l : List α) :
    firstError (l.flatMap f) = l.findSome? fun a => firstError (f a) := by
  induction l with
  | nil => rfl
  | cons a l ih =>
    rw [List.flatMap_cons, append, ih, List.findSome?_cons]
    cases firstError (f a) <;> rfl

/-- **A result fails before what it leads to.** -/
theorem after {r : Except BuildError α} {next : α → List Edit} {error : Option BuildError}
    (h : ∀ a, r = .ok a → firstError (next a) = error) :
    firstError (Edit.after r next) = (failure? r).or error := by
  cases r with
  | error e => rfl
  | ok a => exact h a rfl

/-- A result that leads to no failure. -/
theorem after_none {r : Except BuildError α} {next : α → List Edit}
    (h : ∀ a, firstError (next a) = none) : firstError (Edit.after r next) = failure? r :=
  (after fun a _ => h a).trans (Option.or_none ..)

theorem failure (error : Option BuildError) : firstError (Edit.failure error) = error := by
  cases error <;> rfl

end FirstError

/-! ## How calls fail -/

/-- A comparison fails by its operator. -/
def Comparison.error? (c : Comparison) : Option BuildError :=
  failure? (Operator.prepare c.operator c.value)

/-- A step of a join fails by its operator. -/
def JoinStep.error? : JoinStep → Option BuildError
  | on _ _ operator _ => failure? (Operator.check operator)
  | compare _ c => c.error?
  | _ => none

/-- The conditions of a join fail by their operator, or by that of the first step that fails. -/
def JoinCondition.error? : JoinCondition → Option BuildError
  | none => Option.none
  | columns _ operator _ => failure? (Operator.check operator)
  | steps list => list.findSome? JoinStep.error?
  | value _ operator v => failure? (Operator.prepare (some operator) v)

/-- A row lock fails in a dialect without it. -/
def RowLock.error? (t : Target) (lock : RowLock) : Option BuildError :=
  match t.dialect.lock? lock with
  | some _ => none
  | none => some (.methodNotFound lock.method t.dialect.name)

mutual

/-- **How a call fails**, if it does. -/
def Call.error? (t : Target) : Call → Option BuildError
  | .nest calls _ _ => callsError? t calls
  | .tableSource source _ => source.error? t
  | .selectSource source _ => source.error? t
  | .condition _ _ p => p.error? t
  | .compareMany _ _ comparisons => comparisons.findSome? Comparison.error?
  | .join _ _ condition => condition.error?
  | .joinSource _ source _ condition => (source.error? t).or condition.error?
  | .listSource _ source _ => source.error? t
  | .union _ source => source.error? t
  | .rowLock lock => lock.error? t
  | _ => none

/-- How a condition fails: an operator is looked at before the source it stands by. -/
def Predicate.error? (t : Target) : Predicate → Option BuildError
  | .compare c => c.error?
  | .group calls => callsError? t calls
  | .compareSource _ operator source => (failure? (Operator.check operator)).or (source.error? t)
  | .sourceCompare source operator value =>
    (failure? (Operator.prepare (some operator) value)).or (source.error? t)
  | .inSource _ _ source => source.error? t
  | .like _ subject _ => subject.error? t
  | .existence _ source => source.error? t
  | .quantified _ _ operator source =>
    (failure? (Operator.check operator)).or (source.error? t)
  | _ => none

/-- **How a source fails**: a text when it is blank, calls by their first error. -/
def Source.error? (t : Target) : Source → Option BuildError
  | .text sql =>
    if (Text.stripBlanks sql.toList).isEmpty then some (.invalidSubquery "empty SQL text") else none
  | .raw _ => none
  | .closure calls => callsError? t calls
  | .prepared target calls => callsError? (target.getD t) calls

/-- How an operand fails. -/
def Operand.error? (t : Target) : Operand → Option BuildError
  | .column _ => none
  | .source source => source.error? t

/-- **The error of the first call that fails.** -/
def callsError? (t : Target) : List Call → Option BuildError
  | [] => none
  | call :: rest => (call.error? t).or (callsError? t rest)

end

theorem callsError?_eq (t : Target) (calls : List Call) :
    callsError? t calls = calls.findSome? (Call.error? t) := by
  induction calls with
  | nil => rfl
  | cons call rest ih =>
    rw [callsError?, ih, List.findSome?_cons]
    cases call.error? t <;> rfl

/-! ## The errors that edits record are those of the calls -/

section Conditions

variable (t : Target) (clause : Clause) (link : Connective)

theorem Comparison.firstError_edits (c : Comparison) :
    firstError (c.edits t clause link) = c.error? :=
  FirstError.after_none fun op => by split <;> rfl

/-- A member of a batch fails as it does on its own. -/
theorem Comparison.firstError_batch (cs : List Comparison) :
    firstError (Comparison.batch t clause link cs) = cs.findSome? Comparison.error? := by
  rw [batch_eq, FirstError.flatMap, funext (firstError_edits t clause link)]

theorem failure?_compile (b : Builder) : failure? b.compile = b.error := by
  rw [Builder.compile_eq]
  cases b.error <;> rfl

theorem failure?_map {β : Type} (f : α → β) (r : Except BuildError α) :
    failure? (r.map f) = failure? r := by
  cases r <;> rfl

/-- As a table a source fails as it does elsewhere. -/
theorem Evaluated.failure?_tableStatement (source : Evaluated) :
    failure? (source.tableStatement t) = failure? source.statement := by
  cases source with
  | prepared b =>
    rw [tableStatement, statement, failure?_compile, failure?_compile, Builder.error_qualifiedFor]
  | text | raw | fresh => rfl

theorem Builder.firstError_groupEdits (b : Builder) :
    firstError (b.groupEdits clause link) = b.error := by
  rw [groupEdits, FirstError.append, FirstError.failure]
  split <;> exact Option.or_none ..

theorem Builder.firstError_conditionEdits (b : Builder) :
    firstError (b.conditionEdits clause link) = b.error := by
  rw [conditionEdits]
  split
  · exact b.firstError_groupEdits clause link
  · rw [FirstError.after_none fun _ => rfl, failure?_compile]

theorem Edit.error?_inCondition (negated : Bool) (column : String) (values : List Value) :
    (inCondition t clause link negated column values).error? = none := by
  rw [inCondition]
  split <;> rfl

theorem JoinStep.firstError_edits (step : JoinStep) : firstError (step.edits t) = step.error? := by
  cases step with
  | on link first operator second => rw [edits, error?, FirstError.after_none fun _ => rfl]
  | compare link c => exact c.firstError_edits t .joins link
  | null negated column => rfl
  | within column values =>
    rw [edits, firstError, List.findSome?_singleton, Edit.error?_inCondition]
    rfl
  | note => rfl

theorem JoinCondition.firstError_edits (kind : JoinKind) (table : String) (values : List Value)
    (condition : JoinCondition) :
    firstError (condition.edits t kind table values) = condition.error? := by
  cases condition with
  | none => rfl
  | columns first operator second => rw [edits, error?, FirstError.after_none fun _ => rfl]
  | value column operator v => rw [edits, error?, FirstError.after_none fun _ => rfl]
  | steps list =>
    rw [edits, FirstError.append, FirstError.failure, Builder.error_ofEdits]
    change (firstError (list.flatMap (JoinStep.edits t))).or _ = list.findSome? JoinStep.error?
    rw [FirstError.flatMap, funext (JoinStep.firstError_edits t)]
    split <;> exact Option.or_none ..

theorem RowLock.firstError_edits (lock : RowLock) : firstError (lock.edits t) = lock.error? t := by
  rw [edits, error?]
  cases t.dialect.lock? lock <;> rfl

end Conditions

mutual

/-- **The edits of a call record how it fails.** -/
theorem Call.firstError_edits (t : Target) (c : Call) : firstError (c.edits t) = c.error? t := by
  cases c with
  | nest calls clause link =>
    rw [Call.edits, Builder.firstError_groupEdits, Builder.error_ofEdits]
    exact callsFirstError t calls
  | tables names => exact FirstError.map (fun _ => rfl) names
  | select columns =>
    rcases columns with - | ⟨c, cs⟩
    · rfl
    · rw [Call.edits]
      exact FirstError.map (fun _ => rfl) (c :: cs)
  | tableSource source label =>
    rw [Call.edits, Call.error?, FirstError.after_none fun _ => rfl,
      Evaluated.failure?_tableStatement]
    exact source.failure?_statement t
  | selectSource source label | listSource listing source direction | union all source =>
    rw [Call.edits, Call.error?, FirstError.after_none fun _ => rfl]
    exact source.failure?_statement t
  | condition zone link p =>
    rw [Call.edits, Call.error?]
    exact p.firstError_edits t zone.clause link
  | compareMany zone link comparisons =>
    rw [Call.edits, Call.error?]
    exact Comparison.firstError_batch t zone.clause link comparisons
  | inMany lists =>
    rw [Call.edits]
    exact FirstError.map (fun l => Edit.error?_inCondition t .wheres .and false l.1 l.2) lists
  | nullMany negated columns => exact FirstError.map (fun _ => rfl) columns
  | join kind table condition =>
    rw [Call.edits, Call.error?]
    exact condition.firstError_edits t kind _ []
  | joinSource kind source label condition =>
    rw [Call.edits, Call.error?,
      FirstError.after fun s _ => condition.firstError_edits t kind _ s.bindings,
      Evaluated.failure?_tableStatement, source.failure?_statement t]
  | list listing columns direction => exact FirstError.map (fun _ => rfl) columns
  | rowLock lock =>
    rw [Call.edits, Call.error?]
    exact lock.firstError_edits t
  | push | throws | debug | tableAs | tableRaw | selectAs | selectExpr | selectRaw | listRaw | limit
  | limitRange | limitRaw | offset | offsetRaw | page | perPage | forPage | lock => rfl

theorem Predicate.firstError_edits (t : Target) (clause : Clause) (link : Connective)
    (p : Predicate) : firstError (p.edits t clause link) = p.error? t := by
  cases p with
  | compare c =>
    rw [Predicate.edits, Predicate.error?]
    exact c.firstError_edits t clause link
  | group calls =>
    rw [Predicate.edits, Builder.firstError_conditionEdits, Builder.error_ofEdits]
    exact callsFirstError t calls
  | compareSource column operator source | quantified quantifier column operator source =>
    rw [Predicate.edits, Predicate.error?, ← source.failure?_statement t]
    exact FirstError.after fun op _ => FirstError.after_none fun _ => rfl
  | sourceCompare source operator value =>
    rw [Predicate.edits, Predicate.error?, ← source.failure?_statement t]
    exact FirstError.after fun op _ => FirstError.after_none fun _ => rfl
  | inList negated column values =>
    rw [Predicate.edits, firstError, List.findSome?_singleton, Edit.error?_inCondition]
    rfl
  | inSource negated column source | existence negated source =>
    rw [Predicate.edits, Predicate.error?, FirstError.after_none fun _ => rfl]
    exact source.failure?_statement t
  | like negated subject pattern =>
    rw [Predicate.edits, Predicate.error?, FirstError.after_none fun _ => rfl]
    exact subject.failure?_resolve t
  | null | between | raw => rfl

theorem Source.failure?_statement (t : Target) (source : Source) :
    failure? (source.evaluate t).statement = source.error? t := by
  cases source with
  | text sql =>
    rw [Source.evaluate, Evaluated.statement, Source.error?]
    split <;> rfl
  | raw e => rfl
  | closure calls =>
    rw [Source.evaluate, Evaluated.statement, failure?_compile, Builder.error_ofEdits]
    exact callsFirstError t calls
  | prepared target calls =>
    rw [Source.evaluate, Evaluated.statement, failure?_compile, Builder.error_ofEdits]
    exact callsFirstError (target.getD t) calls

theorem Operand.failure?_resolve (t : Target) (operand : Operand) :
    failure? (operand.resolve t) = operand.error? t := by
  cases operand with
  | column name => rfl
  | source source =>
    cases source with
    | raw e => rfl
    | text sql | closure calls | prepared target calls =>
      rw [Operand.resolve, failure?_map, Operand.error?]
      · exact Source.failure?_statement t _
      · nofun

theorem callsFirstError (t : Target) (calls : List Call) :
    firstError (callEdits t calls) = callsError? t calls := by
  cases calls with
  | nil => rfl
  | cons call rest =>
    rw [callEdits, FirstError.append, call.firstError_edits t, callsFirstError t rest, callsError?]

end

/-- **The recorded error is that of the first call that fails**, unless one was recorded before. -/
theorem Builder.error_calls (b : Builder) (calls : List Call) :
    (b.calls calls).error = b.error.or (calls.findSome? (Call.error? b.target)) := by
  rw [Builder.calls_eq_edits, Builder.error_edits, ← callsError?_eq, ← callsFirstError]
  rfl

end FluentSql
