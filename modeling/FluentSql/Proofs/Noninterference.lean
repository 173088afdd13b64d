import FluentSql.Proofs.Compilation
import FluentSql.Proofs.Mask

/-!
# Proofs/Noninterference — values never reach the text

Two runs whose calls look the same behind a mask differ only in their values, and in none that is NULL
in one run alone.  Such runs give the same text, or the same error, and bind as many values
(`Builder.noninterference`).  The reason is that masking commutes with everything: the edits of masked
calls are the masked edits (`Call.edits_masked`), so each of the two runs is, behind its mask, the one
run of the masked calls.
-/

namespace FluentSql

/-! ## Masked calls -/

/-- A comparison with its value masked. -/
def Comparison.masked (c : Comparison) : Comparison := { c with value := c.value.masked }

/-- A step of a join with its values masked. -/
def JoinStep.masked : JoinStep → JoinStep
  | compare link c => compare link c.masked
  | within column values => within column (values.map Value.masked)
  | step => step

/-- What ties a joined table to the rest, its values masked. -/
def JoinCondition.masked : JoinCondition → JoinCondition
  | steps list => steps (list.map JoinStep.masked)
  | value column operator v => value column operator v.masked
  | condition => condition

mutual

/-- **A call with its values masked**: those of conditions and literal texts, and the numbers of rows
and pages. -/
def Call.masked : Call → Call
  | .push clause fragments values =>
    .push clause (fragments.map Fragment.masked) (values.map Value.masked)
  | .nest calls clause link => .nest (maskCalls calls) clause link
  | .throws message => .throws message
  | .debug on => .debug on
  | .tables names => .tables names
  | .tableAs name label => .tableAs name label
  | .tableRaw e values => .tableRaw e.masked (values.map Value.masked)
  | .tableSource source label => .tableSource source.masked label
  | .select columns => .select columns
  | .selectAs column label => .selectAs column label
  | .selectExpr e label => .selectExpr e.masked label
  | .selectRaw e => .selectRaw e.masked
  | .selectSource source label => .selectSource source.masked label
  | .condition zone link p => .condition zone link p.masked
  | .compareMany zone link comparisons =>
    .compareMany zone link (comparisons.map Comparison.masked)
  | .inMany lists => .inMany (lists.map fun l => (l.1, l.2.map Value.masked))
  | .nullMany negated columns => .nullMany negated columns
  | .join kind table condition => .join kind table condition.masked
  | .joinSource kind source label condition =>
    .joinSource kind source.masked label condition.masked
  | .list listing columns direction => .list listing columns direction
  | .listRaw listing e values => .listRaw listing e.masked (values.map Value.masked)
  | .listSource listing source direction => .listSource listing source.masked direction
  | .limit _ => .limit 0
  | .limitRange _ _ => .limitRange 0 0
  | .limitRaw e => .limitRaw e.masked
  | .offset _ => .offset 0
  | .offsetRaw e => .offsetRaw e.masked
  | .page _ => .page 0
  | .perPage _ => .perPage 0
  | .forPage _ _ => .forPage 0 0
  | .union all source => .union all source.masked
  | .rowLock lock => .rowLock lock
  | .lock sql => .lock sql

/-- A condition with its values masked. -/
def Predicate.masked : Predicate → Predicate
  | .compare c => .compare c.masked
  | .group calls => .group (maskCalls calls)
  | .compareSource column operator source => .compareSource column operator source.masked
  | .sourceCompare source operator value => .sourceCompare source.masked operator value.masked
  | .inList negated column values => .inList negated column (values.map Value.masked)
  | .inSource negated column source => .inSource negated column source.masked
  | .null negated column => .null negated column
  | .between negated column low high => .between negated column low.masked high.masked
  | .like negated subject pattern => .like negated subject.masked pattern.masked
  | .existence negated source => .existence negated source.masked
  | .quantified quantifier column operator source =>
    .quantified quantifier column operator source.masked
  | .raw e values => .raw e.masked (values.map Value.masked)

/-- A source with its values masked. -/
def Source.masked : Source → Source
  | .text sql => .text sql
  | .raw e => .raw e.masked
  | .closure calls => .closure (maskCalls calls)
  | .prepared target calls => .prepared target (maskCalls calls)

/-- The left side of a pattern condition with its values masked. -/
def Operand.masked : Operand → Operand
  | .column name => .column name
  | .source source => .source source.masked

/-- Calls with their values masked. -/
def maskCalls : List Call → List Call
  | [] => []
  | call :: rest => call.masked :: maskCalls rest

end

/-! ## Masked edits of conditions -/

namespace Edit

variable {clause : Clause} {link : Connective} {t : Target} {column : String}

/-- Edits after a masked result are the masked edits after the result. -/
theorem map_after {α β : Type} {r : Except BuildError α} {f : α → β} {g : β → List Edit}
    {g' : α → List Edit} (h : ∀ a, g (f a) = (g' a).map masked) :
    after (r.map f) g = (after r g').map masked := by
  cases r with
  | error e => rfl
  | ok a => exact h a

/-- The same for a result that holds no value. -/
theorem map_after_self {α : Type} {r : Except BuildError α} {g g' : α → List Edit}
    (h : ∀ a, g a = (g' a).map masked) : after r g = (after r g').map masked := by
  cases r with
  | error e => rfl
  | ok a => exact h a

theorem failure_masked (error : Option BuildError) :
    (failure error).map masked = failure error := by cases error <;> rfl

/-- The mask of an entry is the entry of the masked values. -/
theorem entry_masked (sql : String) (values : List Value) :
    (entry clause sql values).masked = entry clause sql (values.map Value.masked) := rfl

theorem rawEntry_masked (e : Expression) (values : List Value) :
    rawEntry clause e.masked (values.map Value.masked) = (rawEntry clause e values).masked := by
  rw [rawEntry, rawEntry, masked, Expression.values_masked, List.map_append]
  rfl

theorem rawCondition_masked (e : Expression) (values : List Value) :
    rawCondition clause link e.masked (values.map Value.masked) =
      (rawCondition clause link e values).masked :=
  rawEntry_masked { e with text := link.rawKeyword ++ " " ++ e.text } values

theorem replaceRaw_masked (e : Expression) :
    replaceRaw clause e.masked = (replaceRaw clause e).masked := by
  rw [replaceRaw, replaceRaw, Expression.values_masked]
  rfl

/-- A number of rows does not show. -/
theorem limit_masked (n : UInt64) : (limit n).masked = limit 0 :=
  congrArg (fun v => replace .limits (.text "?") [v]) (Value.masked_ofUInt64 n)

theorem limitRange_masked (m n : UInt64) : (limitRange m n).masked = limitRange 0 0 :=
  congrArg₂ (fun v w => replace .limits (.text "?, ?") [v, w]) (Value.masked_ofUInt64 m)
    (Value.masked_ofUInt64 n)

theorem offset_masked (n : UInt64) : (offset n).masked = offset 0 :=
  congrArg (fun v => replace .offset (.text "?") [v]) (Value.masked_ofUInt64 n)

/-- **A list of values shows its length only.** -/
theorem inCondition_masked (negated : Bool) (values : List Value) :
    inCondition t clause link negated column (values.map Value.masked) =
      (inCondition t clause link negated column values).masked := by
  have hplaceholders : placeholders (values.map Value.masked) = placeholders values := by
    rw [placeholders, List.map_map, placeholders]
    rfl
  rw [inCondition, inCondition, List.isEmpty_map, hplaceholders]
  split
  · rfl
  · rfl

/-- Edits that hold no value are their own masks. -/
theorem map_masked_self {α : Type} {f : α → Edit} (h : ∀ a, (f a).masked = f a) (l : List α) :
    (l.map f).map masked = l.map f := by
  rw [List.map_map]
  exact List.map_congr_left fun a _ => h a

end Edit

/-- **An operator depends on a value only as far as it is NULL.** -/
theorem Operator.prepare_masked (operator : Option String) (v : Value) :
    prepare operator v.masked = prepare operator v := by
  unfold prepare rejects
  rw [Value.isNull_masked]

section Parts

variable {t : Target} {clause : Clause} {link : Connective}

/-- **A comparison shows of its value only whether it is NULL.** -/
theorem Comparison.edits_masked (c : Comparison) :
    c.masked.edits t clause link = (c.edits t clause link).map Edit.masked := by
  unfold Comparison.edits
  rw [Comparison.masked, Operator.prepare_masked, Value.isNull_masked]
  refine Edit.map_after_self fun op => ?_
  split <;> rfl

theorem Comparison.normalized_masked (c : Comparison) :
    c.masked.normalized = c.normalized.map Comparison.masked := by
  unfold normalized
  rw [masked, Operator.prepare_masked]
  cases Operator.prepare c.operator c.value <;> rfl

theorem Comparison.batch_masked (cs : List Comparison) :
    Comparison.batch t clause link (cs.map Comparison.masked) =
      (Comparison.batch t clause link cs).map Edit.masked := by
  rw [batch, batch, List.flatMap_map, List.map_flatMap]
  refine List.flatMap_congr fun c _ => ?_
  rw [normalized_masked]
  exact Edit.map_after edits_masked

/-- A step of a join shows of its values what a condition shows. -/
theorem JoinStep.edits_masked (step : JoinStep) :
    step.masked.edits t = (step.edits t).map Edit.masked := by
  cases step with
  | on link first operator second => exact Edit.map_after_self fun op => rfl
  | compare link c => exact c.edits_masked
  | null negated column => rfl
  | within column values => exact congrArg ([·]) (Edit.inCondition_masked false values)
  | note => rfl

/-- **A join shows no value of its table and none of its conditions.** -/
theorem JoinCondition.edits_masked (c : JoinCondition) (kind : JoinKind) (table : String)
    (values : List Value) :
    c.masked.edits t kind table (values.map Value.masked) =
      (c.edits t kind table values).map Edit.masked := by
  cases c with
  | none => rfl
  | columns first operator second => exact Edit.map_after_self fun op => rfl
  | steps list =>
    have hedits : (list.map JoinStep.masked).flatMap (JoinStep.edits t) =
        (list.flatMap (JoinStep.edits t)).map Edit.masked := by
      rw [List.flatMap_map, List.map_flatMap]
      exact List.flatMap_congr fun step _ => step.edits_masked
    simp only [JoinCondition.masked, JoinCondition.edits]
    rw [hedits, ← Builder.masked_ofEdits, Builder.error_masked, Builder.query_masked,
      Query.part_masked, Part.isEmpty_masked, List.map_append, Edit.failure_masked]
    split
    · rfl
    · rw [Part.masked, Fragment.join_masked, List.map_singleton, Edit.join, Edit.join,
        Edit.entry_masked, List.map_append]
  | value column operator v =>
    rw [masked, edits, edits, Operator.prepare_masked]
    refine Edit.map_after_self fun op => ?_
    rw [List.map_singleton, Edit.join, Edit.join, Edit.entry_masked, List.map_append]
    rfl

end Parts

/-! ## Masked sources -/

/-- A source with its calls run and its values masked. -/
def Evaluated.masked : Evaluated → Evaluated
  | text sql => text sql
  | raw e => raw e.masked
  | fresh b => fresh b.masked
  | prepared b => prepared b.masked

/-- **A masked source has the masked statement.** -/
theorem Evaluated.statement_masked (s : Evaluated) :
    s.masked.statement = s.statement.map Statement.masked := by
  cases s with
  | text sql =>
    rw [masked, statement]
    split <;> rfl
  | raw e =>
    rw [masked, statement, statement, Expression.values_masked]
    rfl
  | fresh b => exact b.compile_masked
  | prepared b => exact b.compile_masked

theorem Evaluated.tableStatement_masked (t : Target) (s : Evaluated) :
    s.masked.tableStatement t = (s.tableStatement t).map Statement.masked := by
  cases s with
  | prepared b =>
    rw [masked, tableStatement, Builder.qualifiedFor_masked]
    exact (b.qualifiedFor t).compile_masked
  | text sql => exact (text sql).statement_masked
  | raw e => exact (raw e).statement_masked
  | fresh b => exact (fresh b).statement_masked

namespace Builder

/-- **A group shows no value of its conditions.** -/
theorem groupEdits_masked (b : Builder) (clause : Clause) (link : Connective) :
    b.masked.groupEdits clause link = (b.groupEdits clause link).map Edit.masked := by
  simp only [groupEdits]
  rw [error_masked, query_masked, Query.part_masked, Part.isEmpty_masked, List.map_append,
    Edit.failure_masked]
  split
  · rfl
  · rw [Part.masked, Fragment.join_masked]
    rfl

theorem conditionEdits_masked (b : Builder) (clause : Clause) (link : Connective) :
    b.masked.conditionEdits clause link = (b.conditionEdits clause link).map Edit.masked := by
  rw [conditionEdits, query_masked, Query.part_masked, Part.isEmpty_masked, conditionEdits]
  split
  · exact b.groupEdits_masked clause link
  · rw [compile_masked]
    exact Edit.map_after fun s => rfl

end Builder

/-! ## The induction -/

mutual

/-- **The edits of a masked call are the masked edits of the call.** -/
theorem Call.edits_masked (t : Target) (c : Call) :
    c.masked.edits t = (c.edits t).map Edit.masked := by
  cases c with
  | push clause fragments values => rfl
  | nest calls clause link =>
    rw [Call.masked, Call.edits, Call.edits, callEdits_masked, ← Builder.masked_ofEdits]
    exact Builder.groupEdits_masked _ clause link
  | tables names => exact (Edit.map_masked_self (fun _ => rfl) names).symm
  | tableRaw e values => exact congrArg ([·]) (Edit.rawEntry_masked e values)
  | tableSource source label =>
    rw [Call.masked, Call.edits, Call.edits, Source.evaluate_masked,
      Evaluated.tableStatement_masked]
    exact Edit.map_after fun s => rfl
  | select columns =>
    rcases columns with - | ⟨c, cs⟩
    · rfl
    · rw [Call.masked, Call.edits]
      exact (Edit.map_masked_self (fun _ => rfl) (c :: cs)).symm
  | selectExpr e label =>
    exact congrArg ([·]) (Edit.rawEntry_masked { e with text := t.dialect.aliased e.text label } [])
  | selectRaw e => exact congrArg ([·]) (Edit.rawEntry_masked e [])
  | selectSource source label =>
    rw [Call.masked, Call.edits, Call.edits, Source.evaluate_masked, Evaluated.statement_masked]
    exact Edit.map_after fun s => rfl
  | condition zone link p =>
    rw [Call.masked, Call.edits, Call.edits, Predicate.edits_masked]
  | compareMany zone link comparisons =>
    rw [Call.masked, Call.edits, Call.edits, Comparison.batch_masked]
  | inMany lists =>
    rw [Call.masked, Call.edits, Call.edits, List.map_map, List.map_map]
    exact List.map_congr_left fun l _ => Edit.inCondition_masked false l.2
  | nullMany negated columns =>
    rw [Call.masked, Call.edits]
    exact (Edit.map_masked_self (fun _ => rfl) columns).symm
  | join kind table condition => exact condition.edits_masked kind _ []
  | joinSource kind source label condition =>
    rw [Call.masked, Call.edits, Call.edits, Source.evaluate_masked,
      Evaluated.tableStatement_masked]
    exact Edit.map_after fun s => condition.edits_masked kind _ s.bindings
  | list listing columns direction => exact (Edit.map_masked_self (fun _ => rfl) columns).symm
  | listRaw listing e values => exact congrArg ([·]) (Edit.rawEntry_masked e values)
  | listSource listing source direction =>
    rw [Call.masked, Call.edits, Call.edits, Source.evaluate_masked, Evaluated.statement_masked]
    exact Edit.map_after fun s => rfl
  | limit count => exact congrArg ([·]) (Edit.limit_masked count).symm
  | limitRange offset count => exact congrArg ([·]) (Edit.limitRange_masked offset count).symm
  | limitRaw e => exact congrArg ([·]) (Edit.replaceRaw_masked e)
  | offset count => exact congrArg ([·]) (Edit.offset_masked count).symm
  | offsetRaw e => exact congrArg ([·]) (Edit.replaceRaw_masked e)
  | forPage page size =>
    have hzero : pageOffset 0 0 = 0 := rfl
    rw [Call.masked, Call.edits, Call.edits, Edit.forPage, Edit.forPage, hzero, List.map_cons,
      List.map_singleton, Edit.limit_masked, Edit.offset_masked]
  | union all source =>
    rw [Call.masked, Call.edits, Call.edits, Source.evaluate_masked, Evaluated.statement_masked]
    exact Edit.map_after fun s => rfl
  | rowLock lock =>
    rw [Call.masked, Call.edits, RowLock.edits]
    split <;> rfl
  | throws _ | debug _ | tableAs _ _ | selectAs _ _ | page _ | perPage _ | lock _ => rfl

theorem Predicate.edits_masked (t : Target) (clause : Clause) (link : Connective) (p : Predicate) :
    p.masked.edits t clause link = (p.edits t clause link).map Edit.masked := by
  cases p with
  | compare c => exact c.edits_masked
  | group calls =>
    rw [Predicate.masked, Predicate.edits, Predicate.edits, callEdits_masked,
      ← Builder.masked_ofEdits]
    exact Builder.conditionEdits_masked _ clause link
  | compareSource column operator source =>
    rw [Predicate.masked, Predicate.edits, Predicate.edits, Source.evaluate_masked,
      Evaluated.statement_masked]
    exact Edit.map_after_self fun op => Edit.map_after fun s => rfl
  | sourceCompare source operator value =>
    rw [Predicate.masked, Predicate.edits, Predicate.edits, Source.evaluate_masked,
      Evaluated.statement_masked, Operator.prepare_masked]
    refine Edit.map_after_self fun op => Edit.map_after fun s => ?_
    rw [List.map_singleton, Edit.condition, Edit.condition, Edit.entry_masked, List.map_append]
    rfl
  | inList negated column values => exact congrArg ([·]) (Edit.inCondition_masked negated values)
  | inSource negated column source =>
    rw [Predicate.masked, Predicate.edits, Predicate.edits, Source.evaluate_masked,
      Evaluated.statement_masked]
    exact Edit.map_after fun s => rfl
  | null negated column => rfl
  | between negated column low high => rfl
  | like negated subject pattern =>
    rw [Predicate.masked, Predicate.edits, Predicate.edits, Operand.resolve_masked]
    refine Edit.map_after fun s => ?_
    rw [List.map_singleton, Edit.condition, Edit.condition, Edit.entry_masked, List.map_append]
    rfl
  | existence negated source =>
    rw [Predicate.masked, Predicate.edits, Predicate.edits, Source.evaluate_masked,
      Evaluated.statement_masked]
    exact Edit.map_after fun s => rfl
  | quantified quantifier column operator source =>
    rw [Predicate.masked, Predicate.edits, Predicate.edits, Source.evaluate_masked,
      Evaluated.statement_masked]
    exact Edit.map_after_self fun op => Edit.map_after fun s => rfl
  | raw e values => exact congrArg ([·]) (Edit.rawCondition_masked e values)

theorem Source.evaluate_masked (t : Target) (s : Source) :
    s.masked.evaluate t = (s.evaluate t).masked := by
  cases s with
  | text sql => rfl
  | raw e => rfl
  | closure calls =>
    rw [Source.masked, Source.evaluate, Source.evaluate, callEdits_masked,
      ← Builder.masked_ofEdits, Evaluated.masked]
  | prepared target calls =>
    rw [Source.masked, Source.evaluate, Source.evaluate, callEdits_masked,
      ← Builder.masked_ofEdits, Evaluated.masked]

theorem Operand.resolve_masked (t : Target) (o : Operand) :
    o.masked.resolve t = (o.resolve t).map Statement.masked := by
  cases o with
  | column name => rfl
  | source source =>
    have hs : (source.masked.evaluate t).statement =
        (source.evaluate t).statement.map Statement.masked := by
      rw [Source.evaluate_masked, Evaluated.statement_masked]
    have hparentheses : ((source.masked.evaluate t).statement.map fun s =>
          (⟨"(" ++ s.sql ++ ")", s.bindings⟩ : Statement)) =
        ((source.evaluate t).statement.map fun s =>
          (⟨"(" ++ s.sql ++ ")", s.bindings⟩ : Statement)).map Statement.masked := by
      rw [hs]
      cases (source.evaluate t).statement <;> rfl
    cases source with
    | raw e => exact hs
    | text sql => exact hparentheses
    | closure calls => exact hparentheses
    | prepared target calls => exact hparentheses

theorem callEdits_masked (t : Target) (calls : List Call) :
    callEdits t (maskCalls calls) = (callEdits t calls).map Edit.masked := by
  cases calls with
  | nil => rfl
  | cons call rest =>
    rw [maskCalls, callEdits, callEdits, Call.edits_masked, callEdits_masked, List.map_append]

end

/-! ## Masked assignments -/

/-- **An assignment with its values masked.** -/
def Assignment.masked : Assignment → Assignment
  | value v => value v.masked
  | raw e => raw e.masked
  | source s => source s.masked

/-- A result of resolving assignments, its values masked. -/
def maskResolved {α : Type} (p : α × List Value) : α × List Value := (p.1, p.2.map Value.masked)

/-- A chain of results after a masked one. -/
theorem map_bind {ε α β γ δ : Type} {r : Except ε α} {f : α → β} {k : β → Except ε δ}
    {k' : α → Except ε γ} {g : γ → δ} (h : ∀ a, k (f a) = (k' a).map g) :
    (r.map f >>= k) = (r >>= k').map g := by
  cases r with
  | error e => rfl
  | ok a => exact h a

/-- The same after a result that holds no value. -/
theorem map_bind_self {ε α γ δ : Type} {r : Except ε α} {k : α → Except ε δ}
    {k' : α → Except ε γ} {g : γ → δ} (h : ∀ a, k a = (k' a).map g) :
    (r >>= k) = (r >>= k').map g := by
  cases r with
  | error e => rfl
  | ok a => exact h a

section Assignments

variable (t : Target)

theorem Assignment.resolve_masked (a : Assignment) :
    a.masked.resolve t = (a.resolve t).map maskResolved := by
  cases a with
  | value v => rfl
  | raw e =>
    rw [masked, resolve, resolve, Expression.values_masked]
    rfl
  | source s =>
    rw [masked, resolve, resolve, Source.evaluate_masked, Evaluated.statement_masked]
    cases (s.evaluate t).statement <;> rfl

/-- **A row shows no value it sets.** -/
theorem resolveRow_masked (es : List (String × Assignment)) :
    resolveRow t (es.map fun e => (e.1, e.2.masked)) = (resolveRow t es).map maskResolved := by
  induction es with
  | nil => rfl
  | cons e es ih =>
    rw [List.map_cons, resolveRow, resolveRow, ih, Assignment.resolve_masked]
    refine map_bind fun p => map_bind fun q => ?_
    simp only [maskResolved, ← List.map_append]
    rfl

theorem alignRow_masked (index : Nat) (columns : List String) (r : Record Assignment) :
    Builder.alignRow t index columns (r.map Assignment.masked) =
      (Builder.alignRow t index columns r).map maskResolved := by
  induction columns generalizing r with
  | nil => rfl
  | cons column columns ih =>
    rw [Builder.alignRow, Builder.alignRow, Record.take?_map]
    cases r.take? column with
    | none => rfl
    | some taken =>
      obtain ⟨a, s⟩ := taken
      simp only [Option.map_some]
      rw [ih, Assignment.resolve_masked]
      refine map_bind fun p => map_bind fun q => ?_
      simp only [maskResolved, ← List.map_append]
      rfl

theorem alignRows_masked (columns : List String) (index : Nat) (rows : List (Record Assignment)) :
    Builder.alignRows t columns index (rows.map (Record.map Assignment.masked)) =
      (Builder.alignRows t columns index rows).map maskResolved := by
  induction rows generalizing index with
  | nil => rfl
  | cons r rows ih =>
    rw [List.map_cons, Builder.alignRows, Builder.alignRows, Record.size_map]
    split
    · rfl
    · rw [ih, alignRow_masked]
      refine map_bind fun p => map_bind fun q => ?_
      simp only [maskResolved, ← List.map_append]
      rfl

end Assignments

/-! ## Masked compilations -/

/-- **A compilation with the values of its arguments masked.** -/
def Compilation.masked : Compilation → Compilation
  | insert rows => insert (rows.map (Record.map Assignment.masked))
  | insertSource columns source => insertSource columns source.masked
  | update values => update (values.map Assignment.masked)
  | c => c

namespace Builder

variable (b : Builder)

theorem bindingsOf_masked (clauses : List Clause) :
    b.masked.bindingsOf clauses = (b.bindingsOf clauses).map Value.masked := by
  rw [bindingsOf, bindingsOf, List.map_flatMap]
  exact List.flatMap_congr fun c _ => congrArg Part.bindings (b.query.part_masked c)

/-- **An INSERT of masked rows is the masked INSERT.** -/
theorem insertStatement_masked (rows : List (Record Assignment)) :
    b.masked.insertStatement (rows.map (Record.map Assignment.masked)) =
      (b.insertStatement rows).map Statement.masked := by
  refine map_bind_self fun _ => ?_
  rcases rows with - | ⟨first, rest⟩
  · simp only [List.map_nil, target_masked, query_masked, Dialect.insert_masked,
      bindingsOf_masked]
    rfl
  · simp only [List.map_cons, Record.isEmpty_map, List.isEmpty_map, target_masked, query_masked,
      Dialect.insert_masked, bindingsOf_masked, Record.columns_map]
    split
    · rfl
    · rw [alignRows_masked]
      refine (congrArg (· >>= _) (resolveRow_masked _ first.entries)).trans ?_
      refine map_bind fun p => map_bind fun q => ?_
      simp only [maskResolved, ← List.map_append]
      rfl

theorem insertSourceStatement_masked (columns : List String) (source : Source) :
    b.masked.insertSourceStatement columns source.masked =
      (b.insertSourceStatement columns source).map Statement.masked := by
  refine map_bind_self fun _ => ?_
  rw [parse, target_masked, Source.evaluate_masked, Evaluated.statement_masked]
  refine map_bind fun s => ?_
  rw [query_masked, Dialect.insertUsing_masked, bindingsOf_masked, Statement.masked,
    ← List.map_append]
  rfl

/-- **An UPDATE by a masked record is the masked UPDATE.** -/
theorem updateStatement_masked (values : Record Assignment) :
    b.masked.updateStatement (values.map Assignment.masked) =
      (b.updateStatement values).map Statement.masked := by
  refine map_bind_self fun _ => ?_
  simp only [Record.isEmpty_map, target_masked, query_masked, Dialect.update_masked,
    bindingsOf_masked]
  split
  · rfl
  · refine (congrArg (· >>= _) (resolveRow_masked _ values.entries)).trans ?_
    refine map_bind fun p => ?_
    simp only [maskResolved, ← List.map_append]
    rfl

theorem deleteStatement_masked :
    b.masked.deleteStatement = b.deleteStatement.map Statement.masked := by
  refine map_bind_self fun _ => ?_
  rw [query_masked, Query.delete_masked, bindingsOf_masked]
  rfl

theorem countStatement_masked :
    b.masked.countStatement = b.countStatement.map Statement.masked := by
  refine map_bind_self fun _ => ?_
  rw [target_masked, query_masked, Dialect.count_masked, bindings, query_masked,
    Query.bindings_masked]
  rfl

theorem existsStatement_masked :
    b.masked.existsStatement = b.existsStatement.map Statement.masked := by
  rw [existsStatement, compile_masked]
  exact map_bind fun s => rfl

/-- **Every compilation of a masked builder is the masked one.** -/
theorem compilation_masked (c : Compilation) :
    b.masked.compilation c.masked = (b.compilation c).map Statement.masked := by
  cases c with
  | select => exact b.compile_masked
  | insert rows => exact b.insertStatement_masked rows
  | insertSource columns source => exact b.insertSourceStatement_masked columns source
  | update values => exact b.updateStatement_masked values
  | delete => exact b.deleteStatement_masked
  | count => exact b.countStatement_masked
  | existence => exact b.existsStatement_masked

/-- **The builder of masked calls is the masked builder.** -/
theorem masked_calls (t : Target) (calls : List Call) :
    ((new t).calls calls).masked = (new t).calls (maskCalls calls) := by
  rw [calls_eq_edits, calls_eq_edits]
  exact (masked_ofEdits t _).trans (congrArg (ofEdits t) (callEdits_masked t calls).symm)

/-! ## Two runs -/

/-- Builders that look the same behind a mask show the same text and bind as many values. -/
theorem sql_eq_of_masked {b b' : Builder} (h : b.masked = b'.masked) :
    b.sql = b'.sql ∧ b.bindings.length = b'.bindings.length := by
  have hquery : b.query.masked = b'.query.masked := congrArg query h
  refine ⟨?_, ?_⟩
  · rw [sql, sql, ← Query.select_masked, hquery, Query.select_masked]
  · have hbindings := congrArg Query.bindings hquery
    rw [Query.bindings_masked, Query.bindings_masked] at hbindings
    simpa [bindings] using congrArg List.length hbindings

/-- Statements that look the same behind a mask have the same text and bind as many values. -/
theorem map_shape_of_masked {r r' : Except BuildError Statement}
    (h : r.map Statement.masked = r'.map Statement.masked) :
    (r.map fun s => (s.sql, s.bindings.length)) = r'.map fun s => (s.sql, s.bindings.length) := by
  have hshape (r : Except BuildError Statement) :
      ((r.map Statement.masked).map fun s => (s.sql, s.bindings.length)) =
        r.map fun s => (s.sql, s.bindings.length) := by
    cases r with
    | error e => rfl
    | ok s => exact congrArg (fun n => Except.ok (s.sql, n)) (List.length_map _)
  rw [← hshape r, h, hshape r']

/-- **Values never reach the text.**  Two runs of calls that look the same behind a mask differ in
their values alone, of which both or neither is NULL.  Their SELECTs have one text, and whatever is
then made of the builders, with arguments that differ in the same way, has one text or one error; and
the two bind as many values. -/
theorem noninterference {t : Target} {calls calls' : List Call} {c c' : Compilation}
    (h : maskCalls calls = maskCalls calls') (hc : c.masked = c'.masked) :
    let b := (new t).calls calls
    let b' := (new t).calls calls'
    (b.sql = b'.sql ∧ b.bindings.length = b'.bindings.length) ∧
      (b.compilation c).map (fun s => (s.sql, s.bindings.length)) =
        (b'.compilation c').map fun s => (s.sql, s.bindings.length) := by
  intro b b'
  have hmasked : b.masked = b'.masked := by rw [masked_calls, h, ← masked_calls]
  refine ⟨sql_eq_of_masked hmasked, map_shape_of_masked ?_⟩
  rw [← compilation_masked, ← compilation_masked, hmasked, hc]

/-- The same UPDATE with harmless values and with text that would be SQL. -/
theorem noninterference_update :
    let calls (v w : Value) (n : UInt64) : List Call :=
      [.tables ["a"], .condition .wheres .and (.compare ⟨"x", none, v⟩),
        .condition .wheres .or (.group [.condition .wheres .and (.inList false "y" [w, .null])]),
        .limit n]
    let values (v : Value) : Compilation :=
      .update (.ofList [("p", .value v), ("q", .value .null), ("r", .raw ⟨"r + ?", some v⟩)])
    let run (v w u : Value) (n : UInt64) :=
      (((new ⟨.mysql, none⟩).calls (calls v w n)).compilation (values u)).map
        fun s => (s.sql, s.bindings.length)
    (maskCalls (calls (.int 1) (.int 2) 3) =
        maskCalls (calls (.text "1 OR 1 = 1") (.text "?); DROP TABLE a") 18446744073709551615) ∧
      (values (.int 4)).masked = (values (.text "0, admin = 1")).masked) ∧
      run (.int 1) (.int 2) (.int 4) 3 =
        run (.text "1 OR 1 = 1") (.text "?); DROP TABLE a") (.text "0, admin = 1")
          18446744073709551615 := by
  intro calls values run
  have h : maskCalls (calls (.int 1) (.int 2) 3) =
      maskCalls (calls (.text "1 OR 1 = 1") (.text "?); DROP TABLE a")
        18446744073709551615) := rfl
  have hc : (values (.int 4)).masked = (values (.text "0, admin = 1")).masked := rfl
  exact ⟨⟨h, hc⟩, (noninterference h hc).2⟩

end Builder

end FluentSql
