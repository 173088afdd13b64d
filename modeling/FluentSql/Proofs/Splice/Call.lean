import FluentSql.Builder.Fluent
import FluentSql.Proofs.Splice.Keep
import FluentSql.Proofs.Splice.Operator

/-!
# Proofs/Splice/Call — only known operators are spliced into a statement

    o  ──Takes──▸  whereCmp "a" o 1  ──Nests──▸  whereGroup […]  ──Nests──▸  …  ──compile──▸  u ⟨ o ⟩ v

A call takes an operator itself, or it is made of calls one of which does (`Call.Splices`).  At any
depth its edits have one gap at most (`Call.Splices.edits_gapped`), and it fails when the operator is
not accepted (`Call.Splices.settles`).  So of all that a caller gives as an operator, a statement holds
the text without its blanks, at one place, and this text is known (`Builder.operators_spliced`).
-/

namespace FluentSql

variable {s : OperatorSlot}

/-! ## Edits of the calls that take an operator -/

theorem Spliced.self {ι : Type} {w : ι → String} : Spliced w w :=
  ⟨"", "", fun i => by rw [String.empty_append, String.append_empty]⟩

/-- **A comparison has the gap of its operator**, or of the test in its place. -/
theorem Comparison.edits_gap {clause : Clause} (hc : clause.Lasting) (hfroms : clause ≠ .froms)
    (t : Target) (link : Connective) (column : String) {value : Value} (hs : s = .ofValue value) :
    EditsGap s.text clause fun o => Comparison.edits t clause link ⟨column, some o.1, value⟩ := by
  by_cases hnull : value.isNull = true
  · rw [OperatorSlot.ofValue, if_pos hnull] at hs
    subst hs
    have hedits (o : OperatorSlot.test.Accepted) :
        Comparison.edits t clause link ⟨column, some o.1, value⟩ =
          [.condition clause link (t.dialect.quoteColumn column ++ " " ++
            OperatorSlot.test.text o) []] := by
      obtain rfl : value = .null := Value.isNull_iff.mp hnull
      have hsettle : Operator.prepare (some o.1) .null = .ok (Text.trim o.1) := o.2
      rw [Comparison.edits, hsettle]
      rfl
    simp only [hedits]
    exact .condition hc hfroms link (Spliced.self.behind _) []
  · rw [OperatorSlot.ofValue, if_neg hnull] at hs
    subst hs
    have hedits (o : (OperatorSlot.beside value).Accepted) :
        Comparison.edits t clause link ⟨column, some o.1, value⟩ =
          [.condition clause link (t.dialect.quoteColumn column ++ " " ++
            (OperatorSlot.beside value).text o ++ " ?") [value]] := by
      have hsettle : Operator.prepare (some o.1) value = .ok (Text.trim o.1) := o.2
      rw [Comparison.edits, hsettle]
      exact if_neg hnull
    simp only [hedits]
    exact .condition hc hfroms link ((Spliced.self.behind _).before " ?") [value]

/-- In a batch it has the same gap, between those before and those after. -/
theorem Comparison.batch_gap {clause : Clause} (hc : clause.Lasting) (hfroms : clause ≠ .froms)
    (t : Target) (link : Connective) (before : List Comparison) (column : String) (value : Value)
    (after : List Comparison) (hs : s = .ofValue value) :
    EditsGap s.text clause fun o =>
      Comparison.batch t clause link (before ++ ⟨column, some o.1, value⟩ :: after) := by
  have hkeeps : Keeps clause (after.flatMap (Comparison.edits t clause link)) :=
    .flatMap (fun c => c.keeps t clause link) after
  have hgap := (Comparison.edits_gap hc hfroms t link column hs).around
    (before.flatMap (Comparison.edits t clause link)) _ hkeeps
  simpa only [Comparison.batch_eq, List.flatMap_append, List.flatMap_cons, List.append_assoc]
    using hgap

theorem JoinStep.Takes.edits_gap {step : String → JoinStep} (h : JoinStep.Takes s step)
    (t : Target) : EditsGap s.text .joins fun o => (step o.1).edits t := by
  cases h with
  | on link first second =>
    have hedits (o : OperatorSlot.alone.Accepted) : (JoinStep.on link first o.1 second).edits t =
        [.condition .joins link (t.dialect.quoteColumn first ++ " " ++ OperatorSlot.alone.text o ++
          " " ++ t.dialect.quoteColumn second) []] := by
      have hsettle : Operator.check o.1 = .ok (Text.trim o.1) := o.2
      rw [JoinStep.edits, hsettle]
      rfl
    simp only [hedits]
    exact .condition (by decide) (by decide) link (((Spliced.self.behind _).before " ").before _) []
  | compare link column value =>
    exact Comparison.edits_gap (by decide) (by decide) t link column rfl

/-- **What ties a table to the rest has the gap of its operator.** -/
theorem JoinCondition.Takes.edits_gap {j : String → JoinCondition} (h : JoinCondition.Takes s j)
    (t : Target) (kind : JoinKind) (table : String) (values : List Value) :
    EditsGap s.text .joins fun o => (j o.1).edits t kind table values := by
  cases h with
  | columns first second =>
    have hedits (o : OperatorSlot.alone.Accepted) :
        (JoinCondition.columns first o.1 second).edits t kind table values =
          [.join kind table (" ON " ++ first ++ " " ++ OperatorSlot.alone.text o ++ " " ++ second)
            values] := by
      have hsettle : Operator.check o.1 = .ok (Text.trim o.1) := o.2
      rw [JoinCondition.edits, hsettle]
      rfl
    simp only [hedits]
    exact .join kind ((((Spliced.self.behind _).before " ").before second).behind table) values
  | value column v =>
    have hedits (o : (OperatorSlot.beside v).Accepted) :
        (JoinCondition.value column o.1 v).edits t kind table values =
          [.join kind table (" WHERE " ++ t.dialect.quoteColumn column ++ " " ++
            (OperatorSlot.beside v).text o ++ " ?") (values ++ [v])] := by
      have hsettle : Operator.prepare (some o.1) v = .ok (Text.trim o.1) := o.2
      rw [JoinCondition.edits, hsettle]
      rfl
    simp only [hedits]
    exact .join kind (((Spliced.self.behind _).before " ?").behind table) (values ++ [v])
  | steps before after hstep =>
    rename_i step
    have hsteps : EditsGap s.text .joins fun o : s.Accepted =>
        (before ++ step o.1 :: after).flatMap (JoinStep.edits t) := by
      have hflat := (hstep.edits_gap t).around (before.flatMap (JoinStep.edits t))
        (after.flatMap (JoinStep.edits t)) (.flatMap (JoinStep.keeps t) after)
      simpa only [List.flatMap_append, List.flatMap_cons, List.append_assoc] using hflat
    obtain ⟨error, herror⟩ := (hsteps.error t).exists
    obtain ⟨g, bindings, hg, hpart⟩ := hsteps.conditions s.visible t
    have hedits (o : s.Accepted) :
        (JoinCondition.steps (before ++ step o.1 :: after)).edits t kind table values =
          Edit.failure error ++ [.join kind table (" ON " ++ g o) (values ++ bindings)] ++ [] := by
      obtain ⟨fs, hfs, hempty, htext⟩ := hpart o
      simp only [JoinCondition.edits]
      rw [herror, hfs, Part.isEmpty, hempty, htext, List.append_nil]
      rfl
    simp only [hedits]
    exact (EditsGap.join kind ((hg.behind " ON ").behind table) _).around _ [] .nil

/-- **A predicate has the gap of its operator**, unless a source beside it fails. -/
theorem Predicate.Takes.edits_gap {p : String → Predicate} (h : Predicate.Takes s p) (t : Target)
    (zone : Zone) (link : Connective) :
    EditsGap s.text zone.clause (fun o => (p o.1).edits t zone.clause link) ∨
      ∃ e, ∀ o : s.Accepted, (p o.1).edits t zone.clause link = [.fail e] := by
  have hc : zone.clause.Lasting := by cases zone <;> decide
  have hfroms : zone.clause ≠ .froms := by cases zone <;> nofun
  cases h with
  | compare column value =>
    simp only [Predicate.edits]
    exact .inl (Comparison.edits_gap hc hfroms t link column rfl)
  | compareSource column source =>
    have hsettle (o : OperatorSlot.alone.Accepted) : Operator.check o.1 = .ok (Text.trim o.1) := o.2
    simp only [Predicate.edits, hsettle]
    cases (source.evaluate t).statement with
    | error e => exact .inr ⟨e, fun _ => rfl⟩
    | ok st =>
      exact .inl (.condition hc hfroms link ((((Spliced.self.behind _).before " (").before
        st.sql).before ")") st.bindings)
  | sourceCompare source value =>
    have hsettle (o : (OperatorSlot.beside value).Accepted) :
        Operator.prepare (some o.1) value = .ok (Text.trim o.1) := o.2
    simp only [Predicate.edits, hsettle]
    cases (source.evaluate t).statement with
    | error e => exact .inr ⟨e, fun _ => rfl⟩
    | ok st =>
      exact .inl (.condition hc hfroms link ((Spliced.self.behind _).before " ?")
        (st.bindings ++ [value]))
  | quantified quantifier column source =>
    have hsettle (o : OperatorSlot.alone.Accepted) : Operator.check o.1 = .ok (Text.trim o.1) := o.2
    simp only [Predicate.edits, hsettle]
    cases (source.evaluate t).statement with
    | error e => exact .inr ⟨e, fun _ => rfl⟩
    | ok st =>
      exact .inl (.condition hc hfroms link ((((((Spliced.self.behind _).before " ").before
        quantifier.keyword).before " (").before st.sql).before ")") st.bindings)

/-- **A call has the gap of its operator in a clause that no later call replaces**, unless a source
beside it fails. -/
theorem Call.Takes.edits_gap {c : String → Call} (h : Call.Takes s c) (t : Target) :
    (∃ d, EditsGap s.text d fun o => (c o.1).edits t) ∨
      ∃ e, ∀ o : s.Accepted, (c o.1).edits t = [.fail e] := by
  cases h with
  | condition zone link hp =>
    simp only [Call.edits]
    exact (hp.edits_gap t zone link).imp_left fun hgap => ⟨zone.clause, hgap⟩
  | compareMany zone link before column value after =>
    simp only [Call.edits]
    exact .inl ⟨zone.clause, Comparison.batch_gap (by cases zone <;> decide)
      (by cases zone <;> decide) t link before column value after rfl⟩
  | join kind table hj =>
    simp only [Call.edits]
    exact .inl ⟨.joins, hj.edits_gap t kind _ []⟩
  | joinSource kind source label hj =>
    simp only [Call.edits]
    cases (source.evaluate t).tableStatement t with
    | error e => exact .inr ⟨e, fun _ => rfl⟩
    | ok st => exact .inl ⟨.joins, hj.edits_gap t kind _ st.bindings⟩

/-! ## Calls inside calls -/

/-- **Sources made of calls**, for a target: the calls run for the same target or for another one. -/
inductive Source.Nests (t : Target) : Target → (List Call → Source) → Prop
  | closure : Nests t t .closure
  | prepared (target : Option Target) : Nests t (target.getD t) (.prepared target)

/-- **Predicates made of calls.** -/
inductive Predicate.Nests (t : Target) : Target → (List Call → Predicate) → Prop
  | group : Nests t t .group
  | compareSource (column operator : String) {t' : Target} {g : List Call → Source}
    (h : Source.Nests t t' g) : Nests t t' fun calls => .compareSource column operator (g calls)
  | sourceCompare (operator : String) (value : Value) {t' : Target} {g : List Call → Source}
    (h : Source.Nests t t' g) : Nests t t' fun calls => .sourceCompare (g calls) operator value
  | inSource (negated : Bool) (column : String) {t' : Target} {g : List Call → Source}
    (h : Source.Nests t t' g) : Nests t t' fun calls => .inSource negated column (g calls)
  | like (negated : Bool) (pattern : Value) {t' : Target} {g : List Call → Source}
    (h : Source.Nests t t' g) : Nests t t' fun calls => .like negated (.source (g calls)) pattern
  | existence (negated : Bool) {t' : Target} {g : List Call → Source} (h : Source.Nests t t' g) :
    Nests t t' fun calls => .existence negated (g calls)
  | quantified (quantifier : Quantifier) (column operator : String) {t' : Target}
    {g : List Call → Source} (h : Source.Nests t t' g) :
    Nests t t' fun calls => .quantified quantifier column operator (g calls)

/-- **Calls made of calls.**  A table has the quote of the dialect in front when it comes from another
database, so the quote shall not be taken for the parenthesis of a sub-query. -/
inductive Call.Nests (t : Target) : Target → (List Call → Call) → Prop
  | nest (clause : Clause) (hclause : clause ≠ .froms) (link : Connective) :
    Nests t t fun calls => .nest calls clause link
  | condition (zone : Zone) (link : Connective) {t' : Target} {p : List Call → Predicate}
    (h : Predicate.Nests t t' p) : Nests t t' fun calls => .condition zone link (p calls)
  | tableSource (label : String) (hmark : IsMark t.dialect.quote) (hparen : t.dialect.quote ≠ '(')
    {t' : Target} {g : List Call → Source} (h : Source.Nests t t' g) :
    Nests t t' fun calls => .tableSource (g calls) label
  | selectSource (label : Option String) {t' : Target} {g : List Call → Source}
    (h : Source.Nests t t' g) : Nests t t' fun calls => .selectSource (g calls) label
  | joinSource (kind : JoinKind) (label : String) (condition : JoinCondition)
    (hmark : IsMark t.dialect.quote) (hparen : t.dialect.quote ≠ '(') {t' : Target}
    {g : List Call → Source} (h : Source.Nests t t' g) :
    Nests t t' fun calls => .joinSource kind (g calls) label condition
  | listSource (listing : Listing) (direction : Option Direction) {t' : Target}
    {g : List Call → Source} (h : Source.Nests t t' g) :
    Nests t t' fun calls => .listSource listing (g calls) direction
  | union (all : Bool) {t' : Target} {g : List Call → Source} (h : Source.Nests t t' g) :
    Nests t t' fun calls => .union all (g calls)

/-- **Calls that take an operator at any depth.** -/
inductive Call.Splices : Target → OperatorSlot → (String → Call) → Prop
  | here (t : Target) {s : OperatorSlot} {c : String → Call} (h : Call.Takes s c) : Splices t s c
  | within (before after : List Call) {t t' : Target} {s : OperatorSlot} {c : String → Call}
    {g : List Call → Call} (hg : Call.Nests t t' g) (h : Splices t' s c) :
    Splices t s fun o => g (before ++ c o :: after)

/-! ## Gaps of nested calls -/

theorem callEdits_append_cons (t : Target) (before : List Call) (call : Call) (after : List Call) :
    callEdits t (before ++ call :: after) =
      callEdits t before ++ call.edits t ++ callEdits t after := by
  induction before with
  | nil => rw [List.nil_append, callEdits, callEdits, List.nil_append]
  | cons b before ih =>
    rw [List.cons_append, callEdits, ih, callEdits]
    simp only [List.append_assoc]

section

variable {ι : Type} {w : ι → String} {t t' : Target} {calls : ι → List Call}

variable (hcalls : EditsGapped w fun i => callEdits t' (calls i)) (hw : Visible w)

section

include hcalls hw

theorem Source.Nests.statement_gapped {g : List Call → Source} (h : Source.Nests t t' g) :
    ResultGapped w fun i => ((g (calls i)).evaluate t).statement := by
  cases h with
  | closure =>
    simp only [Source.evaluate, Evaluated.statement]
    exact hcalls.compile hw t
  | prepared target =>
    simp only [Source.evaluate, Evaluated.statement]
    exact hcalls.compile hw _

theorem Source.Nests.tableStatement_gapped {g : List Call → Source} (h : Source.Nests t t' g)
    (hmark : IsMark t.dialect.quote) (hparen : t.dialect.quote ≠ '(') :
    ResultGapped w fun i => ((g (calls i)).evaluate t).tableStatement t := by
  cases h with
  | closure =>
    simp only [Source.evaluate, Evaluated.tableStatement, Evaluated.statement]
    exact hcalls.compile hw t
  | prepared target =>
    simp only [Source.evaluate, Evaluated.tableStatement]
    exact hcalls.table hw _ t hmark hparen

/-- **A predicate made of calls has their gap or does not show it.** -/
theorem Predicate.Nests.edits_gapped {p : List Call → Predicate} (h : Predicate.Nests t t' p)
    (zone : Zone) (link : Connective) :
    EditsGapped w fun i => (p (calls i)).edits t zone.clause link := by
  have hc : zone.clause.Lasting := by cases zone <;> decide
  have hfroms : zone.clause ≠ .froms := by cases zone <;> nofun
  have hcondition {f : ι → String} (hf : Spliced w f) (values : List Value) :
      EditsGapped w fun i => [.condition zone.clause link (f i) values] :=
    .inr ⟨zone.clause, .condition hc hfroms link hf values⟩
  cases h with
  | group =>
    simp only [Predicate.edits]
    exact hcalls.conditionEdits hw t hc hfroms link
  | compareSource column operator hg =>
    simp only [Predicate.edits]
    cases Operator.check operator with
    | error e => exact .inl (.of [Edit.fail e])
    | ok op =>
      exact (hg.statement_gapped hcalls hw).after fun f values hf =>
        hcondition ((hf.spliced.behind _).before ")") values
  | sourceCompare operator value hg =>
    simp only [Predicate.edits]
    cases Operator.prepare (some operator) value with
    | error e => exact .inl (.of [Edit.fail e])
    | ok op =>
      exact (hg.statement_gapped hcalls hw).after fun f values hf =>
        hcondition ((((hf.spliced.behind "(").before ") ").before op).before " ?") (values ++ [value])
  | inSource negated column hg =>
    simp only [Predicate.edits]
    exact (hg.statement_gapped hcalls hw).after fun f values hf =>
      hcondition ((hf.spliced.behind _).before ")") values
  | like negated pattern hg =>
    have hpattern {f : ι → String} (values : List Value) (hf : Anchored w f) :=
      hcondition ((hf.spliced.before (" " ++ negatedKeyword negated "LIKE")).before " ?")
        (values ++ [pattern])
    cases hg with
    | closure =>
      simp only [Predicate.edits, Operand.resolve, Source.evaluate, Evaluated.statement]
      refine (hcalls.compile hw t).parenthesis.after fun f values hf => ?_
      simpa only [String.append_assoc] using hpattern values hf
    | prepared target =>
      simp only [Predicate.edits, Operand.resolve, Source.evaluate, Evaluated.statement]
      refine (hcalls.compile hw _).parenthesis.after fun f values hf => ?_
      simpa only [String.append_assoc] using hpattern values hf
  | existence negated hg =>
    simp only [Predicate.edits]
    exact (hg.statement_gapped hcalls hw).after fun f values hf =>
      hcondition ((hf.spliced.behind _).before ")") values
  | quantified quantifier column operator hg =>
    simp only [Predicate.edits]
    cases Operator.check operator with
    | error e => exact .inl (.of [Edit.fail e])
    | ok op =>
      exact (hg.statement_gapped hcalls hw).after fun f values hf =>
        hcondition ((hf.spliced.behind _).before ")") values

end

/-- **A join with a gap in its table has the gap**, whatever ties the table to the rest, unless that
fails. -/
theorem JoinCondition.edits_gapped {f : ι → String} (hf : Spliced w f) (t : Target) (kind : JoinKind)
    (values : List Value) (condition : JoinCondition) :
    EditsGapped w fun i => condition.edits t kind (f i) values := by
  cases condition with
  | none => exact .inr ⟨.joins, .join kind (hf.before "") values⟩
  | columns first operator second =>
    simp only [JoinCondition.edits]
    cases Operator.check operator with
    | error e => exact .inl (.of [Edit.fail e])
    | ok op => exact .inr ⟨.joins, .join kind (hf.before _) values⟩
  | value column operator v =>
    simp only [JoinCondition.edits]
    cases Operator.prepare (some operator) v with
    | error e => exact .inl (.of [Edit.fail e])
    | ok op => exact .inr ⟨.joins, .join kind (hf.before _) (values ++ [v])⟩
  | steps list =>
    simp only [JoinCondition.edits]
    split
    · exact .inr ⟨.joins, by
        simpa only [List.append_nil] using
          (EditsGap.join kind (hf.before "") values).around (Edit.failure _) [] .nil⟩
    · exact .inr ⟨.joins, by
        simpa only [List.append_nil] using
          (EditsGap.join kind (hf.before _) _).around (Edit.failure _) [] .nil⟩

include hcalls hw

/-- **A call made of calls has their gap or does not show it.** -/
theorem Call.Nests.edits_gapped {g : List Call → Call} (h : Call.Nests t t' g) :
    EditsGapped w fun i => (g (calls i)).edits t := by
  cases h with
  | nest clause hclause link =>
    simp only [Call.edits]
    exact hcalls.group hw t hclause link
  | condition zone link hp =>
    simp only [Call.edits]
    exact hp.edits_gapped hcalls hw zone link
  | tableSource label hmark hparen hg =>
    simp only [Call.edits]
    exact (hg.tableStatement_gapped hcalls hw hmark hparen).after fun f values hf =>
      .inr ⟨.froms, .entry (by decide) (hf.aliased t.dialect label)
        (fun _ i => by simp [Dialect.aliased]) values⟩
  | selectSource label hg =>
    simp only [Call.edits]
    refine (hg.statement_gapped hcalls hw).after fun f values hf => .inr ⟨.columns, ?_⟩
    cases label with
    | none => exact .entry (by decide) (hf.parenthesis.before ")") (by nofun) values
    | some label => exact .entry (by decide) (hf.aliased t.dialect label) (by nofun) values
  | joinSource kind label condition hmark hparen hg =>
    simp only [Call.edits]
    exact (hg.tableStatement_gapped hcalls hw hmark hparen).after fun f values hf =>
      JoinCondition.edits_gapped (hf.aliased t.dialect label).spliced t kind values condition
  | listSource listing direction hg =>
    simp only [Call.edits]
    refine (hg.statement_gapped hcalls hw).after fun f values hf => .inr ⟨listing.clause, ?_⟩
    have hc : listing.clause.Lasting := by cases listing <;> decide
    have hfroms : listing.clause ≠ .froms := by cases listing <;> nofun
    cases direction with
    | none => exact .entry hc (hf.parenthesis.before ")") (fun h => absurd h hfroms) values
    | some direction =>
      exact .entry hc (((hf.parenthesis.before ")").before " ").before direction.keyword)
        (fun h => absurd h hfroms) values
  | union all hg =>
    simp only [Call.edits]
    exact (hg.statement_gapped hcalls hw).after fun f values hf =>
      .inr ⟨.unions, .union all hf.spliced values⟩

end

/-- **At any depth, the edits of a call have the gap of its operator or do not show it.** -/
theorem Call.Splices.edits_gapped {t : Target} {c : String → Call} (h : Call.Splices t s c) :
    EditsGapped s.text fun o => (c o.1).edits t := by
  induction h with
  | here t h =>
    rcases h.edits_gap t with ⟨d, hgap⟩ | ⟨e, hfail⟩
    · exact .inr ⟨d, hgap⟩
    · exact .inl ⟨[.fail e], hfail⟩
  | @within before after t t' s c g hg _ ih =>
    refine hg.edits_gapped ?_ s.visible
    simp only [callEdits_append_cons]
    rcases ih with ih | ⟨d, hgap⟩
    · exact .inl (ih.map fun es => callEdits t' before ++ es ++ callEdits t' after)
    · exact .inr ⟨d, hgap.around _ _ (callsKeep hgap.1 t' after)⟩

/-! ## Errors -/

section

variable {t : Target} {o : String}

theorem JoinStep.Takes.settles {step : String → JoinStep} (h : JoinStep.Takes s step)
    (hnone : (step o).error? = none) : failure? (s.settle o) = none := by
  cases h with
  | on link first second => exact hnone
  | compare link column value =>
    rw [OperatorSlot.settle_ofValue]
    exact hnone

theorem JoinCondition.Takes.settles {j : String → JoinCondition} (h : JoinCondition.Takes s j)
    (hnone : (j o).error? = Option.none) : failure? (s.settle o) = Option.none := by
  cases h with
  | columns first second => exact hnone
  | value column v => exact hnone
  | steps before after hstep =>
    exact hstep.settles (List.findSome?_eq_none_iff.mp hnone _ (by simp))

theorem Predicate.Takes.settles {p : String → Predicate} (h : Predicate.Takes s p)
    (hnone : (p o).error? t = none) : failure? (s.settle o) = none := by
  cases h with
  | compare column value =>
    rw [Predicate.error?] at hnone
    rw [OperatorSlot.settle_ofValue]
    exact hnone
  | compareSource column source | sourceCompare source value | quantified quantifier column source =>
    rw [Predicate.error?, Option.or_eq_none_iff] at hnone
    exact hnone.1

/-- **A call that takes an operator fails if the operator does.** -/
theorem Call.Takes.settles {c : String → Call} (h : Call.Takes s c) (hnone : (c o).error? t = none) :
    failure? (s.settle o) = none := by
  cases h with
  | condition zone link hp =>
    rw [Call.error?] at hnone
    exact hp.settles hnone
  | compareMany zone link before column value after =>
    rw [Call.error?] at hnone
    rw [OperatorSlot.settle_ofValue]
    exact List.findSome?_eq_none_iff.mp hnone ⟨column, some o, value⟩ (by simp)
  | join kind table hj =>
    rw [Call.error?] at hnone
    exact hj.settles hnone
  | joinSource kind source label hj =>
    rw [Call.error?, Option.or_eq_none_iff] at hnone
    exact hj.settles hnone.2

variable {t' : Target} {calls : List Call}

theorem Source.Nests.inner {g : List Call → Source} (h : Source.Nests t t' g)
    (hnone : (g calls).error? t = none) : callsError? t' calls = none := by
  cases h with
  | closure | prepared target =>
    rw [Source.error?] at hnone
    exact hnone

theorem Predicate.Nests.inner {p : List Call → Predicate} (h : Predicate.Nests t t' p)
    (hnone : (p calls).error? t = none) : callsError? t' calls = none := by
  cases h with
  | group =>
    rw [Predicate.error?] at hnone
    exact hnone
  | compareSource column operator hg | sourceCompare operator value hg
  | quantified quantifier column operator hg =>
    rw [Predicate.error?, Option.or_eq_none_iff] at hnone
    exact hg.inner hnone.2
  | inSource negated column hg | existence negated hg =>
    rw [Predicate.error?] at hnone
    exact hg.inner hnone
  | like negated pattern hg =>
    rw [Predicate.error?, Operand.error?] at hnone
    exact hg.inner hnone

/-- **A call made of calls fails if one of them does.** -/
theorem Call.Nests.inner {g : List Call → Call} (h : Call.Nests t t' g)
    (hnone : (g calls).error? t = none) : callsError? t' calls = none := by
  cases h with
  | nest clause hclause link =>
    rw [Call.error?] at hnone
    exact hnone
  | condition zone link hp =>
    rw [Call.error?] at hnone
    exact hp.inner hnone
  | tableSource label hmark hparen hg | selectSource label hg | listSource listing direction hg
  | union all hg =>
    rw [Call.error?] at hnone
    exact hg.inner hnone
  | joinSource kind label condition hmark hparen hg =>
    rw [Call.error?, Option.or_eq_none_iff] at hnone
    exact hg.inner hnone.1

/-- **At any depth, a call fails if its operator does.** -/
theorem Call.Splices.settles {c : String → Call} (h : Call.Splices t s c)
    (hnone : (c o).error? t = none) : failure? (s.settle o) = none := by
  induction h with
  | here t h => exact h.settles hnone
  | within before after hg _ ih =>
    have hcalls := hg.inner hnone
    rw [callsError?_eq, List.findSome?_eq_none_iff] at hcalls
    exact ih (hcalls _ (by simp))

end

/-! ## The statement of a builder -/

/-- An operator that does not fail is accepted. -/
theorem OperatorSlot.settle_of_failure? {o : String} (h : failure? (s.settle o) = none) :
    s.settle o = .ok (Text.trim o) := by
  cases hsettle : s.settle o with
  | error e =>
    rw [hsettle] at h
    cases h
  | ok op => rw [(known_of_settle hsettle).1]

/-- **Only the Kelvin sign is known beyond the case of ASCII**: an operator is known up to the case of
its ASCII letters just when it is known and has no such sign. -/
theorem Operator.Known.ascii_iff {op : String} (h : Known op) :
    (∃ known ∈ operators, op.toList.map Char.toLower = known.toList) ↔ '\u212a' ∉ op.toList := by
  constructor
  · rintro ⟨known, hmem, heq⟩ hkelvin
    have hin : '\u212a'.toLower ∈ op.toList.map Char.toLower := List.mem_map_of_mem hkelvin
    rw [heq] at hin
    exact (by decide : ∀ known ∈ operators, '\u212a'.toLower ∉ known.toList) known hmem hin
  · intro hkelvin
    obtain ⟨known, hmem, heq⟩ := h
    refine ⟨known, hmem, heq ▸ List.map_congr_left fun c hc => ?_⟩
    rw [lowerCase, if_neg (by rintro rfl; exact hkelvin hc)]

/-- **Only known operators are spliced.**  Over all operators for which no error is recorded, the
operator is known, which is to say up to the case of ASCII unless it has a Kelvin sign; a statement is
the same for all of them or differs in what is written for the operator and in nothing else; and the
SELECT does differ in it when the call is not nested. -/
theorem Builder.operators_spliced {t : Target} {s : OperatorSlot} {c : String → Call}
    (h : Call.Splices t s c) (before after : List Call) :
    let b (o : String) := (Builder.new t).calls (before ++ c o :: after)
    (∀ o, (b o).error = none →
      Operator.Known (Text.trim o) ∧
      ((∃ known ∈ Operator.operators, (Text.trim o).toList.map Char.toLower = known.toList) ↔
        '\u212a' ∉ (Text.trim o).toList)) ∧
    (∀ k : Compilation,
      (∃ r, ∀ o, (b o).error = none → ((b o).compilation k).map Statement.sql = r) ∨
      ∃ u v : String, ∀ o, (b o).error = none →
        ((b o).compilation k).map Statement.sql = .ok (u ++ s.written o ++ v)) ∧
    (Call.Takes s c → ∃ u v : String, ∀ o, (b o).error = none → (b o).sql = u ++ s.written o ++ v) := by
  intro b
  have hb (o : String) : b o = Builder.ofEdits t (callEdits t (before ++ c o :: after)) :=
    Builder.calls_eq_edits _ _
  have hcall (o : String) (ho : (b o).error = none) : (c o).error? t = none := by
    have herror : none.or ((before ++ c o :: after).findSome? (Call.error? t)) = none :=
      (Builder.error_calls (Builder.new t) (before ++ c o :: after)).symm.trans ho
    rw [Option.none_or, List.findSome?_eq_none_iff] at herror
    exact herror (c o) (by simp)
  have hsettle (o : String) (ho : (b o).error = none) : s.settle o = .ok (Text.trim o) :=
    OperatorSlot.settle_of_failure? (h.settles (hcall o ho))
  have haround {d : Clause} (hgap : EditsGap s.text d fun o => (c o.1).edits t) :
      EditsGap s.text d fun o => callEdits t (before ++ c o.1 :: after) := by
    simp only [callEdits_append_cons]
    exact hgap.around _ _ (callsKeep hgap.1 t after)
  refine ⟨fun o ho => ?_, fun k => ?_, fun htakes => ?_⟩
  · have hknown := (OperatorSlot.known_of_settle (hsettle o ho)).2
    exact ⟨hknown, hknown.ascii_iff⟩
  · rcases h.edits_gapped with ⟨es, hes⟩ | ⟨d, hgap⟩
    · refine .inl ⟨((Builder.ofEdits t (callEdits t before ++ es ++ callEdits t after)).compilation
        k).map Statement.sql, fun o ho => ?_⟩
      rw [hb, callEdits_append_cons, ← hes ⟨o, hsettle o ho⟩]
    · obtain ⟨r, hr⟩ := Builder.formed t k
      have htemplate (o : String) (ho : (b o).error = none) :
          ((b o).compilation k).map Statement.sql = r.map (Template.write (b o).query) :=
        hr (b o) ho (by rw [hb, Builder.target_ofEdits])
      cases r with
      | error e => exact .inl ⟨.error e, fun o ho => htemplate o ho⟩
      | ok form =>
        rcases ((haround hgap).query t).template s.visible form with ⟨sql, hsql⟩ | ⟨u, v, hsql⟩
        · refine .inl ⟨.ok sql, fun o ho => (htemplate o ho).trans (congrArg Except.ok ?_)⟩
          rw [hb]
          exact hsql ⟨o, hsettle o ho⟩
        · refine .inr ⟨u, v, fun o ho => (htemplate o ho).trans (congrArg Except.ok ?_)⟩
          rw [hb]
          exact hsql ⟨o, hsettle o ho⟩
  · rcases htakes.edits_gap t with ⟨d, hgap⟩ | ⟨e, hfail⟩
    · obtain ⟨u, v, hsql⟩ := (((haround hgap).query t).select s.visible).spliced
      refine ⟨u, v, fun o ho => ?_⟩
      rw [hb]
      exact hsql ⟨o, hsettle o ho⟩
    · refine ⟨"", "", fun o ho => ?_⟩
      have herror := (c o).firstError_edits t
      rw [hfail ⟨o, hsettle o ho⟩, hcall o ho] at herror
      cases herror

/-- An operator in a group in a sub-query is written in one place, with the case it was given in. -/
theorem Builder.operators_spliced_nested :
    let call (o : String) : Call := .condition .wheres .or (.existence false (.closure
      [.table "u", .whereGroup [.condition .wheres .or (.compare ⟨"a", some o, .int 1⟩)]]))
    let b (o : String) := (Builder.new ⟨.mysql, none⟩).calls ([.table "t"] ++ call o :: [])
    (b "\tnot LIKE ").error = none ∧ Operator.Known (Text.trim "\tnot LIKE ") ∧
      ∃ u v, (b "\tnot LIKE ").compile.map Statement.sql = .ok (u ++ "not LIKE" ++ v) ∧
        (b "=").compile.map Statement.sql = .ok (u ++ "=" ++ v) := by
  intro call b
  have hcompare : Call.Takes (.ofValue (.int 1)) fun o =>
      .condition .wheres .or (.compare ⟨"a", some o, .int 1⟩) :=
    .condition .wheres .or (.compare "a" (.int 1))
  have hgroup := Call.Splices.within [] [] (.condition .wheres .and .group)
    (.here ⟨.mysql, none⟩ hcompare)
  have hcall : Call.Splices ⟨.mysql, none⟩ (.ofValue (.int 1)) call :=
    .within [.table "u"] [] (.condition .wheres .or (.existence false .closure)) hgroup
  obtain ⟨hknown, hspliced, -⟩ := Builder.operators_spliced hcall [.table "t"] []
  have hlike : (b "\tnot LIKE ").error = none := by decide +kernel
  have hequal : (b "=").error = none := by decide +kernel
  refine ⟨hlike, (hknown _ hlike).1, ?_⟩
  rcases hspliced .select with ⟨r, hr⟩ | ⟨u, v, huv⟩
  · have hsame := (hr _ hlike).trans (hr _ hequal).symm
    exact absurd hsame (by decide +kernel)
  · have hwritten : (OperatorSlot.ofValue (.int 1)).written "\tnot LIKE " = "not LIKE" := by decide
    have hwritten' : (OperatorSlot.ofValue (.int 1)).written "=" = "=" := by decide
    have hleft := huv _ hlike
    have hright := huv _ hequal
    rw [hwritten] at hleft
    rw [hwritten'] at hright
    exact ⟨u, v, hleft, hright⟩

/-- The Kelvin sign passes for a `k`: an operator that no known one equals up to the case of ASCII is
accepted and written as it is. -/
theorem Builder.operator_kelvin :
    let b := (Builder.new ⟨.mysql, none⟩).calls [.table "t", .whereCmp "a" "li\u212ae" (.int 1)]
    b.compile = .ok ⟨"SELECT * FROM `t` WHERE `a` li\u212ae ?", [.int 1]⟩ ∧
      ∀ known ∈ Operator.operators,
        "li\u212ae".toList.map Char.toLower ≠ known.toList.map Char.toLower := by
  decide +kernel

end FluentSql
