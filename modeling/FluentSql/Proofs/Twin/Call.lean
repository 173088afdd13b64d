import FluentSql.Proofs.Lexicon
import FluentSql.Proofs.Twin.Query

/-!
# Proofs/Twin/Call — a call makes twins in the two dialects

`Call.inDialect` moves every builder prepared inside a call to one dialect.  When no name and no
literal text in the call has a quote, its edits for MySQL and for SQLite are twins
(`Call.edits_twin`): the induction goes through the nested calls together with their sources, whose
statements are twins or fail with one error.
-/

namespace FluentSql

/-! ## Calls in a dialect -/

mutual

/-- **A call with its prepared builders in a dialect**, each for the database it was prepared for. -/
def Call.inDialect (d : Dialect) : Call → Call
  | .nest calls clause link => .nest (callsInDialect d calls) clause link
  | .tableSource source label => .tableSource (source.inDialect d) label
  | .selectSource source label => .selectSource (source.inDialect d) label
  | .condition zone link p => .condition zone link (p.inDialect d)
  | .joinSource kind source label condition =>
    .joinSource kind (source.inDialect d) label condition
  | .listSource listing source direction => .listSource listing (source.inDialect d) direction
  | .union all source => .union all (source.inDialect d)
  | call => call

/-- A condition with its prepared builders in a dialect. -/
def Predicate.inDialect (d : Dialect) : Predicate → Predicate
  | .group calls => .group (callsInDialect d calls)
  | .compareSource column operator source => .compareSource column operator (source.inDialect d)
  | .sourceCompare source operator value => .sourceCompare (source.inDialect d) operator value
  | .inSource negated column source => .inSource negated column (source.inDialect d)
  | .like negated subject pattern => .like negated (subject.inDialect d) pattern
  | .existence negated source => .existence negated (source.inDialect d)
  | .quantified quantifier column operator source =>
    .quantified quantifier column operator (source.inDialect d)
  | p => p

/-- A source in a dialect. -/
def Source.inDialect (d : Dialect) : Source → Source
  | .closure calls => .closure (callsInDialect d calls)
  | .prepared target calls =>
    .prepared (target.map fun t => { t with dialect := d }) (callsInDialect d calls)
  | source => source

/-- The left side of a pattern condition in a dialect. -/
def Operand.inDialect (d : Dialect) : Operand → Operand
  | .source source => .source (source.inDialect d)
  | operand => operand

/-- Calls with their prepared builders in a dialect. -/
def callsInDialect (d : Dialect) : List Call → List Call
  | [] => []
  | call :: rest => call.inDialect d :: callsInDialect d rest

end

/-- **Words without quotes.**  The two dialects have different row locks, so none may be asked for by
its kind. -/
def quoteless : Lexicon where
  name := Quoteless
  label := Quoteless
  literal := Quoteless
  statement := Quoteless
  lock _ := False
  target t := ∀ database ∈ t.database, Quoteless database

/-- An accepted operator has no quote. -/
theorem Operator.Known.quoteless {op : String} (h : Known op) : Quoteless op :=
  ⟨h.not_mem (by decide) (by decide), h.not_mem (by decide) (by decide)⟩

/-- Placeholders have no quote. -/
theorem quoteless_placeholders (values : List Value) : Quoteless (placeholders values) := by
  have hjoin : ∀ vs : List Value, ∀ c ∈ (placeholders vs).toList, c ∈ "?, ".toList := by
    intro vs
    induction vs with
    | nil => exact fun _ hc => absurd hc List.not_mem_nil
    | cons v vs ih =>
      cases vs with
      | nil => exact fun c (hc : c ∈ "?".toList) => List.mem_append_left ", ".toList hc
      | cons w ws =>
        intro c hc
        have hsplit : placeholders (v :: w :: ws) = "?" ++ ", " ++ placeholders (w :: ws) := rfl
        rw [hsplit, String.toList_append, String.toList_append, List.mem_append] at hc
        exact hc.elim id (ih c)
  exact ⟨fun hc => absurd (hjoin values _ hc) (by decide),
    fun hc => absurd (hjoin values _ hc) (by decide)⟩

/-! ## Entries -/

namespace TwinEdit

variable {s s' : String} {clause : Clause} {link : Connective} {values : List Value}

theorem entry (h : Twin s s') : TwinEdit (.entry clause s values) (.entry clause s' values) :=
  .append clause (.cons (.text h) .nil) values

/-- Literal texts that are twins, with the same value. -/
theorem rawEntry (h : Twin s s') (bind : Option Value) :
    TwinEdit (.rawEntry clause ⟨s, bind⟩ values) (.rawEntry clause ⟨s', bind⟩ values) :=
  .append clause (.cons (.raw none h) .nil) _

theorem condition (h : Twin s s') :
    TwinEdit (.condition clause link s values) (.condition clause link s' values) :=
  entry (h.behind (by cases link <;> decide))

theorem rawCondition {e : Expression} (h : Quoteless e.text) :
    TwinEdit (.rawCondition clause link e values) (.rawCondition clause link e values) :=
  rawEntry ((Twin.plain h).behind (by cases link <;> decide)) e.bind

/-- A number of rows in place of a clause. -/
theorem replaced {f : Fragment} (h : Quoteless f.sql) :
    TwinEdit (.replace clause f values) (.replace clause f values) :=
  .replace clause (.plain h) values

theorem join {kind : JoinKind} {table table' : String} (htable : Twin table table')
    (h : Twin s s') : TwinEdit (.join kind table s values) (.join kind table' s' values) :=
  entry ((htable.behind (by cases kind <;> decide)).append h)

end TwinEdit

/-- A quoted column and an operator. -/
theorem Twin.compared {column op : String} (h : Quoteless column) (hop : Operator.Known op) :
    Twin (Dialect.mysql.quoteColumn column ++ " " ++ op)
      (Dialect.sqlite.quoteColumn column ++ " " ++ op) :=
  ((Twin.quoteColumn h).before (by decide)).before hop.quoteless

/-- A statement in parentheses. -/
theorem Twin.parenthesized {s s' : String} (h : Twin s s') :
    Twin ("(" ++ s ++ ")") ("(" ++ s' ++ ")") :=
  (h.behind (by decide)).before (by decide)

/-- A statement in parentheses behind twins. -/
theorem Twin.enclosing {s s' u u' : String} (hu : Twin u u') (h : Twin s s') :
    Twin (u ++ " (" ++ s ++ ")") (u' ++ " (" ++ s' ++ ")") :=
  ((hu.before (by decide)).append h).before (by decide)

theorem Twin.directed {s s' : String} (h : Twin s s') (direction : Option Direction) :
    Twin (directed s direction) (FluentSql.directed s' direction) := by
  cases direction with
  | none => exact h
  | some d => exact (h.before (by decide)).before (by cases d <;> decide)

/-! ## Conditions without sub-queries -/

section Parts

variable {database : Option String} {clause : Clause} {link : Connective} {column : String}

theorem TwinEdit.nullCondition (h : Quoteless column) (negated : Bool) :
    TwinEdit (.nullCondition ⟨.mysql, database⟩ clause link negated column)
      (.nullCondition ⟨.sqlite, database⟩ clause link negated column) :=
  condition (((Twin.quoteColumn h).before (by decide)).before (by cases negated <;> decide))

theorem TwinEdit.inCondition (h : Quoteless column) (negated : Bool) (values : List Value) :
    TwinEdit (.inCondition ⟨.mysql, database⟩ clause link negated column values)
      (.inCondition ⟨.sqlite, database⟩ clause link negated column values) := by
  rw [Edit.inCondition, Edit.inCondition]
  split
  · exact condition (.plain (by cases negated <;> decide))
  · have hcolumn := ((Twin.quoteColumn h).before (u := " ") (by decide)).before
      (u := negatedKeyword negated "IN") (by cases negated <;> decide)
    exact condition (hcolumn.enclosing (.plain (quoteless_placeholders values)))

theorem TwinEdit.betweenCondition (h : Quoteless column) (negated : Bool) (low high : Value) :
    TwinEdit (.betweenCondition ⟨.mysql, database⟩ clause link negated column low high)
      (.betweenCondition ⟨.sqlite, database⟩ clause link negated column low high) :=
  condition ((((Twin.quoteColumn h).before (by decide)).before
    (by cases negated <;> decide)).before (by decide))

theorem Comparison.edits_twin {c : Comparison} (h : Quoteless c.column) :
    TwinEdits (c.edits ⟨.mysql, database⟩ clause link) (c.edits ⟨.sqlite, database⟩ clause link) := by
  refine TwinEdits.after_self fun op hop => ?_
  split
  · exact .cons (.nullCondition h _) .nil
  · exact .cons (.condition ((Twin.compared h (Operator.known_of_prepare hop)).before (by decide)))
      .nil

theorem Comparison.batch_twin {cs : List Comparison} (h : ∀ c ∈ cs, Quoteless c.column) :
    TwinEdits (Comparison.batch ⟨.mysql, database⟩ clause link cs)
      (Comparison.batch ⟨.sqlite, database⟩ clause link cs) := by
  rw [batch_eq, batch_eq]
  exact TwinEdits.flatMap fun c hc => edits_twin (h c hc)

/-! ## Joins -/

theorem JoinStep.edits_twin {step : JoinStep} (h : step.Uses quoteless) :
    TwinEdits (step.edits ⟨.mysql, database⟩) (step.edits ⟨.sqlite, database⟩) := by
  cases step with
  | on link first operator second =>
    refine TwinEdits.after_self fun op hop => ?_
    have hleft := (Twin.compared h.1 (Operator.known_of_check hop)).before (u := " ") (by decide)
    exact .cons (.condition (hleft.append (.quoteColumn h.2))) .nil
  | compare link c => exact Comparison.edits_twin h
  | null negated column => exact .cons (.nullCondition h negated) .nil
  | within column values => exact .cons (.inCondition h false values) .nil
  | note => exact .nil

/-- **A join of twins is written as twins.** -/
theorem JoinCondition.edits_twin {c : JoinCondition} (h : c.Uses quoteless) (kind : JoinKind)
    {table table' : String} (htable : Twin table table') (values : List Value) :
    TwinEdits (c.edits ⟨.mysql, database⟩ kind table values)
      (c.edits ⟨.sqlite, database⟩ kind table' values) := by
  cases c with
  | none => exact .cons (.join htable (.plain (by decide))) .nil
  | columns first operator second =>
    rw [edits, edits]
    refine TwinEdits.after_self fun op hop => .cons (.join htable ?_) .nil
    have hop := (Operator.known_of_check hop).quoteless
    exact (((((Twin.plain h.1).behind (by decide)).before (by decide)).before hop).before
      (by decide)).append (.plain h.2)
  | steps list =>
    have hnested : TwinBuilder
        (Builder.ofEdits ⟨.mysql, database⟩ (list.flatMap (JoinStep.edits ⟨.mysql, database⟩)))
        (Builder.ofEdits ⟨.sqlite, database⟩ (list.flatMap (JoinStep.edits ⟨.sqlite, database⟩))) :=
      .ofEdits _ _ (TwinEdits.flatMap fun step hstep => step.edits_twin (h step hstep))
    have hpart := hnested.query.part .joins
    simp only [JoinCondition.edits]
    rw [hnested.error, hpart.isEmpty, hpart.bindings]
    refine (TwinEdits.failure _).append (.cons ?_ .nil)
    split
    · exact .join htable (.plain (by decide))
    · exact .join htable ((hpart.fragments.join (by decide)).dropLeading.behind (by decide))
  | value column operator v =>
    rw [edits, edits]
    refine TwinEdits.after_self fun op hop => .cons (.join htable ?_) .nil
    have hcolumn := (Twin.quoteColumn h).behind (u := " WHERE ") (by decide)
    exact ((hcolumn.before (by decide)).before (Operator.known_of_prepare hop).quoteless).before
      (by decide)

end Parts

/-! ## Sources -/

/-- **Sources with twin statements.** -/
inductive TwinSource : Evaluated → Evaluated → Prop
  | text {sql : String} (h : Quoteless sql) : TwinSource (.text sql) (.text sql)
  | raw {e : Expression} (h : Quoteless e.text) : TwinSource (.raw e) (.raw e)
  | fresh {b b' : Builder} (h : TwinBuilder b b') : TwinSource (.fresh b) (.fresh b')
  | prepared {b b' : Builder} (h : TwinBuilder b b')
    (hdatabase : b'.target.database = b.target.database)
    (hquote : ∀ database ∈ b.target.database, Quoteless database) :
    TwinSource (.prepared b) (.prepared b')

theorem TwinSource.statement {s s' : Evaluated} (h : TwinSource s s') :
    Agree TwinStatement s.statement s'.statement := by
  cases h with
  | text h =>
    rw [Evaluated.statement]
    split
    · exact .error _
    · exact .ok ⟨.plain h, rfl⟩
  | raw h => exact .ok ⟨.plain h, rfl⟩
  | fresh h | prepared h _ _ => exact h.compile

/-- Twins with the twin of a qualifier in front of their first table. -/
theorem TwinFragments.qualifyFirst {qualifier qualifier' : String} (hq : Twin qualifier qualifier')
    {fs fs' : List Fragment} (h : TwinFragments fs fs') :
    TwinFragments (Builder.qualifyFirst qualifier fs) (Builder.qualifyFirst qualifier' fs') := by
  cases h with
  | nil => exact .nil
  | cons hf hfs =>
    cases hf with
    | text h =>
      rw [Builder.qualifyFirst, Builder.qualifyFirst, hq.isPrefixOf_eq h]
      split
      · exact .cons (.text h) hfs
      · exact .cons (.text (hq.append h)) hfs
    | raw bind h => exact .cons (.raw bind h) hfs

/-- Twins with twin qualifiers in front of their first table. -/
theorem TwinQuery.qualify {q q' : Query} (h : TwinQuery q q') {qualifier qualifier' : String}
    (hq : Twin qualifier qualifier') :
    TwinQuery (Builder.qualify qualifier q) (Builder.qualify qualifier' q') := by
  rw [Builder.qualify, Builder.qualify]
  refine h.modify (fun p p' hp => ?_) .froms
  exact ⟨hp.fragments.qualifyFirst hq, hp.bindings⟩

/-- **A source as a table** — the name of its database is quoted for the statement around it. -/
theorem TwinSource.tableStatement {s s' : Evaluated} (h : TwinSource s s')
    (database : Option String) :
    Agree TwinStatement (s.tableStatement ⟨.mysql, database⟩)
      (s'.tableStatement ⟨.sqlite, database⟩) := by
  cases h with
  | text h => exact (TwinSource.text h).statement
  | raw h => exact (TwinSource.raw h).statement
  | fresh h => exact (TwinSource.fresh h).statement
  | @prepared b b' h hdatabase hquote =>
    refine TwinBuilder.compile ?_
    rw [Builder.qualifiedFor, Builder.qualifiedFor, hdatabase]
    cases hown : b.target.database with
    | none => exact h
    | some own =>
      simp only
      split
      · exact h
      · exact ⟨h.query.qualify ((Twin.quoteIdentifier (hquote own hown)).before (by decide)),
          h.error⟩

/-! ## Nested queries -/

namespace TwinBuilder

variable {b b' : Builder} {clause : Clause} {link : Connective}

theorem groupEdits (h : TwinBuilder b b') :
    TwinEdits (b.groupEdits clause link) (b'.groupEdits clause link) := by
  have hpart := h.query.part clause
  rw [Builder.groupEdits, Builder.groupEdits, h.error, hpart.isEmpty, hpart.bindings]
  refine (TwinEdits.failure _).append ?_
  split
  · exact .nil
  · exact .cons (.condition (hpart.fragments.join (by decide)).dropLeading.parenthesized) .nil

theorem conditionEdits (h : TwinBuilder b b') :
    TwinEdits (b.conditionEdits clause link) (b'.conditionEdits clause link) := by
  rw [Builder.conditionEdits, Builder.conditionEdits, (h.query.part .froms).isEmpty]
  split
  · exact h.groupEdits
  · refine TwinEdits.after h.compile fun s s' hs => ?_
    rw [hs.bindings]
    exact .cons (.condition ((hs.sql.behind (by decide)).before (by decide))) .nil

end TwinBuilder

/-! ## The induction -/

mutual

/-- **A call without quotes makes the same edits in the two dialects, up to the quote.** -/
theorem Call.edits_twin {database : Option String}
    (hdatabase : ∀ name ∈ database, Quoteless name) {c : Call} (h : c.Uses quoteless) :
    TwinEdits ((c.inDialect .mysql).edits ⟨.mysql, database⟩)
      ((c.inDialect .sqlite).edits ⟨.sqlite, database⟩) := by
  cases c with
  | push clause fragments values =>
    exact .cons (.append clause (List.forall₂_same.mpr fun f hf => .plain (h f hf)) values) .nil
  | nest calls clause link => exact (TwinBuilder.ofEdits _ _ (callEdits_twin hdatabase h)).groupEdits
  | throws message => exact .cons (.notFound message) .nil
  | debug on => exact .cons (.debug on) .nil
  | tables names => exact TwinEdits.map fun name hname => .entry (.quoteColumn (h name hname))
  | tableAs name label => exact .cons (.entry (.aliased (.quoteColumn h.1) h.2)) .nil
  | tableRaw e values => exact .cons (.rawEntry (.plain h) e.bind) .nil
  | tableSource source label =>
    refine TwinEdits.after ((Source.evaluate_twin hdatabase h.1).tableStatement _) fun s s' hs => ?_
    rw [hs.bindings]
    exact .cons (.entry (hs.sql.parenthesized.aliased h.2)) .nil
  | select columns =>
    cases columns with
    | nil => exact .cons (.entry (.plain (by decide))) .nil
    | cons c cs => exact TwinEdits.map fun c hc => .entry (.quoteColumn (h c hc))
  | selectAs column label => exact .cons (.entry (.aliased (.quoteColumn h.1) h.2)) .nil
  | selectExpr e label =>
    exact .cons (.rawEntry ((Twin.plain h.1).aliased h.2) e.bind) .nil
  | selectRaw e => exact .cons (.rawEntry (.plain h) e.bind) .nil
  | selectSource source label =>
    refine TwinEdits.after (Source.evaluate_twin hdatabase h.1).statement fun s s' hs => ?_
    simp only
    rw [hs.bindings]
    cases label with
    | none => exact .cons (.entry hs.sql.parenthesized) .nil
    | some label => exact .cons (.entry (hs.sql.parenthesized.aliased (h.2 label rfl))) .nil
  | condition zone link p => exact Predicate.edits_twin hdatabase _ link h
  | compareMany zone link comparisons => exact Comparison.batch_twin h
  | inMany lists => exact TwinEdits.map fun l hl => .inCondition (h l hl) false l.2
  | nullMany negated columns => exact TwinEdits.map fun c hc => .nullCondition (h c hc) negated
  | join kind table condition => exact condition.edits_twin h.2 kind (.quoteColumn h.1) []
  | joinSource kind source label condition =>
    refine TwinEdits.after ((Source.evaluate_twin hdatabase h.1).tableStatement _) fun s s' hs => ?_
    rw [hs.bindings]
    exact condition.edits_twin h.2.2 kind (hs.sql.parenthesized.aliased h.2.1) s.bindings
  | list listing columns direction =>
    exact TwinEdits.map fun c hc => .entry (.directed (.quoteColumn (h c hc)) direction)
  | listRaw listing e values => exact .cons (.rawEntry (.plain h) e.bind) .nil
  | listSource listing source direction =>
    refine TwinEdits.after (Source.evaluate_twin hdatabase h).statement fun s s' hs => ?_
    rw [hs.bindings]
    exact .cons (.entry (hs.sql.parenthesized.directed direction)) .nil
  | limit count => exact .cons (.replaced (by decide)) .nil
  | limitRange offset count => exact .cons (.replaced (by decide)) .nil
  | limitRaw e => exact .cons (.replaced h) .nil
  | offset count => exact .cons (.replaced (by decide)) .nil
  | offsetRaw e => exact .cons (.replaced h) .nil
  | page number => exact .cons (.page number) .nil
  | perPage size => exact .cons (.perPage size) .nil
  | forPage page size =>
    exact .cons (.replaced (by decide)) (.cons (.replaced (by decide)) .nil)
  | union all source =>
    refine TwinEdits.after (Source.evaluate_twin hdatabase h).statement fun s s' hs => ?_
    rw [hs.bindings]
    have hkeyword : Quoteless (unionKeyword all ++ " ") := by cases all <;> decide
    exact .cons (.append .unions (.cons (.raw none (hs.sql.behind hkeyword)) .nil) _) .nil
  | rowLock lock => exact absurd h id
  | lock sql => exact .cons (.lock (.plain h)) .nil

theorem Predicate.edits_twin {database : Option String}
    (hdatabase : ∀ name ∈ database, Quoteless name) (clause : Clause) (link : Connective)
    {p : Predicate} (h : p.Uses quoteless) :
    TwinEdits ((p.inDialect .mysql).edits ⟨.mysql, database⟩ clause link)
      ((p.inDialect .sqlite).edits ⟨.sqlite, database⟩ clause link) := by
  cases p with
  | compare c => exact Comparison.edits_twin h
  | group calls => exact (TwinBuilder.ofEdits _ _ (callEdits_twin hdatabase h)).conditionEdits
  | compareSource column operator source =>
    rw [Predicate.inDialect, Predicate.inDialect, Predicate.edits, Predicate.edits]
    refine TwinEdits.after_self fun op hop =>
      TwinEdits.after (Source.evaluate_twin hdatabase h.2).statement fun s s' hs => ?_
    rw [hs.bindings]
    exact .cons (.condition ((Twin.compared h.1 (Operator.known_of_check hop)).enclosing hs.sql))
      .nil
  | sourceCompare source operator value =>
    rw [Predicate.inDialect, Predicate.inDialect, Predicate.edits, Predicate.edits]
    refine TwinEdits.after_self fun op hop =>
      TwinEdits.after (Source.evaluate_twin hdatabase h).statement fun s s' hs => ?_
    rw [hs.bindings]
    have hop := (Operator.known_of_prepare hop).quoteless
    exact .cons (.condition
      ((((hs.sql.behind (by decide)).before (by decide)).before hop).before (by decide))) .nil
  | inList negated column values => exact .cons (.inCondition h negated values) .nil
  | inSource negated column source =>
    refine TwinEdits.after (Source.evaluate_twin hdatabase h.2).statement fun s s' hs => ?_
    rw [hs.bindings]
    have hcolumn := ((Twin.quoteColumn h.1).before (u := " ") (by decide)).before
      (u := negatedKeyword negated "IN") (by cases negated <;> decide)
    exact .cons (.condition (hcolumn.enclosing hs.sql)) .nil
  | null negated column => exact .cons (.nullCondition h negated) .nil
  | between negated column low high => exact .cons (.betweenCondition h negated low high) .nil
  | like negated subject pattern =>
    refine TwinEdits.after (Operand.resolve_twin hdatabase h) fun s s' hs => ?_
    rw [hs.bindings]
    exact .cons (.condition (((hs.sql.before (by decide)).before
      (by cases negated <;> decide)).before (by decide))) .nil
  | existence negated source =>
    refine TwinEdits.after (Source.evaluate_twin hdatabase h).statement fun s s' hs => ?_
    rw [hs.bindings]
    have hkeyword : Quoteless (negatedKeyword negated "EXISTS") := by cases negated <;> decide
    exact .cons (.condition ((Twin.plain hkeyword).enclosing hs.sql)) .nil
  | quantified quantifier column operator source =>
    rw [Predicate.inDialect, Predicate.inDialect, Predicate.edits, Predicate.edits]
    refine TwinEdits.after_self fun op hop =>
      TwinEdits.after (Source.evaluate_twin hdatabase h.2).statement fun s s' hs => ?_
    rw [hs.bindings]
    have hleft := ((Twin.compared h.1 (Operator.known_of_check hop)).before (u := " ")
      (by decide)).before (u := quantifier.keyword) (by cases quantifier <;> decide)
    exact .cons (.condition (hleft.enclosing hs.sql)) .nil
  | raw e values => exact .cons (.rawCondition h) .nil

theorem Source.evaluate_twin {database : Option String}
    (hdatabase : ∀ name ∈ database, Quoteless name) {s : Source} (h : s.Uses quoteless) :
    TwinSource ((s.inDialect .mysql).evaluate ⟨.mysql, database⟩)
      ((s.inDialect .sqlite).evaluate ⟨.sqlite, database⟩) := by
  cases s with
  | text sql => exact .text h
  | raw e => exact .raw h
  | closure calls => exact .fresh (.ofEdits _ _ (callEdits_twin hdatabase h))
  | prepared target calls =>
    cases target with
    | none => exact .prepared (.ofEdits _ _ (callEdits_twin hdatabase h.2)) (by simp) (by simpa)
    | some own =>
      have hown : ∀ name ∈ own.database, Quoteless name := h.1 own rfl
      exact .prepared (.ofEdits _ _ (callEdits_twin hown h.2)) (by simp) (by simpa)

theorem Operand.resolve_twin {database : Option String}
    (hdatabase : ∀ name ∈ database, Quoteless name) {o : Operand} (h : o.Uses quoteless) :
    Agree TwinStatement ((o.inDialect .mysql).resolve ⟨.mysql, database⟩)
      ((o.inDialect .sqlite).resolve ⟨.sqlite, database⟩) := by
  cases o with
  | column name => exact .ok ⟨.quoteColumn h, rfl⟩
  | source source =>
    have hs := (Source.evaluate_twin hdatabase h).statement
    have hparentheses := hs.map (f := fun s => (⟨"(" ++ s.sql ++ ")", s.bindings⟩ : Statement))
      (g := fun s => (⟨"(" ++ s.sql ++ ")", s.bindings⟩ : Statement)) (S := TwinStatement)
      fun s s' hs => ⟨hs.sql.parenthesized, hs.bindings⟩
    cases source with
    | raw e => exact hs
    | text sql => exact hparentheses
    | closure calls => exact hparentheses
    | prepared target calls => exact hparentheses

theorem callEdits_twin {database : Option String}
    (hdatabase : ∀ name ∈ database, Quoteless name) {calls : List Call}
    (h : callsUse quoteless calls) :
    TwinEdits (callEdits ⟨.mysql, database⟩ (callsInDialect .mysql calls))
      (callEdits ⟨.sqlite, database⟩ (callsInDialect .sqlite calls)) := by
  cases calls with
  | nil => exact .nil
  | cons call rest => exact (Call.edits_twin hdatabase h.1).append (callEdits_twin hdatabase h.2)

end

end FluentSql
