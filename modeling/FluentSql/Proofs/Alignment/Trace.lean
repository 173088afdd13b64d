import FluentSql.Proofs.Alignment.Balanced
import FluentSql.Proofs.Alignment.Call
import FluentSql.Proofs.Quote

/-!
# Proofs/Alignment/Trace — every kind of entry, read with its values

One lemma for each way in which a call writes an entry: the marked edits that put the values in place
are a reading of the edits that put them aside.  An entry of text is a reading of its text
(`Traces.entry`), a result that is resolved first hands on its reading or its error
(`SpellsResult.after`), a group reads the level of conditions it encloses (`Traces.group`), and a
source used as a table is read behind its qualifier (`SpellsSource.tableStatement`).
-/

namespace FluentSql

open Marked (plain)

variable {m : Marked} {sql : String} {values : List Value} {clause : Clause} {link : Connective}

/-! ## Readings of a changed text -/

namespace Spells

/-- A reading of a text is one of any other way to write it. -/
theorem congr {sql' : String} (h : Spells m sql values) (e : sql = sql') : Spells m sql' values :=
  e ▸ h

/-- A text between two others that hold no placeholder. -/
theorem between {left right : String} (hl : NoPlaceholder left) (hr : NoPlaceholder right)
    (h : Spells m sql values) :
    Spells (.plain left ++ m ++ .plain right) (left ++ sql ++ right) values :=
  (h.behind hl).before hr

/-- A text in parentheses. -/
theorem parenthesized (h : Spells m sql values) :
    Spells (.plain "(" ++ m ++ .plain ")") ("(" ++ sql ++ ")") values :=
  h.between (by decide) (by decide)

/-- A text in parentheses behind a beginning. -/
theorem enclosed {left : String} (hl : NoPlaceholder left) (h : Spells m sql values) :
    Spells (.plain (left ++ " (") ++ m ++ .plain ")") (left ++ " (" ++ sql ++ ")") values :=
  h.between (hl.append (by decide)) (by decide)

/-- A literal text with one placeholder for each of its values. -/
theorem expression {e : Expression} (h : e.Balanced values) :
    Spells (.fill e.text.toList (e.values ++ values)) e.text (e.values ++ values) := fill h

/-- A literal text with its own value alone. -/
theorem expression_nil {e : Expression} (h : e.Balanced []) :
    Spells (.fill e.text.toList e.values) e.text e.values := by
  simpa using expression h

/-- **Listed values are their placeholders with commas between them.** -/
theorem placeholders (values : List Value) :
    Spells (.joinWith ", " (values.map .hole)) (placeholders values) values :=
  .joinWith (by decide) List.map_map ((List.flatMap_map ..).trans (List.flatMap_singleton' values))
    (List.forall_mem_map.mpr fun v _ => Marked.clean_hole v)

/-- A sub-query in parentheses under a label. -/
theorem labelled {t : Target} (ht : t.Placeless) {label : String} (hl : NoPlaceholder label)
    (h : Spells m sql values) :
    Spells (m.labelled t label) (t.dialect.aliased ("(" ++ sql ++ ")") label) values := by
  have hlabel : NoPlaceholder (")" ++ " AS " ++ t.dialect.quoteIdentifier label) :=
    .append (by decide) (.quoteIdentifier ht hl)
  have hopen : NoPlaceholder "(" := by decide
  refine (h.between hopen hlabel).congr ?_
  simp only [Dialect.aliased, String.append_assoc]

end Spells

/-! ## Entries -/

namespace Traces

/-- **An entry of text.** -/
theorem entry (hc : clause ≠ .offset) (h : Spells m sql values) :
    Traces [.entry clause m] [.entry clause sql values] :=
  singleton (by rw [← h.sql, ← h.values]; rfl) ⟨hc, h.clean⟩

/-- An entry of literal text that has its values filled in. -/
theorem raw (hc : clause ≠ .offset) (h : Spells m sql values) :
    Traces [.append clause (.raw m)] [.append clause [.raw ⟨sql, none⟩] values] :=
  singleton (by rw [← h.sql, ← h.values]; rfl) ⟨hc, h.clean⟩

/-- **An entry of literal text**, as it is. -/
theorem rawEntry (hc : clause ≠ .offset) {e : Expression} (h : e.Balanced values) :
    Traces [.rawEntry clause e values] [.rawEntry clause e values] := raw hc (.expression h)

/-- An entry without placeholders. -/
theorem text (hc : clause ≠ .offset) (h : NoPlaceholder sql) :
    Traces [.entry clause (plain sql)] [.entry clause sql []] := entry hc (.plain h)

/-- Entries without placeholders, one for each member of a list. -/
theorem texts {α : Type} {write : α → String} {l : List α} (hc : clause ≠ .offset)
    (h : ∀ a ∈ l, NoPlaceholder (write a)) :
    Traces (l.map fun a => .entry clause (plain (write a)))
      (l.map fun a => .entry clause (write a) []) :=
  map fun a ha => text hc (h a ha)

/-- A clause replaced by a text. -/
theorem replace (h : Spells m sql values) :
    Traces [.replace clause (.text m)] [.replace clause (.text sql) values] :=
  singleton (by rw [← h.sql, ← h.values]; rfl) h.clean

/-- A clause replaced by literal text that has its values filled in. -/
theorem replaceRaw (h : Spells m sql values) :
    Traces [.replace clause (.raw m)] [.replace clause (.raw ⟨sql, none⟩) values] :=
  singleton (by rw [← h.sql, ← h.values]; rfl) h.clean

/-- A recorded error. -/
theorem fail (e : BuildError) : Traces [.fail e] [.fail e] := singleton rfl trivial

/-- The error of a nested query, if there is one. -/
theorem failure (error : Option BuildError) :
    Traces (MarkedEdit.failure error) (Edit.failure error) := by
  cases error with
  | none => exact nil
  | some e => exact fail e

/-- **What is settled first, without a value, is the same on both sides.** -/
theorem after {α : Type} {r : Except BuildError α} {f : α → List MarkedEdit} {g : α → List Edit}
    (h : ∀ a, r = .ok a → Traces (f a) (g a)) : Traces (MarkedEdit.after r f) (Edit.after r g) := by
  cases r with
  | error e => exact fail e
  | ok a => exact h a rfl

end Traces

/-- **What is resolved to a statement hands on its reading**, or else its error. -/
theorem SpellsResult.after {r : Except BuildError Marked} {r' : Except BuildError Statement}
    {f : Marked → List MarkedEdit} {g : Statement → List Edit} (h : SpellsResult r r')
    (hf : ∀ m sql values, Spells m sql values → Traces (f m) (g ⟨sql, values⟩)) :
    Traces (MarkedEdit.after r f) (Edit.after r' g) := by
  cases h with
  | error e => exact .fail e
  | ok h => exact hf _ _ _ h

/-! ## Conditions -/

namespace Traces

/-- **A condition behind its connective.** -/
theorem condition (hc : clause ≠ .offset) (h : Spells m sql values) :
    Traces [.condition clause link m] [.condition clause link sql values] :=
  entry hc (h.behind (noPlaceholder_keyword link))

/-- A condition of literal text. -/
theorem rawCondition (hc : clause ≠ .offset) {e : Expression} (h : e.Balanced values) :
    Traces [.rawCondition clause link e values] [.rawCondition clause link e values] :=
  raw hc ((Spells.expression h).behind (noPlaceholder_rawKeyword link))

variable {t : Target} (ht : t.Placeless) {column : String}

include ht

theorem nullCondition (hc : clause ≠ .offset) (h : NoPlaceholder column) (negated : Bool) :
    Traces [.nullCondition t clause link negated column]
      [.nullCondition t clause link negated column] :=
  condition hc (.plain (.compared ht h (noPlaceholder_nullTest negated)))

/-- **Every listed value is read in its own place.** -/
theorem inCondition (hc : clause ≠ .offset) (h : NoPlaceholder column) (negated : Bool)
    (list : List Value) :
    Traces [.inCondition t clause link negated column list]
      [.inCondition t clause link negated column list] := by
  unfold MarkedEdit.inCondition Edit.inCondition
  split
  · exact condition hc (.plain (by cases negated <;> decide))
  · have hin : NoPlaceholder (negatedKeyword negated "IN") :=
      noPlaceholder_negatedKeyword negated (by decide)
    exact condition hc ((Spells.placeholders list).enclosed (.compared ht h hin))

/-- **The low end of a range is read before the high one.** -/
theorem betweenCondition (hc : clause ≠ .offset) (h : NoPlaceholder column) (negated : Bool)
    (low high : Value) :
    Traces [.betweenCondition t clause link negated column low high]
      [.betweenCondition t clause link negated column low high] := by
  have hbetween : NoPlaceholder (negatedKeyword negated "BETWEEN") :=
    noPlaceholder_negatedKeyword negated (by decide)
  have hleft : NoPlaceholder
      (t.dialect.quoteColumn column ++ " " ++ negatedKeyword negated "BETWEEN" ++ " ") :=
    .append (.compared ht h hbetween) (by decide)
  have hand : NoPlaceholder " AND " := by decide
  refine condition hc ((((Spells.hole low).between hleft hand).append (.hole high)).congr ?_)
  simp [String.append_assoc]

/-- **A value compared with is read behind the operator**, unless it is NULL and read nowhere. -/
theorem comparison (hc : clause ≠ .offset) {c : Comparison} (h : NoPlaceholder c.column) :
    Traces (c.marks t clause link) (c.edits t clause link) := by
  refine after fun op hop => ?_
  split
  · exact nullCondition ht hc h _
  · have hleft : NoPlaceholder (t.dialect.quoteColumn c.column ++ " " ++ op ++ " ") :=
      .append (.compared ht h (Operator.not_mem_of_prepare hop)) (by decide)
    refine condition hc (((Spells.hole c.value).behind hleft).congr ?_)
    simp [String.append_assoc]

/-- The members of a batch, each settled before it is added. -/
theorem batch (hc : clause ≠ .offset) {cs : List Comparison}
    (h : ∀ c ∈ cs, NoPlaceholder c.column) :
    Traces (Comparison.batchMarks t clause link cs) (Comparison.batch t clause link cs) := by
  refine flatMap fun c hcs => after fun n hn => comparison ht hc ?_
  rw [Comparison.column_of_normalized hn]
  exact h c hcs

end Traces

/-! ## Levels of conditions -/

/-- **The entries of a clause without their first connective.** -/
theorem MarkedQuery.spells_level {q : MarkedQuery} (h : q.Clean) (c : Clause) :
    Spells (q.level c)
      (Connective.dropLeadingText (Fragment.join " " (q.unmarked.part c).fragments))
      (q.unmarked.part c).bindings := by
  rw [part_unmarked]
  exact (spells_joinWith (by decide) (h.entries c)).dropLeading

/-- A clause is empty with its values in place when it is empty without them. -/
theorem MarkedQuery.isEmpty_part (q : MarkedQuery) (c : Clause) :
    (q.unmarked.part c).isEmpty = (q.part c).isEmpty := by
  rw [part_unmarked, Part.isEmpty, unmarkedPart, List.isEmpty_map]

namespace Traces

variable {ms : List MarkedEdit} {es : List Edit}

/-- **A group encloses one level of conditions**, behind the error of its calls. -/
theorem group (h : Traces ms es) (t : Target) (hc : clause ≠ .offset) :
    Traces (MarkedEdit.group ms clause link)
      ((Builder.ofEdits t es).groupEdits clause link) := by
  have hlevel := MarkedQuery.spells_level h.clean_ofEdits clause
  simp only [MarkedEdit.group, Builder.groupEdits]
  rw [h.firstError t, h.query t, MarkedQuery.isEmpty_part]
  refine (failure _).append ?_
  split
  · exact nil
  · exact condition hc hlevel.parenthesized

/-- **A nested query is a group of conditions**, or the existence of a row if it names a table. -/
theorem nested (h : Traces ms es) (t : Target) (hc : clause ≠ .offset) :
    Traces (MarkedEdit.nested ms clause link)
      ((Builder.ofEdits t es).conditionEdits clause link) := by
  unfold MarkedEdit.nested Builder.conditionEdits
  rw [h.query t, MarkedQuery.isEmpty_part]
  split
  · exact h.group t hc
  · exact (h.compile t).after fun m sql values hm =>
      condition hc (hm.between (by decide) (by decide))

/-! ## Joins -/

variable {t : Target} (ht : t.Placeless)

include ht

/-- **One step of a join's conditions.** -/
theorem joinStep {step : JoinStep} (h : step.Balanced) : Traces (step.marks t) (step.edits t) := by
  have hc : Clause.joins ≠ .offset := by decide
  cases step with
  | on link first operator second =>
    refine after fun op hop => condition hc (.plain ?_)
    have hleft := NoPlaceholder.compared ht h.1 (Operator.not_mem_of_check hop)
    exact (hleft.append (by decide)).append (.quoteColumn ht h.2)
  | compare link c => exact comparison ht hc h
  | null negated column => exact nullCondition ht hc h negated
  | within column values => exact inCondition ht hc h false values
  | note => exact nil

omit ht in
/-- A join whose table and condition are read. -/
theorem join {kind : JoinKind} {n : Marked} {sql' : String} {values' : List Value}
    (h : Spells m sql values) (h' : Spells n sql' values') :
    Traces [.join kind m n] [.join kind sql sql' (values ++ values')] :=
  entry (by decide) ((h.behind (by cases kind <;> decide)).append h')

/-- **A join, the values of its table before those of its conditions.** -/
theorem joinCondition {kind : JoinKind} {c : JoinCondition} (h : c.Balanced)
    (htable : Spells m sql values) : Traces (c.marks t kind m) (c.edits t kind sql values) := by
  have hnone : Traces [.join kind m []] [.join kind sql "" values] := by
    simpa using join htable .nil
  cases c with
  | none => exact hnone
  | columns first operator second =>
    rw [JoinCondition.marks, JoinCondition.edits]
    refine after fun op hop => ?_
    have hop := Operator.not_mem_of_check hop
    have hon : NoPlaceholder (" ON " ++ first ++ " " ++ op ++ " " ++ second) :=
      .append (.append (.append (.append (.append (by decide) h.1) (by decide)) hop) (by decide)) h.2
    simpa using join htable (.plain hon)
  | steps list =>
    have hsteps : Traces (list.flatMap (JoinStep.marks t)) (list.flatMap (JoinStep.edits t)) :=
      flatMap fun step hstep => joinStep ht (h step hstep)
    have hlevel := MarkedQuery.spells_level hsteps.clean_ofEdits .joins
    simp only [JoinCondition.marks, JoinCondition.edits]
    rw [hsteps.firstError t, hsteps.query t, MarkedQuery.isEmpty_part]
    refine (failure _).append ?_
    split
    · exact hnone
    · exact join htable (hlevel.behind (by decide))
  | value column operator v =>
    rw [JoinCondition.marks, JoinCondition.edits]
    refine after fun op hop => ?_
    have hop := Operator.not_mem_of_prepare hop
    have hcolumn : NoPlaceholder (" WHERE " ++ t.dialect.quoteColumn column ++ " ") :=
      .append (.append (by decide) (.quoteColumn ht h)) (by decide)
    have hwhere : NoPlaceholder (" WHERE " ++ t.dialect.quoteColumn column ++ " " ++ op ++ " ") :=
      .append (hcolumn.append hop) (by decide)
    refine join htable (((Spells.hole v).behind hwhere).congr ?_)
    simp [String.append_assoc]

end Traces

/-! ## Sources -/

/-- **A source that has put its values in place is a reading of the source.** -/
inductive SpellsSource : MarkedSource → Evaluated → Prop
  | text {sql : String} (h : NoPlaceholder sql) : SpellsSource (.text sql) (.text sql)
  | raw {e : Expression} (h : e.Balanced []) : SpellsSource (.raw e) (.raw e)
  | fresh {ms : List MarkedEdit} {es : List Edit} (t : Target) (h : Traces ms es) :
    SpellsSource (.fresh ms) (.fresh (Builder.ofEdits t es))
  | prepared {own : Target} {ms : List MarkedEdit} {es : List Edit} (hown : own.Placeless)
    (h : Traces ms es) : SpellsSource (.prepared own ms) (.prepared (Builder.ofEdits own es))

/-- **The statement of a source is read with its values**, or the error is the same. -/
theorem SpellsSource.statement {s : MarkedSource} {s' : Evaluated} (h : SpellsSource s s') :
    SpellsResult s.statement s'.statement := by
  cases h with
  | @text sql h =>
    have hok : SpellsResult (.ok (plain sql)) (.ok ⟨sql, []⟩) := .ok (.plain h)
    rw [MarkedSource.statement, Evaluated.statement]
    split
    · exact .error _
    · exact hok
  | raw h => exact .ok (.expression_nil h)
  | fresh t h => exact h.compile t
  | prepared hown h => exact h.compile _

/-- A qualifier changes the first source and no value. -/
theorem Entry.unmarked_qualifyFirst (qualifier : String) (es : List Entry) :
    (⟨(Entry.qualifyFirst qualifier es).map Entry.fragment,
        (Entry.qualifyFirst qualifier es).flatMap Entry.values⟩ : Part) =
      ⟨Builder.qualifyFirst qualifier (es.map Entry.fragment), es.flatMap Entry.values⟩ := by
  rcases es with - | ⟨m | m, rest⟩
  · rfl
  · rw [List.map_cons, Entry.fragment, Entry.qualifyFirst, Builder.qualifyFirst,
      Marked.toList_sql]
    by_cases hp : qualifier.toList.isPrefixOf m.chars = true
    · rw [if_pos hp, if_pos hp]
      rfl
    · rw [if_neg hp, if_neg hp]
      simp [Entry.fragment, Entry.values, Entry.body]
  · rfl

/-- Entries stay clean behind a qualifier without placeholders. -/
theorem Entry.clean_qualifyFirst {qualifier : String} (hq : NoPlaceholder qualifier)
    {es : List Entry} (h : ∀ e ∈ es, e.body.Clean) :
    ∀ e ∈ Entry.qualifyFirst qualifier es, e.body.Clean := by
  rcases es with - | ⟨m | m, rest⟩
  · exact h
  · have hm : m.Clean := h (.text m) List.mem_cons_self
    have hqm : (plain qualifier ++ m).Clean :=
      Marked.clean_append.mpr ⟨Marked.clean_plain.mpr hq, hm⟩
    intro e he
    rw [Entry.qualifyFirst] at he
    by_cases hp : qualifier.toList.isPrefixOf m.chars = true
    · rw [if_pos hp] at he
      exact h e he
    · rw [if_neg hp] at he
      rcases List.mem_cons.mp he with rfl | he
      · exact hqm
      · exact h e (List.mem_cons_of_mem _ he)
  · exact h

/-- **A query behind its qualifier is still read with its values.** -/
theorem MarkedQuery.unmarked_qualifiedFor {b : Builder} {q : MarkedQuery}
    (hb : b.query = q.unmarked) (t : Target) :
    (b.qualifiedFor t).query = (q.qualifiedFor b.target t).unmarked := by
  unfold Builder.qualifiedFor MarkedQuery.qualifiedFor
  cases b.target.database with
  | none => exact hb
  | some database =>
    simp only
    split
    · exact hb
    · have hfirst := Entry.unmarked_qualifyFirst (t.dialect.quoteIdentifier database ++ ".")
      rw [Builder.qualify, hb]
      exact (q.unmarked_modify (c := .froms)
        (g := fun p => { p with fragments := Builder.qualifyFirst _ p.fragments }) hfirst).symm

theorem MarkedQuery.Clean.qualifiedFor {q : MarkedQuery} (h : q.Clean) {own t : Target}
    (hown : own.Placeless) (ht : t.Placeless) : (q.qualifiedFor own t).Clean := by
  unfold MarkedQuery.qualifiedFor
  split
  · exact h
  · next database hdatabase =>
    split
    · exact h
    · have hname : NoPlaceholder database := hown.database database hdatabase
      have hq : NoPlaceholder (t.dialect.quoteIdentifier database ++ ".") :=
        .append (.quoteIdentifier ht hname) (by decide)
      exact h.modify (Entry.clean_qualifyFirst hq (h.entries .froms)) nofun

/-- **The statement of a source used as a table**, its first table behind the name of its database. -/
theorem SpellsSource.tableStatement {t : Target} (ht : t.Placeless) {s : MarkedSource}
    {s' : Evaluated} (h : SpellsSource s s') :
    SpellsResult (s.tableStatement t) (s'.tableStatement t) := by
  cases h with
  | text h => exact (SpellsSource.text h).statement
  | raw h => exact (SpellsSource.raw h).statement
  | fresh t h => exact h.compile t
  | @prepared own ms es hown h =>
    have hquery := MarkedQuery.unmarked_qualifiedFor (h.query own) t
    rw [Builder.target_ofEdits] at hquery
    have hclean := h.clean_ofEdits.qualifiedFor hown ht
    rw [MarkedSource.tableStatement, Evaluated.tableStatement, Builder.compile_eq,
      Builder.error_qualifiedFor, ← h.firstError own, hquery]
    cases MarkedEdit.firstError ms with
    | some e => exact .error e
    | none => exact .ok (MarkedQuery.spells_select hclean)

end FluentSql
