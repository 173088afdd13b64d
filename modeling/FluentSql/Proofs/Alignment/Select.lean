import FluentSql.Proofs.Alignment.Trace

/-!
# Proofs/Alignment/Select — placeholders and values of a SELECT

Calls, conditions and sources contain one another, so one mutual induction shows of all of them that
what they write with values in place is a reading of what they write with values aside.  It follows
that in a SELECT of any calls the placeholders are the values, in number, in order and by the place a
call meant each value to have.
-/

namespace FluentSql

open Marked (plain)

/-- A zone of conditions is not the offset, which holds one entry only. -/
theorem Zone.clause_ne_offset (zone : Zone) : zone.clause ≠ .offset := by cases zone <;> decide

theorem Listing.clause_ne_offset (listing : Listing) : listing.clause ≠ .offset := by
  cases listing <;> decide

/-! ## Calls without sub-queries -/

namespace Traces

variable {t : Target} {m : Marked} {sql : String} {values : List Value}

/-- A fragment put in place as it is. -/
theorem push {f : Fragment} (h : f.Placeless) :
    Traces ((Call.push .froms [f] []).marks t) ((Call.push .froms [f] []).edits t) := by
  rw [Call.marks, Call.edits]
  obtain ⟨hf, hbind⟩ := h
  cases f with
  | text s => exact text (by decide) hf
  | raw e =>
    obtain ⟨s, bind⟩ := e
    obtain rfl : bind = none := hbind _ rfl
    exact raw (by decide) (.plain hf)

/-- A column under a label, or a literal text under one. -/
theorem selectExpr (ht : t.Placeless) {e : Expression} {label : String} (he : e.Balanced [])
    (hl : NoPlaceholder label) :
    Traces ((Call.selectExpr e label).marks t) ((Call.selectExpr e label).edits t) := by
  have hlabel : NoPlaceholder (" AS " ++ t.dialect.quoteIdentifier label) :=
    .append (by decide) (.quoteIdentifier ht hl)
  have hsql : e.text ++ (" AS " ++ t.dialect.quoteIdentifier label) =
      t.dialect.aliased e.text label := (String.append_assoc ..).symm
  rw [Call.marks, Call.edits, Edit.rawEntry, List.append_nil]
  exact raw (by decide) (((Spells.expression_nil he).before hlabel).congr hsql)

/-- **Limit and offset of a range, in the order in which they are written.** -/
theorem limitRange (offset count : UInt64) :
    Traces [.limitRange offset count] [.limitRange offset count] :=
  replace (((Spells.hole _).before (by decide)).append (.hole _))

/-- A row lock, or the error of a dialect without it. -/
theorem rowLock (ht : t.Placeless) (lock : RowLock) :
    Traces ((Call.rowLock lock).marks t) ((Call.rowLock lock).edits t) := by
  rw [Call.marks, Call.edits, RowLock.edits]
  cases hsql : t.dialect.lock? lock with
  | none => exact fail _
  | some sql => exact singleton rfl (ht.lock lock sql hsql)

end Traces

/-- A sub-query in parentheses with a direction behind it. -/
theorem Spells.directed {m : Marked} {sql : String} {values : List Value} (h : Spells m sql values)
    (direction : Option Direction) :
    Spells (.plain "(" ++ m ++ .plain (FluentSql.directed ")" direction))
      (FluentSql.directed ("(" ++ sql ++ ")") direction) values := by
  have hopen : NoPlaceholder "(" := by decide
  have hclose : NoPlaceholder ")" := by decide
  refine (h.between hopen (noPlaceholder_directed hclose direction)).congr ?_
  cases direction with
  | none => rfl
  | some d => simp only [FluentSql.directed, String.append_assoc]

/-- The parentheses around a sub-query. -/
theorem SpellsResult.parenthesized {r : Except BuildError Marked}
    {r' : Except BuildError Statement} (h : SpellsResult r r') :
    SpellsResult (r.map fun m => plain "(" ++ m ++ plain ")")
      (r'.map fun s => ⟨"(" ++ s.sql ++ ")", s.bindings⟩) :=
  h.map fun _ _ hm => hm.parenthesized

/-! ## The induction -/

mutual

/-- **The calls that put their values in place are a reading of the calls.** -/
theorem Call.traces {t : Target} (ht : t.Placeless) (c : Call) (h : c.Balanced) :
    Traces (c.marks t) (c.edits t) := by
  cases c with
  | push clause fragments values =>
    obtain ⟨rfl, rfl, f, rfl, hf⟩ := h
    exact .push hf
  | nest calls clause link =>
    have hc : clause ≠ .offset := by rcases h.1 with rfl | rfl <;> decide
    rw [Call.marks, Call.edits]
    exact (callTraces ht calls h.2).group t hc
  | throws message => exact .singleton rfl trivial
  | debug on => exact .singleton rfl trivial
  | tables names =>
    rw [Call.marks, Call.edits]
    exact .texts (by decide) fun name hname => .quoteColumn ht (h name hname)
  | tableAs name label => exact .text (by decide) (.aliased ht (.quoteColumn ht h.1) h.2)
  | tableRaw e values => exact .rawEntry (by decide) h
  | tableSource source label =>
    rw [Call.marks, Call.edits]
    exact ((source.spells ht h.1).tableStatement ht).after fun m sql values hm =>
      .entry (by decide) (hm.labelled ht h.2)
  | select columns =>
    rcases columns with - | ⟨c, cs⟩
    · exact .text (by decide) (by decide)
    · rw [Call.marks, Call.edits]
      exact .texts (by decide) fun column hcolumn => .quoteColumn ht (h column hcolumn)
  | selectAs column label => exact .text (by decide) (.aliased ht (.quoteColumn ht h.1) h.2)
  | selectExpr e label => exact .selectExpr ht h.1 h.2
  | selectRaw e => exact .rawEntry (by decide) h
  | selectSource source label =>
    rw [Call.marks, Call.edits]
    refine (source.spells ht h.1).statement.after fun m sql values hm => ?_
    cases label with
    | none => exact .entry (by decide) hm.parenthesized
    | some label => exact .entry (by decide) (hm.labelled ht (h.2 label rfl))
  | condition zone link p =>
    rw [Call.marks, Call.edits]
    exact p.traces ht zone.clause_ne_offset h
  | compareMany zone link comparisons =>
    rw [Call.marks, Call.edits]
    exact .batch ht zone.clause_ne_offset h
  | inMany lists =>
    rw [Call.marks, Call.edits]
    exact .map fun list hlist => .inCondition ht (by decide) (h list hlist) false list.2
  | nullMany negated columns =>
    rw [Call.marks, Call.edits]
    exact .map fun column hcolumn => .nullCondition ht (by decide) (h column hcolumn) negated
  | join kind table condition =>
    rw [Call.marks, Call.edits]
    exact .joinCondition ht h.2 (.plain (.quoteColumn ht h.1))
  | joinSource kind source label condition =>
    rw [Call.marks, Call.edits]
    exact ((source.spells ht h.1).tableStatement ht).after fun m sql values hm =>
      .joinCondition ht h.2.2 (hm.labelled ht h.2.1)
  | list listing columns direction =>
    rw [Call.marks, Call.edits]
    exact .texts listing.clause_ne_offset fun column hcolumn =>
      noPlaceholder_directed (.quoteColumn ht (h column hcolumn)) direction
  | listRaw listing e values => exact .rawEntry listing.clause_ne_offset h
  | listSource listing source direction =>
    rw [Call.marks, Call.edits]
    exact (source.spells ht h).statement.after fun m sql values hm =>
      .entry listing.clause_ne_offset (hm.directed direction)
  | limit count => exact .replace (.hole _)
  | limitRange offset count => exact .limitRange offset count
  | limitRaw e => exact .replaceRaw (.expression_nil h)
  | offset count => exact .replace (.hole _)
  | offsetRaw e => exact .replaceRaw (.expression_nil h)
  | page number => exact .singleton rfl trivial
  | perPage size => exact .singleton rfl trivial
  | forPage page size => exact (Traces.replace (.hole _)).append (.replace (.hole _))
  | union all source =>
    rw [Call.marks, Call.edits]
    exact (source.spells ht h).statement.after fun m sql values hm =>
      .raw (by decide) (hm.behind (by cases all <;> decide))
  | rowLock lock => exact .rowLock ht lock
  | lock sql => exact .singleton rfl h

/-- A condition of a clause, likewise. -/
theorem Predicate.traces {t : Target} (ht : t.Placeless) {clause : Clause} {link : Connective}
    (hc : clause ≠ .offset) (p : Predicate) (h : p.Balanced) :
    Traces (p.marks t clause link) (p.edits t clause link) := by
  cases p with
  | compare c => exact .comparison ht hc h
  | group calls =>
    rw [Predicate.marks, Predicate.edits]
    exact (callTraces ht calls h).nested t hc
  | compareSource column operator source =>
    rw [Predicate.marks, Predicate.edits]
    refine .after fun op hop => (source.spells ht h.2).statement.after fun m sql values hm => ?_
    exact .condition hc (hm.enclosed (.compared ht h.1 (Operator.not_mem_of_check hop)))
  | sourceCompare source operator value =>
    rw [Predicate.marks, Predicate.edits]
    refine .after fun op hop => (source.spells ht h).statement.after fun m sql values hm => ?_
    have hleft : NoPlaceholder "(" := by decide
    have hright : NoPlaceholder (") " ++ op ++ " ") :=
      .append (.append (by decide) (Operator.not_mem_of_prepare hop)) (by decide)
    refine .condition hc (((hm.between hleft hright).append (.hole value)).congr ?_)
    simp [String.append_assoc]
  | inList negated column values => exact .inCondition ht hc h negated values
  | inSource negated column source =>
    rw [Predicate.marks, Predicate.edits]
    refine (source.spells ht h.2).statement.after fun m sql values hm => .condition hc ?_
    exact hm.enclosed (.compared ht h.1 (noPlaceholder_negatedKeyword negated (by decide)))
  | null negated column => exact .nullCondition ht hc h negated
  | between negated column low high => exact .betweenCondition ht hc h negated low high
  | like negated subject pattern =>
    rw [Predicate.marks, Predicate.edits]
    refine (subject.spells ht h).after fun m sql values hm => .condition hc ?_
    have hlike : NoPlaceholder (" " ++ negatedKeyword negated "LIKE" ++ " ") :=
      .append (.append (by decide) (noPlaceholder_negatedKeyword negated (by decide))) (by decide)
    refine ((hm.before hlike).append (.hole pattern)).congr ?_
    simp [String.append_assoc]
  | existence negated source =>
    rw [Predicate.marks, Predicate.edits]
    refine (source.spells ht h).statement.after fun m sql values hm => .condition hc ?_
    exact hm.enclosed (noPlaceholder_negatedKeyword negated (by decide))
  | quantified quantifier column operator source =>
    rw [Predicate.marks, Predicate.edits]
    refine .after fun op hop => (source.spells ht h.2).statement.after fun m sql values hm => ?_
    have hleft := NoPlaceholder.compared ht h.1 (Operator.not_mem_of_check hop)
    have hquantifier : NoPlaceholder quantifier.keyword := by cases quantifier <;> decide
    exact .condition hc (hm.enclosed ((hleft.append (by decide)).append hquantifier))
  | raw e values => exact .rawCondition hc h

/-- A source is read with the values of its calls. -/
theorem Source.spells {t : Target} (ht : t.Placeless) (s : Source) (h : s.Balanced) :
    SpellsSource (s.marks t) (s.evaluate t) := by
  cases s with
  | text sql => exact .text h
  | raw e => exact .raw h
  | closure calls =>
    rw [Source.marks, Source.evaluate]
    exact .fresh t (callTraces ht calls h)
  | prepared target calls =>
    have hown : (target.getD t).Placeless := by
      cases target with
      | none => exact ht
      | some own => exact h.1 own rfl
    rw [Source.marks, Source.evaluate]
    exact .prepared hown (callTraces hown calls h.2)

/-- The left side of a pattern condition is read with the values of its source. -/
theorem Operand.spells {t : Target} (ht : t.Placeless) (o : Operand) (h : o.Balanced) :
    SpellsResult (o.marks t) (o.resolve t) := by
  cases o with
  | column name => exact .ok (.plain (.quoteColumn ht h))
  | source source =>
    have hs := (source.spells ht h).statement
    cases source with
    | raw e => exact hs
    | text sql => exact hs.parenthesized
    | closure calls => exact hs.parenthesized
    | prepared target calls => exact hs.parenthesized

/-- Calls one after the other. -/
theorem callTraces {t : Target} (ht : t.Placeless) (calls : List Call) (h : callsBalanced calls) :
    Traces (callMarks t calls) (callEdits t calls) := by
  cases calls with
  | nil => exact .nil
  | cons call rest =>
    rw [callMarks, callEdits]
    exact (call.traces ht h.1).append (callTraces ht rest h.2)

end

/-! ## The statement of calls -/

/-- **The marked SELECT of calls is a reading of their SELECT.** -/
theorem Builder.spells_calls {t : Target} (ht : t.Placeless) {calls : List Call}
    (h : callsBalanced calls) :
    Spells (markedSelect t calls) ((Builder.new t).calls calls).sql
      ((Builder.new t).calls calls).bindings := by
  rw [Builder.calls_eq_edits]
  exact (callTraces ht calls h).select t

/-- **The placeholders of a SELECT are its values**, whatever calls made it and however deep they
nest.  The marked statement, in which every call has put its values in place, has the text and the
values of the statement; so there are as many placeholders as values, the placeholder at any place is
that of the value which its call put there, and it is this value's turn in the bindings.  Literals
substituted for placeholders are the literals in place. -/
theorem Builder.select_aligned {t : Target} (ht : t.Placeless) {calls : List Call}
    (h : callsBalanced calls) :
    let b := (Builder.new t).calls calls
    let m := markedSelect t calls
    (m.sql = b.sql ∧ m.values = b.bindings) ∧
      b.sql.toList.count '?' = b.bindings.length ∧
      (∀ i, b.sql.toList[i]? = some '?' →
        ∃ v, m[i]? = some (.value v) ∧
          b.bindings[(b.sql.toList.take i).count '?']? = some v) ∧
      substitute b.sql.toList b.bindings = m.inlined := by
  have hm := Builder.spells_calls ht h
  exact ⟨⟨hm.sql, hm.values⟩, hm.count, fun i hi => hm.placeholder hi, hm.substitute⟩

/-- Placeholders in a joined sub-query, in the condition of the join, in a literal text with its own
value, in a group and in the limit. -/
theorem Builder.select_aligned_nested :
    let t : Target := ⟨.mysql, none⟩
    let calls : List Call :=
      [.tables ["users"],
        .joinSource .left
          (.closure [.tables ["orders"], .condition .wheres .and (.compare ⟨"paid", none, .int 1⟩)])
          "o"
          (.steps [.on .and "o.user" "=" "users.id", .compare .and ⟨"o.sum", some ">", .int 2⟩]),
        .condition .wheres .or (.raw ⟨"age = ? or age = ?", some (.int 3)⟩ [.int 4]),
        .condition .wheres .and
          (.group [.condition .wheres .and (.between false "id" (.int 5) (.int 6))]),
        .limit 7]
    (t.Placeless ∧ callsBalanced calls) ∧
      substitute ((Builder.new t).calls calls).sql.toList ((Builder.new t).calls calls).bindings =
        ("SELECT * FROM `users` LEFT JOIN (SELECT * FROM `orders` WHERE `paid` = 1) AS `o` " ++
          "ON `o`.`user` = `users`.`id` AND `o`.`sum` > 2 WHERE age = 3 or age = 4 " ++
          "AND (`id` BETWEEN 5 AND 6) LIMIT 7").toList := by
  intro t calls
  have ht : t.Placeless := Target.placeless_mysql none (by simp)
  have hcalls : callsBalanced calls := by
    simp [calls, callsBalanced, Call.Balanced, Predicate.Balanced, Source.Balanced,
      JoinCondition.Balanced, JoinStep.Balanced, Expression.Balanced, Expression.values,
      NoPlaceholder]
  refine ⟨⟨ht, hcalls⟩, (Builder.select_aligned ht hcalls).2.2.2.trans ?_⟩
  decide +kernel

end FluentSql
