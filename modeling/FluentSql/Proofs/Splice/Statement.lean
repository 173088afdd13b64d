import FluentSql.Builder.Meaning
import FluentSql.Proofs.Failure.Statement
import FluentSql.Proofs.Splice.Query

/-!
# Proofs/Splice/Statement — statements with one gap

Whatever statement is made of a query with a gap, the gap is in it or the clause with the gap is not
used: a SELECT uses every clause (`QueryGap.select`), the others only some (`QueryGap.template`).  A
statement with a gap inside an entry is an entry with a gap again, so gaps pass from nested queries to
the queries around them (`EditsGapped.compile`, `EditsGapped.group`).
-/

namespace FluentSql

variable {ι : Type} {w : ι → String} {c : Clause}

/-! ## SELECT -/

section

variable {q : ι → Query} (h : QueryGap w c q) (hw : Visible w)

include h

theorem QueryGap.filterMap_of_notMem {cs : List Clause} (hc : c ∉ cs) :
    ∃ l, ∀ i, cs.filterMap (q i).clause? = l := by
  obtain ⟨q₀, hpart, -⟩ := h.base
  refine ⟨cs.filterMap q₀.clause?, fun i => List.filterMap_congr fun d hd => ?_⟩
  exact Query.clause?_congr (hpart i d fun hdc => hc (hdc ▸ hd))

include hw

/-- **Of the texts of some clauses one has the gap**, if the clause with the gap is among them. -/
theorem QueryGap.filterMap {cs : List Clause} (hnodup : cs.Nodup) (hc : c ∈ cs) :
    ∃ l f r, Spliced w f ∧ ∀ i, cs.filterMap (q i).clause? = l ++ f i :: r := by
  obtain ⟨cs, ds, rfl⟩ := List.append_of_mem hc
  obtain ⟨hds, hcs⟩ : c ∉ ds ∧ c ∉ cs := by
    rw [List.nodup_append, List.nodup_cons] at hnodup
    exact ⟨hnodup.2.1.1, fun hmem => hnodup.2.2 c hmem c List.mem_cons_self rfl⟩
  obtain ⟨l, hl⟩ := h.filterMap_of_notMem hcs
  obtain ⟨r, hr⟩ := h.filterMap_of_notMem hds
  obtain ⟨f, hf, hself⟩ := h.clause?_self hw
  refine ⟨l, f, r, hf, fun i => ?_⟩
  rw [List.filterMap_append, List.filterMap_cons, hself, hl, hr]

/-- The gap is in one of the texts up to the lock, unless it is in the unions. -/
theorem QueryGap.body (hunions : c ≠ .unions) :
    ∃ l f r, Spliced w f ∧ ∀ i, (q i).body = l ++ f i :: r := by
  obtain ⟨q₀, hpart, hlock⟩ := h.base
  by_cases hcolumns : c = .columns
  · subst hcolumns
    obtain ⟨f, hf, hself⟩ := h.clause?_self hw
    have hnone : Clause.columns ∉ Query.middle := by decide
    obtain ⟨middle, hmiddle⟩ := h.filterMap_of_notMem hnone
    refine ⟨[], f, middle ++ q₀.lock.toList, hf, fun i => ?_⟩
    rw [Query.body, hself, hmiddle, hlock]
    rfl
  · have hmem : c ∈ Query.middle := by
      have hoffset := h.1
      cases c <;> first | decide | contradiction
    obtain ⟨l, f, r, hf, hmiddle⟩ := h.filterMap hw (by decide) hmem
    refine ⟨(q₀.clause? .columns).getD "*" :: l, f, r ++ q₀.lock.toList, hf, fun i => ?_⟩
    rw [Query.body, hmiddle, hlock, Query.clause?_congr (hpart i .columns (Ne.symm hcolumns)),
      List.append_assoc]
    rfl

/-- **A SELECT has the gap of its query.** -/
theorem QueryGap.select : Anchored w fun i => (q i).select := by
  have hopens : Opens "SELECT " := ⟨'S', "ELECT ".toList, ' ', rfl, by decide, by decide, by decide⟩
  obtain ⟨q₀, hpart, hlock⟩ := h.base
  by_cases hunions : c = .unions
  · subst hunions
    obtain ⟨f, hf, hself⟩ := h.clause?_self hw
    have hbody (i : ι) : (q i).body = q₀.body := by
      rw [Query.body, Query.body, hlock, Query.clause?_congr (hpart i .columns (by decide))]
      congr 2
      exact List.filterMap_congr fun d hd =>
        Query.clause?_congr (hpart i d ((by decide : ∀ d ∈ Query.middle, d ≠ .unions) d hd))
    have hselect : (fun i => (q i).select) =
        fun i => "SELECT " ++ (Text.joinWith " " q₀.body ++ " " ++ f i) := by
      funext i
      rw [Query.select, hself, hbody]
      simp only [String.append_assoc]
    rw [hselect]
    exact (hf.behind _).anchored hopens
  · obtain ⟨l, f, r, hf, hbody⟩ := h.body hw hunions
    have hselect : (fun i => (q i).select) = fun i =>
        "SELECT " ++ Text.joinWith " " (l ++ f i :: r) ++
          (q₀.clause? .unions).elim "" (" " ++ ·) := by
      funext i
      rw [Query.select, hbody, Query.clause?_congr (hpart i .unions (Ne.symm hunions))]
      cases q₀.clause? .unions with
      | none => exact String.append_empty.symm
      | some unions => exact String.append_assoc ..
    rw [hselect]
    exact ((hf.joinWith " " l r).anchored hopens).before _

end

/-! ## Every statement -/

/-- **The form of a statement**: what it takes from a query, and the texts around it. -/
inductive Template
  /-- The whole SELECT. -/
  | around (before after : String)
  /-- The sources alone, as INSERT has them. -/
  | into (after : String)
  /-- The sources, joins and conditions, as UPDATE has them. -/
  | set (assignments : String)
  | delete

/-- The statement of a form and a query. -/
def Template.write (q : Query) : Template → String
  | around before after => before ++ q.select ++ after
  | into after => "INSERT INTO " ++ q.table ++ after
  | set assignments =>
    "UPDATE " ++ q.table ++ Query.spaced (q.clause? .joins) ++ assignments ++
      Query.spaced (q.clause? .wheres)
  | delete => q.delete

/-- INSERT takes the sources and nothing else from a query. -/
theorem Dialect.exists_insert (d : Dialect) (rows : List (List (String × Fragment))) :
    ∃ s, ∀ q : Query, d.insert q rows = "INSERT INTO " ++ q.table ++ s := by
  match rows with
  | [] | [] :: _ => exact ⟨" DEFAULT VALUES", fun _ => rfl⟩
  | (e :: first) :: rest =>
    refine ⟨" (" ++ d.columnList ((e :: first).map Prod.fst) ++ ") VALUES " ++
      Text.joinWith ", " (((e :: first) :: rest).map tuple), fun q => ?_⟩
    have hinsert : d.insert q ((e :: first) :: rest) = "INSERT INTO " ++ q.table ++ " (" ++
        d.columnList ((e :: first).map Prod.fst) ++ ") VALUES " ++
        Text.joinWith ", " (((e :: first) :: rest).map tuple) := rfl
    rw [hinsert]
    simp only [String.append_assoc]

/-- **A statement whose form depends on the target alone**, once nothing has failed: what it takes from
a builder is the query. -/
def Builder.Formed (t : Target) (f : Builder → Except BuildError Statement) : Prop :=
  ∃ r : Except BuildError Template, ∀ b : Builder, b.error = none → b.target = t →
    (f b).map Statement.sql = r.map (Template.write b.query)

namespace Builder.Formed

variable {t : Target} {f g : Builder → Except BuildError Statement}

theorem congr (h : ∀ b : Builder, b.error = none → b.target = t → f b = g b) (hg : Formed t g) :
    Formed t f := by
  obtain ⟨r, hr⟩ := hg
  exact ⟨r, fun b hb ht => by rw [h b hb ht, hr b hb ht]⟩

/-- A text of some form. -/
theorem ok (form : Template) {sql : Builder → String} {values : Builder → List Value}
    (h : ∀ b, sql b = form.write b.query) : Formed t fun b => .ok ⟨sql b, values b⟩ :=
  ⟨.ok form, fun b _ _ => congrArg Except.ok (h b)⟩

/-- **What is resolved first does not depend on the builder.** -/
theorem bind {α : Type} (r : Except BuildError α) {f : α → Builder → Except BuildError Statement}
    (h : ∀ a, Formed t (f a)) : Formed t fun b => r >>= fun a => f a b := by
  cases r with
  | error e => exact ⟨.error e, fun _ _ _ => rfl⟩
  | ok a => exact h a

/-- A condition that is refused does not depend on the builder either. -/
theorem guard {p : Prop} [Decidable p] {e : BuildError} (h : Formed t f) :
    Formed t fun b => if p then .error e else f b := by
  by_cases hp : p
  · exact .congr (fun _ _ _ => if_pos hp) ⟨.error e, fun _ _ _ => rfl⟩
  · exact .congr (fun _ _ _ => if_neg hp) h

/-- The check that nothing has failed is passed. -/
theorem checked (h : Formed t f) : Formed t fun b => b.check >>= fun _ => f b :=
  .congr (fun b hb _ => by rw [check, hb]; rfl) h

/-- The target of a builder may be taken for the target. -/
theorem target (f : Target → Builder → Except BuildError Statement) (h : Formed t (f t)) :
    Formed t fun b => f b.target b :=
  .congr (fun b _ ht => by rw [ht]) h

end Builder.Formed

namespace Builder

variable (t : Target)

theorem formed_insert (rows : List (Record Assignment)) :
    Formed t fun b => b.insertStatement rows := by
  cases rows with
  | nil => exact .checked (.ok (.into " DEFAULT VALUES") fun b => rfl)
  | cons first rest =>
    refine .checked (.target (fun t b => if first.isEmpty ∧ ¬ rest.isEmpty then
        .error (.invalidArgument "cannot insert several rows that set no columns")
      else resolveRow t first.entries >>= fun row => alignRows t first.columns 1 rest >>= fun rows =>
        .ok ⟨t.dialect.insert b.query (row.1 :: rows.1), b.bindingsOf [.froms] ++ row.2 ++ rows.2⟩)
      (.guard (.bind _ fun row => .bind _ fun rows => ?_)))
    obtain ⟨s, hs⟩ := t.dialect.exists_insert (row.1 :: rows.1)
    exact .ok (.into s) fun b => hs b.query

theorem formed_insertSource (columns : List String) (source : Source) :
    Formed t fun b => b.insertSourceStatement columns source := by
  refine .checked (.target (fun t b => (source.evaluate t).statement >>= fun s =>
    .ok ⟨t.dialect.insertUsing b.query columns s.sql, b.bindingsOf [.froms] ++ s.bindings⟩)
    (.bind _ fun s => .ok (.into (" (" ++ t.dialect.columnList columns ++ ") " ++ s.sql)) fun b => ?_))
  have hinsert : t.dialect.insertUsing b.query columns s.sql = "INSERT INTO " ++ b.query.table ++
      " (" ++ t.dialect.columnList columns ++ ") " ++ s.sql := rfl
  rw [hinsert, Template.write]
  simp only [String.append_assoc]

theorem formed_update (values : Record Assignment) :
    Formed t fun b => b.updateStatement values := by
  refine .checked (.target (fun t b => if values.isEmpty then
      .error (.invalidArgument "update requires at least one column")
    else resolveRow t values.entries >>= fun row => .ok ⟨t.dialect.update b.query row.1,
      b.bindingsOf [.froms, .joins] ++ row.2 ++ b.bindingsOf [.wheres]⟩)
    (.guard (.bind _ fun row => .ok (.set (" SET " ++ Text.joinWith ", "
      (row.1.map fun e => t.dialect.quoteColumn e.1 ++ " = " ++ e.2.sql))) fun b => ?_)))
  have hupdate : t.dialect.update b.query row.1 = "UPDATE " ++ b.query.table ++
      Query.spaced (b.query.clause? .joins) ++ " SET " ++ Text.joinWith ", "
        (row.1.map fun e => t.dialect.quoteColumn e.1 ++ " = " ++ e.2.sql) ++
      Query.spaced (b.query.clause? .wheres) := rfl
  rw [hupdate, Template.write]
  simp only [String.append_assoc]

theorem formed_count : Formed t countStatement := by
  refine .checked (.target (fun t b => .ok ⟨t.dialect.count b.query, b.bindings⟩)
    (.ok (.around ("SELECT " ++ t.dialect.aliased "COUNT(*)" "aggregate" ++ " FROM (")
      (") AS " ++ t.dialect.quoteIdentifier "aggregate_table")) fun b => ?_))
  simp only [Dialect.count, Dialect.aliased, Template.write, String.append_assoc]
  rfl

theorem formed_exists : Formed t existsStatement := by
  have hcheck : existsStatement = fun b =>
      b.check >>= fun _ => .ok ⟨b.target.dialect.existence b.sql, b.bindings⟩ := by
    funext b
    rw [existsStatement, compile]
    cases b.check <;> rfl
  rw [hcheck]
  refine .checked (.target (fun t b => .ok ⟨t.dialect.existence b.sql, b.bindings⟩)
    (.ok (.around "SELECT EXISTS(" (") AS " ++ t.dialect.quoteIdentifier "exists")) fun b => ?_))
  simp only [Dialect.existence, Dialect.aliased, Template.write, String.append_assoc]
  rfl

/-- **Every statement has a form.** -/
theorem formed (k : Compilation) : Formed t fun b => b.compilation k := by
  cases k with
  | select =>
    refine .checked (.ok (.around "" "") fun b => ?_)
    rw [Template.write, String.empty_append, String.append_empty]
    rfl
  | insert rows => exact formed_insert t rows
  | insertSource columns source => exact formed_insertSource t columns source
  | update values => exact formed_update t values
  | delete => exact .checked (.ok .delete fun b => rfl)
  | count => exact formed_count t
  | existence => exact formed_exists t

end Builder

section

variable {q : ι → Query} (h : QueryGap w c q) (hw : Visible w)

include h

/-- The sources without their keyword have the gap if it is in a source. -/
theorem QueryGap.table : Fixed (fun i => (q i).table) ∨ c = .froms ∧ Spliced w fun i => (q i).table := by
  by_cases hc : c = .froms
  · subst hc
    obtain ⟨-, f, ⟨hf, -⟩, q₀, fs, gs, hq⟩ := h
    have htable : (fun i => (q i).table) = fun i =>
        Text.joinWith ", " (fs.map Fragment.sql ++ (f i).sql :: gs.map Fragment.sql) := by
      funext i
      rw [Query.table, hq, Query.part_withFragments, Fragment.join, List.map_append, List.map_cons]
    rw [htable]
    exact .inr ⟨rfl, hf.spliced.joinWith ", " _ _⟩
  · exact .inl ((h.part (Ne.symm hc)).map fun p => Fragment.join ", " p.fragments)

include hw

theorem QueryGap.spaced (d : Clause) :
    Fixed (fun i => Query.spaced ((q i).clause? d)) ∨
      c = d ∧ Spliced w fun i => Query.spaced ((q i).clause? d) := by
  by_cases hc : c = d
  · subst hc
    obtain ⟨f, hf, hself⟩ := h.clause?_self hw
    have hspaced : (fun i => Query.spaced ((q i).clause? c)) = fun i => " " ++ f i :=
      funext fun i => by rw [hself]; rfl
    rw [hspaced]
    exact .inr ⟨rfl, hf.behind " "⟩
  · exact .inl ((h.clause?_of_ne (Ne.symm hc)).map Query.spaced)

/-- **A statement has the gap of its query or does not show it.** -/
theorem QueryGap.template (form : Template) :
    Fixed (fun i => form.write (q i)) ∨ Spliced w fun i => form.write (q i) := by
  cases form with
  | around before after => exact .inr (((h.select hw).spliced.behind before).before after)
  | into after =>
    exact h.table.imp (·.map fun s => "INSERT INTO " ++ s ++ after)
      fun htable => (htable.2.behind "INSERT INTO ").before after
  | delete =>
    by_cases hc : c ∈ [.froms, .joins, .wheres]
    · obtain ⟨l, f, r, hf, hclauses⟩ := h.filterMap hw (by decide) hc
      have hdelete : (fun i => Template.delete.write (q i)) =
          fun i => "DELETE " ++ Text.joinWith " " (l ++ f i :: r) :=
        funext fun i => by rw [Template.write, Query.delete, hclauses]
      rw [hdelete]
      exact .inr ((hf.joinWith " " l r).behind "DELETE ")
    · obtain ⟨l, hl⟩ := h.filterMap_of_notMem hc
      exact .inl ⟨"DELETE " ++ Text.joinWith " " l,
        fun i => congrArg (fun cs => "DELETE " ++ Text.joinWith " " cs) (hl i)⟩
  | set assignments =>
    -- the three clauses are different ones, so the gap is in one of them at most
    rcases h.table with htable | ⟨hc, htable⟩
    · rcases h.spaced hw .joins with hjoins | ⟨hc, hjoins⟩
      · have hfront := (((Fixed.of "UPDATE ").append htable).append hjoins).append (.of assignments)
        exact (h.spaced hw .wheres).imp hfront.append fun hwheres => hfront.append_spliced hwheres.2
      · have hwheres := h.clause?_of_ne (d := .wheres) (by rw [hc]; nofun)
        exact .inr ((((Fixed.of "UPDATE ").append htable).append_spliced hjoins).before
          assignments |>.append_fixed (hwheres.map Query.spaced))
    · have hjoins := h.clause?_of_ne (d := .joins) (by rw [hc]; nofun)
      have hwheres := h.clause?_of_ne (d := .wheres) (by rw [hc]; nofun)
      exact .inr ((((htable.behind "UPDATE ").append_fixed (hjoins.map Query.spaced)).before
        assignments).append_fixed (hwheres.map Query.spaced))

end

end FluentSql
