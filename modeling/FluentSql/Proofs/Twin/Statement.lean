import FluentSql.Proofs.Twin.Call

/-!
# Proofs/Twin/Statement — MySQL and SQLite agree up to the quote

The same calls, without quotes in their words and without row locks, run in the two dialects, and the
same statement is then made of the two builders.  Both fail with one error, or both give one statement
with the same values, the second text being the first with its backticks turned into double quotes
(`Builder.compilation_requoted`).  The builders are twins by `Call.edits_twin`; what is left is one
lemma for each template and for the resolving of rows.
-/

namespace FluentSql

/-! ## Arguments in a dialect -/

/-- An assignment with its sub-query in a dialect. -/
def Assignment.inDialect (d : Dialect) : Assignment → Assignment
  | source s => source (s.inDialect d)
  | a => a

/-- **A compilation with its arguments in a dialect.** -/
def Compilation.inDialect (d : Dialect) : Compilation → Compilation
  | insert rows => insert (rows.map (Record.map (Assignment.inDialect d)))
  | insertSource columns source => insertSource columns (source.inDialect d)
  | update values => update (values.map (Assignment.inDialect d))
  | c => c

/-! ## Rows -/

/-- **One column of a row in the two dialects**: its name has no quote, its texts are twins. -/
structure TwinEntry (e e' : String × Fragment) : Prop where
  column : e'.1 = e.1
  quoteless : Quoteless e.1
  value : TwinFragment e.2 e'.2

/-- Rows that are twins column by column. -/
abbrev TwinRow : List (String × Fragment) → List (String × Fragment) → Prop :=
  List.Forall₂ TwinEntry

/-- What is resolved to twins, with the same values. -/
def TwinResolved {α : Type} (R : α → α → Prop) (p p' : α × List Value) : Prop :=
  R p.1 p'.1 ∧ p'.2 = p.2

section Rows

variable {database : Option String} (hdatabase : ∀ name ∈ database, Quoteless name)

include hdatabase

theorem Assignment.resolve_twin {a : Assignment} (h : a.Uses quoteless) :
    Agree (TwinResolved TwinFragment) ((a.inDialect .mysql).resolve ⟨.mysql, database⟩)
      ((a.inDialect .sqlite).resolve ⟨.sqlite, database⟩) := by
  cases a with
  | value v => exact .ok ⟨.text (.plain (by decide)), rfl⟩
  | raw e => exact .ok ⟨.plain h, rfl⟩
  | source s =>
    exact (Source.evaluate_twin hdatabase h).statement.map fun s s' hs =>
      ⟨.text hs.sql.parenthesized, hs.bindings⟩

/-- One more column in front of a row. -/
theorem agree_row {a : Assignment} {column : String} (hcolumn : Quoteless column)
    (h : a.Uses quoteless) {r r' : Except BuildError (List (String × Fragment) × List Value)}
    (hr : Agree (TwinResolved TwinRow) r r') :
    Agree (TwinResolved TwinRow)
      (do
        let (fragment, values) ← (a.inDialect .mysql).resolve ⟨.mysql, database⟩
        let (row, more) ← r
        return ((column, fragment) :: row, values ++ more))
      (do
        let (fragment, values) ← (a.inDialect .sqlite).resolve ⟨.sqlite, database⟩
        let (row, more) ← r'
        return ((column, fragment) :: row, values ++ more)) := by
  refine (Assignment.resolve_twin hdatabase h).bind fun p p' hp => hr.bind fun q q' hq => ?_
  refine .ok ⟨.cons ⟨rfl, hcolumn, hp.1⟩ hq.1, ?_⟩
  simp only [hp.2, hq.2]

/-- **A row without quotes is resolved to twins.** -/
theorem resolveRow_twin {es : List (String × Assignment)}
    (h : ∀ e ∈ es, Quoteless e.1 ∧ e.2.Uses quoteless) :
    Agree (TwinResolved TwinRow)
      (resolveRow ⟨.mysql, database⟩ (es.map fun e => (e.1, e.2.inDialect .mysql)))
      (resolveRow ⟨.sqlite, database⟩ (es.map fun e => (e.1, e.2.inDialect .sqlite))) := by
  induction es with
  | nil => exact .ok ⟨.nil, rfl⟩
  | cons e es ih =>
    obtain ⟨hfirst, hrest⟩ := List.forall_mem_cons.mp h
    exact agree_row hdatabase hfirst.1 hfirst.2 (ih hrest)

theorem alignRow_twin (index : Nat) (columns : List String) {r : Record Assignment}
    (h : rowUses quoteless r) :
    Agree (TwinResolved TwinRow)
      (Builder.alignRow ⟨.mysql, database⟩ index columns (r.map (Assignment.inDialect .mysql)))
      (Builder.alignRow ⟨.sqlite, database⟩ index columns
        (r.map (Assignment.inDialect .sqlite))) := by
  induction columns generalizing r with
  | nil => exact .ok ⟨.nil, rfl⟩
  | cons column columns ih =>
    rw [Builder.alignRow, Builder.alignRow, Record.take?_map, Record.take?_map]
    cases htake : r.take? column with
    | none => exact .error _
    | some taken =>
      obtain ⟨a, s⟩ := taken
      have hentry := h _ (Record.mem_of_take? htake)
      exact agree_row hdatabase hentry.1 hentry.2
        (ih fun e he => h e (Record.subset_of_take? htake he))

theorem alignRows_twin (columns : List String) (index : Nat) {rows : List (Record Assignment)}
    (h : ∀ r ∈ rows, rowUses quoteless r) :
    Agree (TwinResolved (List.Forall₂ TwinRow))
      (Builder.alignRows ⟨.mysql, database⟩ columns index
        (rows.map (Record.map (Assignment.inDialect .mysql))))
      (Builder.alignRows ⟨.sqlite, database⟩ columns index
        (rows.map (Record.map (Assignment.inDialect .sqlite)))) := by
  induction rows generalizing index with
  | nil => exact .ok ⟨.nil, rfl⟩
  | cons r rows ih =>
    obtain ⟨hfirst, hrest⟩ := List.forall_mem_cons.mp h
    rw [List.map_cons, List.map_cons, Builder.alignRows, Builder.alignRows, Record.size_map,
      Record.size_map]
    split
    · exact .error _
    · refine (alignRow_twin hdatabase index columns hfirst).bind fun p p' hp =>
        (ih (index + 1) hrest).bind fun q q' hq => .ok ⟨.cons hp.1 hq.1, ?_⟩
      simp only [hp.2, hq.2]

end Rows

/-! ## Templates -/

/-- The columns of twin rows are the same, and have no quote. -/
theorem TwinRow.columns {row row' : List (String × Fragment)} (h : TwinRow row row') :
    row'.map Prod.fst = row.map Prod.fst ∧ ∀ column ∈ row.map Prod.fst, Quoteless column := by
  induction h with
  | nil => exact ⟨rfl, fun _ hc => absurd hc List.not_mem_nil⟩
  | cons he _ ih =>
    refine ⟨?_, List.forall_mem_cons.mpr ⟨he.quoteless, ih.2⟩⟩
    rw [List.map_cons, List.map_cons, he.column, ih.1]

theorem TwinRow.tuple {row row' : List (String × Fragment)} (h : TwinRow row row') :
    Twin (Dialect.tuple row) (Dialect.tuple row') := by
  refine Twin.parenthesized (.joinWith (by decide) ?_)
  rw [List.forall₂_map_left_iff, List.forall₂_map_right_iff]
  exact h.imp fun _ _ he => he.value.sql

namespace TwinQuery

variable {q q' : Query}

/-- **An INSERT of twin rows.** -/
theorem insert (h : TwinQuery q q') {rows rows' : List (List (String × Fragment))}
    (hrows : List.Forall₂ TwinRow rows rows') :
    Twin (Dialect.mysql.insert q rows) (Dialect.sqlite.insert q' rows') := by
  have htable : Twin ("INSERT INTO " ++ q.table) ("INSERT INTO " ++ q'.table) :=
    h.table.behind (by decide)
  cases hrows with
  | nil => exact htable.before (by decide)
  | cons hfirst hrest =>
    cases hfirst with
    | nil => exact htable.before (by decide)
    | @cons e e' first first' he hes =>
      have hrow : TwinRow (e :: first) (e' :: first') := .cons he hes
      have hcolumns : Twin (Dialect.mysql.columnList ((e :: first).map Prod.fst))
          (Dialect.sqlite.columnList ((e' :: first').map Prod.fst)) := by
        rw [hrow.columns.1]
        exact .columnList hrow.columns.2
      have hhead := ((htable.before (u := " (") (by decide)).append hcolumns).before
        (u := ") VALUES ") (by decide)
      refine hhead.append (.joinWith (by decide) ?_)
      rw [List.forall₂_map_left_iff, List.forall₂_map_right_iff]
      exact (List.Forall₂.cons hrow hrest).imp fun _ _ => TwinRow.tuple

/-- **An UPDATE by a twin row.** -/
theorem update (h : TwinQuery q q') {row row' : List (String × Fragment)} (hrow : TwinRow row row') :
    Twin (Dialect.mysql.update q row) (Dialect.sqlite.update q' row') := by
  have htable := (h.table.behind (u := "UPDATE ") (by decide)).append (h.spaced .joins)
  refine ((htable.before (by decide)).append (.joinWith (by decide) ?_)).append (h.spaced .wheres)
  rw [List.forall₂_map_left_iff, List.forall₂_map_right_iff]
  refine hrow.imp fun e e' he => ?_
  simp only
  rw [he.column]
  exact ((Twin.quoteColumn he.quoteless).before (by decide)).append he.value.sql

theorem count (h : TwinQuery q q') : Twin (Dialect.mysql.count q) (Dialect.sqlite.count q') := by
  have hcount : Twin (Dialect.mysql.aliased "COUNT(*)" "aggregate")
      (Dialect.sqlite.aliased "COUNT(*)" "aggregate") :=
    (Twin.plain (by decide)).aliased (by decide)
  exact ((hcount.behind (by decide)).before (by decide)).append
    (h.select.parenthesized.aliased (by decide))

end TwinQuery

theorem Twin.existence {s s' : String} (h : Twin s s') :
    Twin (Dialect.mysql.existence s) (Dialect.sqlite.existence s') :=
  ((((h.behind (by decide)).before (by decide)).aliased (by decide)).behind (by decide))

/-! ## Compilations -/

namespace Builder

variable {database : Option String} {b b' : Builder}

/-- **Twin builders have twin statements of every kind**, or the same error. -/
theorem compilation_twin (hdatabase : ∀ name ∈ database, Quoteless name) (h : TwinBuilder b b')
    (ht : b.target = ⟨.mysql, database⟩) (ht' : b'.target = ⟨.sqlite, database⟩) {c : Compilation}
    (hc : c.Uses quoteless) :
    Agree TwinStatement (b.compilation (c.inDialect .mysql))
      (b'.compilation (c.inDialect .sqlite)) := by
  cases c with
  | select => exact h.compile
  | insert rows =>
    simp only [Compilation.inDialect, compilation, insertStatement]
    rw [h.check, ht, ht', h.bindingsOf]
    refine .bind_self _ fun _ => ?_
    cases rows with
    | nil => exact .ok ⟨h.query.insert .nil, rfl⟩
    | cons first rest =>
      obtain ⟨hfirst, hrest⟩ := List.forall_mem_cons.mp hc
      simp only [List.map_cons, Record.isEmpty_map, List.isEmpty_map, Record.columns_map]
      split
      · exact .error _
      · refine (resolveRow_twin hdatabase hfirst).bind fun p p' hp =>
          (alignRows_twin hdatabase first.columns 1 hrest).bind fun q q' hq => .ok ⟨?_, ?_⟩
        · exact h.query.insert (.cons hp.1 hq.1)
        · simp only [hp.2, hq.2]
  | insertSource columns source =>
    simp only [Compilation.inDialect, compilation, insertSourceStatement, parse]
    rw [h.check, ht, ht', h.bindingsOf]
    refine .bind_self _ fun _ => (Source.evaluate_twin hdatabase hc.2).statement.bind
      fun s s' hs => .ok ⟨?_, congrArg (_ ++ ·) hs.bindings⟩
    have hcolumns := ((h.query.table.behind (u := "INSERT INTO ") (by decide)).before (u := " (")
      (by decide)).append (.columnList hc.1)
    exact (hcolumns.before (by decide)).append hs.sql
  | update values =>
    simp only [Compilation.inDialect, compilation, updateStatement, Record.isEmpty_map]
    rw [h.check, ht, ht', h.bindingsOf, h.bindingsOf]
    refine .bind_self _ fun _ => ?_
    split
    · exact .error _
    · refine (resolveRow_twin hdatabase hc).bind fun p p' hp => .ok ⟨h.query.update hp.1, ?_⟩
      simp only [hp.2]
  | delete =>
    simp only [Compilation.inDialect, compilation, deleteStatement]
    rw [h.check, h.bindingsOf]
    exact .bind_self _ fun _ => .ok ⟨h.query.delete, rfl⟩
  | count =>
    simp only [Compilation.inDialect, compilation, countStatement]
    rw [h.check, ht, ht']
    exact .bind_self _ fun _ => .ok ⟨h.query.count, h.query.bindings⟩
  | existence =>
    simp only [Compilation.inDialect, compilation, existsStatement]
    rw [ht, ht']
    exact h.compile.bind fun s s' hs => .ok ⟨hs.sql.existence, hs.bindings⟩

end Builder

/-! ## Two runs -/

/-- **A statement with every backtick of its text turned into a double quote.** -/
def Statement.requoted (s : Statement) : Statement := { s with sql := requote s.sql }

theorem TwinStatement.eq_requoted {s s' : Statement} (h : TwinStatement s s') : s' = s.requoted := by
  obtain ⟨sql', bindings'⟩ := s'
  obtain ⟨⟨rfl, -⟩, rfl⟩ := h
  rfl

/-- Results that agree on twins are the same up to the quote. -/
theorem Agree.requoted {r r' : Except BuildError Statement} (h : Agree TwinStatement r r') :
    r' = r.map Statement.requoted := by
  cases h with
  | error e => rfl
  | ok h => exact congrArg Except.ok h.eq_requoted

namespace Builder

/-- **MySQL and SQLite agree up to the quote.**  The calls may nest to any depth, with every prepared
builder in the dialect of the run; no name, alias, database, literal text or text of a sub-query or
lock has a quote, and no row lock is asked for by its kind.  Then the SELECT of SQLite is that of MySQL
with its backticks turned into double quotes, with the same values, and so is every statement made of
the two builders, unless both fail with the same error. -/
theorem compilation_requoted {database : Option String} {calls : List Call} {c : Compilation}
    (hdatabase : ∀ name ∈ database, Quoteless name) (hcalls : callsUse quoteless calls)
    (hc : c.Uses quoteless) :
    let b (d : Dialect) := (new ⟨d, database⟩).calls (callsInDialect d calls)
    ((b .sqlite).sql = requote (b .mysql).sql ∧ (b .sqlite).bindings = (b .mysql).bindings) ∧
      (b .sqlite).compilation (c.inDialect .sqlite) =
        ((b .mysql).compilation (c.inDialect .mysql)).map Statement.requoted := by
  intro b
  have hb : ∀ d, b d = ofEdits ⟨d, database⟩ (callEdits ⟨d, database⟩ (callsInDialect d calls)) :=
    fun d => calls_eq_edits _ _
  have htwin : TwinBuilder (b .mysql) (b .sqlite) := by
    rw [hb, hb]
    exact .ofEdits _ _ (callEdits_twin hdatabase hcalls)
  have htarget : ∀ d, (b d).target = ⟨d, database⟩ := fun d => by rw [hb, target_ofEdits]
  exact ⟨⟨htwin.query.select.eq, htwin.query.bindings⟩,
    (compilation_twin hdatabase htwin (htarget _) (htarget _) hc).requoted⟩

/-- An UPDATE behind a joined sub-query of another database, with quotes in the values alone. -/
theorem compilation_requoted_update :
    let calls : List Call :=
      [.tables ["users as u"],
        .joinSource .left
          (.prepared (some ⟨.mysql, some "archive"⟩)
            [.tables ["orders"], .condition .wheres .and (.compare ⟨"total", some ">", .int 10⟩)])
          "o" (.steps [.on .and "o.user_id" "=" "u.id", .within "o.state" [.text "a", .text "b"]]),
        .condition .wheres .or
          (.group [.condition .wheres .and (.like false (.column "u.name") (.text "`%")),
            .condition .wheres .or (.existence true (.closure [.tables ["t"], .limit 1]))]),
        .union true (.text "SELECT 1")]
    let row : List (String × Assignment) :=
      [("u.name", .value (.text "\"a\" `b`")), ("n", .raw ⟨"n + ?", some (.int 1)⟩),
        ("m", .source (.closure [.tables ["t"], .selectRaw ⟨"MAX(m)", none⟩]))]
    let c : Compilation := .update (.ofList row)
    let b (d : Dialect) := (new ⟨d, some "shop"⟩).calls (callsInDialect d calls)
    ((∀ name ∈ some "shop", Quoteless name) ∧ callsUse quoteless calls ∧ c.Uses quoteless) ∧
      ((b .sqlite).sql = requote (b .mysql).sql ∧ (b .sqlite).bindings = (b .mysql).bindings) ∧
      (b .sqlite).compilation (c.inDialect .sqlite) =
        ((b .mysql).compilation (c.inDialect .mysql)).map Statement.requoted := by
  intro calls row c b
  have hdatabase : ∀ name ∈ some "shop", Quoteless name := by
    simp only [Option.mem_some_iff, forall_eq']
    decide
  have hcalls : callsUse quoteless calls := by
    simp only [calls, callsUse, Call.Uses, Predicate.Uses, Source.Uses, Operand.Uses,
      JoinCondition.Uses, JoinStep.Uses, quoteless, Option.mem_some_iff, forall_eq',
      List.forall_mem_cons, List.not_mem_nil, false_imp_iff, forall_true_iff]
    decide
  have hc : c.Uses quoteless := by
    have hentries : (Record.ofList row).entries = row := rfl
    simp only [c, Compilation.Uses, rowUses, hentries, row, List.forall_mem_cons, Assignment.Uses,
      Source.Uses, callsUse, Call.Uses, quoteless, List.not_mem_nil, false_imp_iff, forall_true_iff]
    decide
  exact ⟨⟨hdatabase, hcalls, hc⟩, compilation_requoted hdatabase hcalls hc⟩

end Builder

end FluentSql
