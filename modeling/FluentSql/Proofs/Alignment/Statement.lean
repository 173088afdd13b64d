import FluentSql.Proofs.Alignment.Select
import FluentSql.Proofs.Compilation

/-!
# Proofs/Alignment/Statement — placeholders and values of every other statement

INSERT, UPDATE, DELETE and the questions about a SELECT list their values by hand, clause after
clause.  `Compilation.marks` writes the same statements with every value in its place.  The two agree
(`Compilation.spells`): a statement binds the values of the clauses it writes, in the order in which
it writes them, and no others.
-/

namespace FluentSql

open Marked (plain hole fill joinWith)

/-! ## Assignments in place -/

/-- **An assignment with its values in place.** -/
def Assignment.marks (t : Target) : Assignment → Except BuildError Marked
  | value v => .ok (hole v)
  | raw e => .ok (fill e.text.toList e.values)
  | source s => (s.marks t).statement.map fun m => plain "(" ++ m ++ plain ")"

/-- **The assignments of a row**, each column with its text and the values in it. -/
def markRow (t : Target) :
    List (String × Assignment) → Except BuildError (List (String × Marked))
  | [] => .ok []
  | (column, a) :: rest => do
    let m ← a.marks t
    let row ← markRow t rest
    return (column, m) :: row

/-- A later row in the column order of the first. -/
def markAligned (t : Target) (index : Nat) :
    List String → Record Assignment → Except BuildError (List (String × Marked))
  | [], _ => .ok []
  | column :: columns, r =>
    match r.take? column with
    | none => .error (Builder.rowMismatch index)
    | some (a, r) => do
      let m ← a.marks t
      let row ← markAligned t index columns r
      return (column, m) :: row

/-- The rows after the first, numbered from one. -/
def markAlignedRows (t : Target) (columns : List String) :
    Nat → List (Record Assignment) → Except BuildError (List (List (String × Marked)))
  | _, [] => .ok []
  | index, r :: rest => do
    if r.size ≠ columns.length then throw (Builder.rowMismatch index)
    let row ← markAligned t index columns r
    let rows ← markAlignedRows t columns (index + 1) rest
    return row :: rows

/-! ## Statements in place -/

namespace MarkedQuery

/-- The sources of a query without their keyword. -/
def table (q : MarkedQuery) : Marked := joinWith ", " ((q.part .froms).map Entry.body)

/-- An optional clause behind a space. -/
def spaced (clause : Option Marked) : Marked := clause.elim [] fun m => plain " " ++ m

/-- **DELETE**: sources, joins, conditions. -/
def delete (q : MarkedQuery) : Marked :=
  plain "DELETE " ++ joinWith " " ([.froms, .joins, .wheres].filterMap q.clause?)

/-- A column set to a text. -/
def assignment (d : Dialect) (entry : String × Marked) : Marked :=
  plain (d.quoteColumn entry.1 ++ " = ") ++ entry.2

/-- **UPDATE**: sources, joins, assignments in the order of the record, conditions. -/
def update (d : Dialect) (q : MarkedQuery) (row : List (String × Marked)) : Marked :=
  plain "UPDATE " ++ q.table ++ spaced (q.clause? .joins) ++ plain " SET " ++
    joinWith ", " (row.map (assignment d)) ++ spaced (q.clause? .wheres)

/-- The values of one inserted row in parentheses. -/
def tuple (row : List (String × Marked)) : Marked :=
  plain "(" ++ joinWith ", " (row.map Prod.snd) ++ plain ")"

/-- **INSERT**: sources, then row after row. -/
def insert (d : Dialect) (q : MarkedQuery) : List (List (String × Marked)) → Marked
  | [] | [] :: _ => plain "INSERT INTO " ++ q.table ++ plain " DEFAULT VALUES"
  | (entry :: first) :: rest =>
    plain "INSERT INTO " ++ q.table ++
      plain (" (" ++ d.columnList ((entry :: first).map Prod.fst) ++ ") VALUES ") ++
      joinWith ", " (((entry :: first) :: rest).map tuple)

/-- INSERT of the rows of a SELECT. -/
def insertUsing (d : Dialect) (q : MarkedQuery) (columns : List String) (m : Marked) : Marked :=
  plain "INSERT INTO " ++ q.table ++ plain (" (" ++ d.columnList columns ++ ") ") ++ m

/-- How many rows a SELECT has. -/
def count (d : Dialect) (q : MarkedQuery) : Marked :=
  plain ("SELECT " ++ d.aliased "COUNT(*)" "aggregate" ++ " FROM (") ++ q.select ++
    plain (")" ++ " AS " ++ d.quoteIdentifier "aggregate_table")

end MarkedQuery

/-- Whether a SELECT has a row. -/
def Marked.existence (d : Dialect) (m : Marked) : Marked :=
  plain "SELECT EXISTS(" ++ m ++ plain (")" ++ " AS " ++ d.quoteIdentifier "exists")

/-- The error of marked edits, as a failure. -/
def MarkedEdit.check (ms : List MarkedEdit) : Except BuildError Unit :=
  match firstError ms with
  | some e => .error e
  | none => .ok ()

/-- **The statement of a compilation, every value in its place.** -/
def Compilation.marks (t : Target) (ms : List MarkedEdit) :
    Compilation → Except BuildError Marked
  | select => MarkedEdit.compile ms
  | insert [] => do
    MarkedEdit.check ms
    return (MarkedQuery.ofEdits ms).insert t.dialect []
  | insert (first :: rest) => do
    MarkedEdit.check ms
    if first.isEmpty ∧ ¬ rest.isEmpty then
      throw (.invalidArgument "cannot insert several rows that set no columns")
    let row ← markRow t first.entries
    let rows ← markAlignedRows t first.columns 1 rest
    return (MarkedQuery.ofEdits ms).insert t.dialect (row :: rows)
  | insertSource columns source => do
    MarkedEdit.check ms
    let m ← (source.marks t).statement
    return (MarkedQuery.ofEdits ms).insertUsing t.dialect columns m
  | update values => do
    MarkedEdit.check ms
    if values.isEmpty then throw (.invalidArgument "update requires at least one column")
    let row ← markRow t values.entries
    return (MarkedQuery.ofEdits ms).update t.dialect row
  | delete => do
    MarkedEdit.check ms
    return (MarkedQuery.ofEdits ms).delete
  | count => do
    MarkedEdit.check ms
    return (MarkedQuery.ofEdits ms).count t.dialect
  | existence => do
    let m ← MarkedEdit.compile ms
    return m.existence t.dialect

/-! ## Balanced arguments -/

/-- An assignment whose placeholders are all accounted for. -/
def Assignment.Balanced : Assignment → Prop
  | value _ => True
  | raw e => e.Balanced []
  | source s => s.Balanced

/-- **A record whose placeholders are all accounted for**, none of them in a column. -/
def Record.Balanced (r : Record Assignment) : Prop :=
  ∀ e ∈ r.entries, NoPlaceholder e.1 ∧ e.2.Balanced

/-- **A compilation whose placeholders are all accounted for.** -/
def Compilation.Balanced : Compilation → Prop
  | insert rows => ∀ r ∈ rows, r.Balanced
  | insertSource columns source => (∀ column ∈ columns, NoPlaceholder column) ∧ source.Balanced
  | update values => values.Balanced
  | select | delete | count | existence => True

/-! ## Rows read with their values -/

/-- **A row with values in place is a reading of a row**: the same columns with the same texts, and
the values in the order of the row. -/
structure SpellsRow (ms : List (String × Marked)) (row : List (String × Fragment))
    (values : List Value) : Prop where
  texts : ms.map (fun e => (e.1, e.2.sql)) = row.map fun e => (e.1, e.2.sql)
  values : ms.flatMap (fun e => e.2.values) = values
  clean : ∀ e ∈ ms, NoPlaceholder e.1 ∧ e.2.Clean

namespace SpellsRow

theorem nil : SpellsRow [] [] [] := ⟨rfl, rfl, fun _ h => absurd h List.not_mem_nil⟩

theorem cons {column : String} {m : Marked} {f : Fragment} {values more : List Value}
    {ms : List (String × Marked)} {row : List (String × Fragment)} (hc : NoPlaceholder column)
    (h : Spells m f.sql values) (hrow : SpellsRow ms row more) :
    SpellsRow ((column, m) :: ms) ((column, f) :: row) (values ++ more) where
  texts := by rw [List.map_cons, List.map_cons, hrow.texts, h.sql]
  values := by rw [List.flatMap_cons, hrow.values, h.values]
  clean := List.forall_mem_cons.mpr ⟨⟨hc, h.clean⟩, hrow.clean⟩

/-- Texts made of the columns and texts of a row are the same on both sides. -/
theorem map_texts {ms : List (String × Marked)} {row : List (String × Fragment)}
    {values : List Value} (h : SpellsRow ms row values) (write : String × String → String) :
    ms.map (fun e => write (e.1, e.2.sql)) = row.map fun e => write (e.1, e.2.sql) := by
  have := congrArg (List.map write) h.texts
  rwa [List.map_map, List.map_map] at this

end SpellsRow

/-- **Rows with values in place are a reading of rows**, one after the other. -/
inductive SpellsRows :
    List (List (String × Marked)) → List (List (String × Fragment)) → List Value → Prop
  | nil : SpellsRows [] [] []
  | cons {ms : List (String × Marked)} {row : List (String × Fragment)} {values more : List Value}
    {mss : List (List (String × Marked))} {rows : List (List (String × Fragment))}
    (h : SpellsRow ms row values) (hrest : SpellsRows mss rows more) :
    SpellsRows (ms :: mss) (row :: rows) (values ++ more)

section Rows

variable {t : Target} (ht : t.Placeless)

include ht

theorem Assignment.spells (a : Assignment) (h : a.Balanced) :
    Agree (fun m p => Spells m p.1.sql p.2) (a.marks t) (a.resolve t) := by
  cases a with
  | value v => exact .ok (.hole v)
  | raw e => exact .ok (.expression_nil h)
  | source s => exact (s.spells ht h).statement.map fun _ _ hm => hm.parenthesized

/-- **A row is read assignment by assignment**, and sets the columns it is given for. -/
theorem spells_row {es : List (String × Assignment)}
    (h : ∀ e ∈ es, NoPlaceholder e.1 ∧ e.2.Balanced) :
    Agree (fun ms p => SpellsRow ms p.1 p.2 ∧ ms.map Prod.fst = es.map Prod.fst) (markRow t es)
      (resolveRow t es) := by
  induction es with
  | nil => exact .ok ⟨.nil, rfl⟩
  | cons e es ih =>
    obtain ⟨⟨hcolumn, ha⟩, hrest⟩ := List.forall_mem_cons.mp h
    refine (e.2.spells ht ha).bind fun m p hm => (ih hrest).bind fun ms q hrow => ?_
    obtain ⟨hrow, hcolumns⟩ := hrow
    exact .ok ⟨.cons hcolumn hm hrow, congrArg (e.1 :: ·) hcolumns⟩

/-- **A later row is read in the column order of the first.** -/
theorem spells_aligned {columns : List String} (hcolumns : ∀ c ∈ columns, NoPlaceholder c)
    (index : Nat) {r : Record Assignment} (h : r.Balanced) :
    Agree (fun ms p => SpellsRow ms p.1 p.2) (markAligned t index columns r)
      (Builder.alignRow t index columns r) := by
  induction columns generalizing r with
  | nil => exact .ok .nil
  | cons column columns ih =>
    obtain ⟨hcolumn, hrest⟩ := List.forall_mem_cons.mp hcolumns
    rw [markAligned, Builder.alignRow]
    cases hr : r.take? column with
    | none => exact .error _
    | some taken =>
      obtain ⟨a, s⟩ := taken
      have ha : a.Balanced := (h _ (Record.mem_of_take? hr)).2
      have hs : s.Balanced := fun e he => h e (Record.subset_of_take? hr he)
      refine (a.spells ht ha).bind fun m p hm => ?_
      exact (ih hrest hs).bind fun ms q hrow => .ok (.cons hcolumn hm hrow)

/-- The rows after the first are read one after the other. -/
theorem spells_alignedRows {columns : List String} (hcolumns : ∀ c ∈ columns, NoPlaceholder c)
    (index : Nat) {rows : List (Record Assignment)} (h : ∀ r ∈ rows, r.Balanced) :
    Agree (fun mss p => SpellsRows mss p.1 p.2) (markAlignedRows t columns index rows)
      (Builder.alignRows t columns index rows) := by
  induction rows generalizing index with
  | nil => exact .ok .nil
  | cons r rows ih =>
    obtain ⟨hr, hrest⟩ := List.forall_mem_cons.mp h
    rw [markAlignedRows, Builder.alignRows]
    split
    · exact .error _
    · refine (spells_aligned ht hcolumns index hr).bind fun ms p hrow => ?_
      exact (ih _ hrest).bind fun mss q hrows => .ok (.cons hrow hrows)

end Rows

/-! ## Templates read with their values -/

namespace MarkedQuery

variable {q : MarkedQuery} (hq : q.Clean)

/-- An optional clause is read behind its space. -/
theorem SpellsClause.spaced {m : Option Marked} {sql : Option String} {values : List Value}
    (h : SpellsClause m sql values) :
    Spells (MarkedQuery.spaced m) (Query.spaced sql) values := by
  rw [← h.sql, ← h.values]
  cases m with
  | none => exact .nil
  | some m => exact (Spells.refl (h.clean m rfl)).behind (by decide)

include hq

/-- The values of the sources are read in the table. -/
theorem spells_table : Spells q.table q.unmarked.table (q.unmarked.part .froms).bindings := by
  rw [Query.table, part_unmarked]
  exact spells_joinWith (by decide) (hq.entries .froms)

/-- **DELETE binds sources, joins and conditions.** -/
theorem spells_delete : Spells q.delete q.unmarked.delete
    ([.froms, .joins, .wheres].flatMap fun c => (q.unmarked.part c).bindings) := by
  obtain ⟨hsql, hvalues, hclean⟩ := spells_filterMap hq [.froms, .joins, .wheres]
  exact (Spells.joinWith (by decide) hsql hvalues hclean).behind (by decide)

variable {t : Target} (ht : t.Placeless)

include ht

/-- **UPDATE binds sources and joins, then what it sets, then conditions.** -/
theorem spells_update {ms : List (String × Marked)} {row : List (String × Fragment)}
    {values : List Value} (h : SpellsRow ms row values) :
    Spells (q.update t.dialect ms) (t.dialect.update q.unmarked row)
      ((q.unmarked.part .froms).bindings ++ (q.unmarked.part .joins).bindings ++ values ++
        (q.unmarked.part .wheres).bindings) := by
  have hset : Spells (joinWith ", " (ms.map (assignment t.dialect)))
      (Text.joinWith ", " (row.map fun e => t.dialect.quoteColumn e.1 ++ " = " ++ e.2.sql))
      values := by
    refine .joinWith (by decide) ?_ ?_ (List.forall_mem_map.mpr fun e he => ?_)
    · rw [List.map_map, ← h.map_texts fun e => t.dialect.quoteColumn e.1 ++ " = " ++ e.2]
      exact List.map_congr_left fun e _ => by simp [assignment]
    · rw [List.flatMap_map, ← h.values]
      exact List.flatMap_congr fun e _ => by simp [assignment]
    · obtain ⟨hcolumn, hclean⟩ := h.clean e he
      exact ((Spells.refl hclean).behind (.append (.quoteColumn ht hcolumn) (by decide))).clean
  have hjoins := (q.spellsClause hq .joins).spaced
  have hwheres := (q.spellsClause hq .wheres).spaced
  have hupdate : NoPlaceholder "UPDATE " := by decide
  have htable := (spells_table hq).behind hupdate
  exact (((htable.append hjoins).before (by decide)).append hset).append hwheres

omit hq ht in
/-- The texts of a row in parentheses. -/
theorem spells_tuple {ms : List (String × Marked)} {row : List (String × Fragment)}
    {values : List Value} (h : SpellsRow ms row values) :
    Spells (tuple ms) (Dialect.tuple row) values := by
  refine Spells.parenthesized (.joinWith (by decide) ?_ ?_ ?_)
  · rw [List.map_map, ← h.map_texts Prod.snd]
    rfl
  · rw [List.flatMap_map]
    exact h.values
  · exact List.forall_mem_map.mpr fun e he => (h.clean e he).2

omit hq ht in
/-- **Rows in parentheses are read row by row.** -/
theorem spells_tuples {mss : List (List (String × Marked))}
    {rows : List (List (String × Fragment))} {values : List Value}
    (h : SpellsRows mss rows values) :
    Spells (joinWith ", " (mss.map tuple)) (Text.joinWith ", " (rows.map Dialect.tuple))
      values := by
  have hall : (mss.map tuple).map Marked.sql = rows.map Dialect.tuple ∧
      (mss.map tuple).flatMap Marked.values = values ∧ ∀ m ∈ mss.map tuple, m.Clean := by
    induction h with
    | nil => exact ⟨rfl, rfl, fun _ h => absurd h List.not_mem_nil⟩
    | cons hrow _ ih =>
      obtain ⟨hsql, hvalues, hclean⟩ := ih
      have htuple := spells_tuple hrow
      refine ⟨?_, ?_, List.forall_mem_cons.mpr ⟨htuple.clean, hclean⟩⟩
      · rw [List.map_cons, List.map_cons, List.map_cons, htuple.sql, hsql]
      · rw [List.map_cons, List.flatMap_cons, htuple.values, hvalues]
  exact .joinWith (by decide) hall.1 hall.2.1 hall.2.2

omit ht in
/-- An INSERT without columns binds the values of its sources. -/
theorem spells_insertDefaults {mss : List (List (String × Marked))}
    {rows : List (List (String × Fragment))}
    (h : mss = [] ∧ rows = [] ∨ mss = [[]] ∧ rows = [[]]) :
    Spells (q.insert t.dialect mss) (t.dialect.insert q.unmarked rows)
      (q.unmarked.part .froms).bindings := by
  have hinsert : NoPlaceholder "INSERT INTO " := by decide
  have hdefaults : NoPlaceholder " DEFAULT VALUES" := by decide
  have htable := (spells_table hq).between hinsert hdefaults
  rcases h with ⟨rfl, rfl⟩ | ⟨rfl, rfl⟩ <;> exact htable

/-- **INSERT binds its sources, then row after row.** -/
theorem spells_insert {ms : List (String × Marked)} {row : List (String × Fragment)}
    {values more : List Value} {mss : List (List (String × Marked))}
    {rows : List (List (String × Fragment))} (hms : ms ≠ []) (h : SpellsRow ms row values)
    (hrest : SpellsRows mss rows more) :
    Spells (q.insert t.dialect (ms :: mss)) (t.dialect.insert q.unmarked (row :: rows))
      ((q.unmarked.part .froms).bindings ++ (values ++ more)) := by
  have hcolumns : ms.map Prod.fst = row.map Prod.fst := h.map_texts Prod.fst
  have hlist : NoPlaceholder (" (" ++ t.dialect.columnList (ms.map Prod.fst) ++ ") VALUES ") :=
    .append (.append (by decide) (.columnList ht (List.forall_mem_map.mpr fun e he =>
      (h.clean e he).1))) (by decide)
  have hinsert : NoPlaceholder "INSERT INTO " := by decide
  have htable := (spells_table hq).between hinsert hlist
  have hall := htable.append (spells_tuples (.cons h hrest))
  obtain ⟨e, ms, rfl⟩ := List.exists_cons_of_ne_nil hms
  obtain ⟨f, row, rfl⟩ := List.exists_cons_of_ne_nil (l := row) fun hrow => by
    rw [hrow] at hcolumns
    cases hcolumns
  have htemplate : t.dialect.insert q.unmarked ((f :: row) :: rows) =
      "INSERT INTO " ++ q.unmarked.table ++ " (" ++
        t.dialect.columnList ((f :: row).map Prod.fst) ++ ") VALUES " ++
        Text.joinWith ", " (((f :: row) :: rows).map Dialect.tuple) := rfl
  refine hall.congr ?_
  rw [htemplate, ← hcolumns]
  simp only [String.append_assoc]

/-- INSERT of a SELECT binds its sources, then the values of the SELECT. -/
theorem spells_insertUsing {columns : List String} (hcolumns : ∀ c ∈ columns, NoPlaceholder c)
    {m : Marked} {sql : String} {values : List Value} (h : Spells m sql values) :
    Spells (q.insertUsing t.dialect columns m) (t.dialect.insertUsing q.unmarked columns sql)
      ((q.unmarked.part .froms).bindings ++ values) := by
  have hlist : NoPlaceholder (" (" ++ t.dialect.columnList columns ++ ") ") :=
    .append (.append (by decide) (.columnList ht hcolumns)) (by decide)
  have hinsert : NoPlaceholder "INSERT INTO " := by decide
  have htable := (spells_table hq).between hinsert hlist
  have htemplate : t.dialect.insertUsing q.unmarked columns sql =
      "INSERT INTO " ++ q.unmarked.table ++ " (" ++ t.dialect.columnList columns ++ ") " ++ sql :=
    rfl
  refine (htable.append h).congr ?_
  rw [htemplate]
  simp only [String.append_assoc]

/-- **The question about the number of rows binds what the SELECT binds.** -/
theorem spells_count :
    Spells (q.count t.dialect) (t.dialect.count q.unmarked) q.unmarked.bindings := by
  have hleft : NoPlaceholder
      ("SELECT " ++ t.dialect.aliased "COUNT(*)" "aggregate" ++ " FROM (") :=
    .append (.append (by decide) (.aliased ht (by decide) (by decide))) (by decide)
  have hright : NoPlaceholder (")" ++ " AS " ++ t.dialect.quoteIdentifier "aggregate_table") :=
    .append (by decide) (.quoteIdentifier ht (by decide))
  refine ((spells_select hq).between hleft hright).congr ?_
  simp only [Dialect.count, Dialect.aliased, String.append_assoc]
  rfl

end MarkedQuery

/-- The question whether there is a row binds what the SELECT binds. -/
theorem Spells.existence {t : Target} (ht : t.Placeless) {m : Marked} {sql : String}
    {values : List Value} (h : Spells m sql values) :
    Spells (m.existence t.dialect) (t.dialect.existence sql) values := by
  have hright : NoPlaceholder (")" ++ " AS " ++ t.dialect.quoteIdentifier "exists") :=
    .append (by decide) (.quoteIdentifier ht (by decide))
  have hleft : NoPlaceholder "SELECT EXISTS(" := by decide
  refine (h.between hleft hright).congr ?_
  simp only [Dialect.existence, Dialect.aliased, String.append_assoc]
  rfl

/-! ## Every statement -/

/-- Marked edits have failed when their edits have. -/
theorem Traces.check {ms : List MarkedEdit} {es : List Edit} (h : Traces ms es) (t : Target) :
    Agree (fun _ _ => True) (MarkedEdit.check ms) (Builder.ofEdits t es).check := by
  rw [MarkedEdit.check, Builder.check, h.firstError t]
  cases (Builder.ofEdits t es).error with
  | some e => exact .error e
  | none => exact .ok trivial

namespace Compilation

variable {t : Target} (ht : t.Placeless) {ms : List MarkedEdit} {es : List Edit} (h : Traces ms es)

include ht h

theorem spells_insertStatement {rows : List (Record Assignment)} (hrows : ∀ r ∈ rows, r.Balanced) :
    SpellsResult ((insert rows).marks t ms) ((Builder.ofEdits t es).insertStatement rows) := by
  rcases rows with - | ⟨first, rest⟩
  · refine (h.check t).bind fun _ _ _ => .ok ?_
    rw [h.query t, Builder.target_ofEdits, Builder.bindingsOf, h.query t]
    simpa using MarkedQuery.spells_insertDefaults h.clean_ofEdits (.inl ⟨rfl, rfl⟩)
  · obtain ⟨hfirst, hrest⟩ := List.forall_mem_cons.mp hrows
    refine (h.check t).bind fun _ _ _ => ?_
    simp only
    split
    · exact .error _
    · next hone =>
      rw [Builder.target_ofEdits, Builder.bindingsOf, h.query t]
      by_cases hentries : first.entries = []
      · obtain rfl : rest = [] := by simpa [Record.isEmpty, hentries] using hone
        rw [hentries]
        refine .ok ?_
        simpa using MarkedQuery.spells_insertDefaults h.clean_ofEdits (.inr ⟨rfl, rfl⟩)
      · have hcolumns : ∀ c ∈ first.columns, NoPlaceholder c :=
          List.forall_mem_map.mpr fun e he => (hfirst e he).1
        refine (spells_row ht hfirst).bind fun m p hrow => ?_
        refine (spells_alignedRows ht hcolumns 1 hrest).bind fun mss q hrows => .ok ?_
        have hm : m ≠ [] := fun hm => hentries (by simpa [hm] using hrow.2)
        simpa using MarkedQuery.spells_insert h.clean_ofEdits ht hm hrow.1 hrows

theorem spells_insertSourceStatement {columns : List String} {source : Source}
    (hcolumns : ∀ column ∈ columns, NoPlaceholder column) (hsource : source.Balanced) :
    SpellsResult ((insertSource columns source).marks t ms)
      ((Builder.ofEdits t es).insertSourceStatement columns source) := by
  have hparse : SpellsResult (source.marks t).statement ((Builder.ofEdits t es).parse source) := by
    rw [Builder.parse, Builder.target_ofEdits]
    exact (source.spells ht hsource).statement
  refine (h.check t).bind fun _ _ _ => hparse.bind fun m s hm => .ok ?_
  rw [h.query t, Builder.target_ofEdits, Builder.bindingsOf, h.query t]
  simpa using MarkedQuery.spells_insertUsing h.clean_ofEdits ht hcolumns hm

theorem spells_updateStatement {values : Record Assignment} (hvalues : values.Balanced) :
    SpellsResult ((update values).marks t ms) ((Builder.ofEdits t es).updateStatement values) := by
  refine (h.check t).bind fun _ _ _ => ?_
  simp only
  split
  · exact .error _
  · rw [Builder.target_ofEdits, Builder.bindingsOf, Builder.bindingsOf, h.query t]
    refine (spells_row ht hvalues).bind fun m p hrow => .ok ?_
    simpa using MarkedQuery.spells_update h.clean_ofEdits ht hrow.1

omit ht in
theorem spells_deleteStatement :
    SpellsResult (delete.marks t ms) (Builder.ofEdits t es).deleteStatement := by
  refine (h.check t).bind fun _ _ _ => .ok ?_
  rw [Builder.bindingsOf, h.query t]
  exact MarkedQuery.spells_delete h.clean_ofEdits

theorem spells_countStatement :
    SpellsResult (count.marks t ms) (Builder.ofEdits t es).countStatement := by
  refine (h.check t).bind fun _ _ _ => .ok ?_
  rw [Builder.bindings, h.query t, Builder.target_ofEdits]
  exact MarkedQuery.spells_count h.clean_ofEdits ht

theorem spells_existsStatement :
    SpellsResult (existence.marks t ms) (Builder.ofEdits t es).existsStatement := by
  refine (h.compile t).bind fun m s hm => .ok ?_
  rw [Builder.target_ofEdits]
  exact hm.existence ht

/-- **Every compilation of marked edits is a reading of the compilation of the edits.** -/
theorem spells {c : Compilation} (hc : c.Balanced) :
    SpellsResult (c.marks t ms) ((Builder.ofEdits t es).compilation c) := by
  cases c with
  | select => exact h.compile t
  | insert rows => exact spells_insertStatement ht h hc
  | insertSource columns source => exact spells_insertSourceStatement ht h hc.1 hc.2
  | update values => exact spells_updateStatement ht h hc
  | delete => exact spells_deleteStatement h
  | count => exact spells_countStatement ht h
  | existence => exact spells_existsStatement ht h

omit h in
/-- **UPDATE binds the values of its sources and joins, of what it sets, and of its conditions**, and
those of no other clause. -/
theorem bindings_update {b : Builder} (hb : b.target = t) {values : Record Assignment}
    (hvalues : values.Balanced) {s : Statement} (hs : b.updateStatement values = .ok s) :
    ∃ row, markRow t values.entries = .ok row ∧ row.map Prod.fst = values.columns ∧
      s.bindings = b.bindingsOf [.froms, .joins] ++ row.flatMap (fun e => e.2.values) ++
        b.bindingsOf [.wheres] := by
  obtain ⟨-, -, hs⟩ := exists_of_bind hs
  simp only at hs
  split at hs
  · cases hs
  · obtain ⟨p, hp, hs⟩ := exists_of_bind hs
    have hrow := spells_row ht hvalues
    rw [← hb, hp] at hrow
    obtain ⟨row, hm, hrow, hcolumns⟩ := hrow.exists_of_ok
    cases hs
    exact ⟨row, hb ▸ hm, hcolumns, by rw [hrow.values]⟩

end Compilation

/-- **The placeholders of a statement are its values**, whatever calls made its builder and whatever
it is made of.  Whenever there is a statement, there is a marked one, in which every call and every
assignment has put its values in place, with the text and the values of the statement: so there are
as many placeholders as values, and the placeholder at any place is that of the value put there.  An
UPDATE binds the values of sources and joins, of the assignments in the order of the record, and of
conditions. -/
theorem Builder.compilation_aligned {t : Target} (ht : t.Placeless) {calls : List Call}
    (h : callsBalanced calls) {c : Compilation} (hc : c.Balanced) {s : Statement}
    (hs : ((Builder.new t).calls calls).compilation c = .ok s) :
    (∃ m, c.marks t (callMarks t calls) = .ok m ∧ (m.sql = s.sql ∧ m.values = s.bindings) ∧
      s.sql.toList.count '?' = s.bindings.length ∧
      (∀ i, s.sql.toList[i]? = some '?' →
        ∃ v, m[i]? = some (.value v) ∧
          s.bindings[(s.sql.toList.take i).count '?']? = some v) ∧
      substitute s.sql.toList s.bindings = m.inlined) ∧
    ∀ values, c = .update values →
      ∃ row, markRow t values.entries = .ok row ∧ row.map Prod.fst = values.columns ∧
        s.bindings = ((Builder.new t).calls calls).bindingsOf [.froms, .joins] ++
          row.flatMap (fun e => e.2.values) ++
            ((Builder.new t).calls calls).bindingsOf [.wheres] := by
  rw [Builder.calls_eq_edits] at hs ⊢
  refine ⟨?_, ?_⟩
  · have hall := Compilation.spells ht (callTraces ht calls h) hc
    obtain ⟨m, hmarks, hm⟩ := (show Agree _ _ (.ok s) from hs ▸ hall).exists_of_ok
    exact ⟨m, hmarks, ⟨hm.sql, hm.values⟩, hm.count, fun i hi => hm.placeholder hi, hm.substitute⟩
  · rintro values rfl
    exact Compilation.bindings_update ht (Builder.target_ofEdits t _) hc hs

/-- An UPDATE with a joined sub-query, a value, a literal text and a sub-query to set, and a limit
whose value it does not bind. -/
theorem Builder.compilation_aligned_update :
    let t : Target := ⟨.sqlite, none⟩
    let calls : List Call :=
      [.tables ["a"],
        .joinSource .inner
          (.closure [.tables ["b"], .condition .wheres .and (.compare ⟨"x", none, .int 1⟩)]) "c"
          (.columns "a.id" "=" "c.id"),
        .condition .wheres .and (.inList false "y" [.int 5, .int 6]), .limit 9]
    let values : Record Assignment := .ofList [("p", .value (.int 2)),
      ("q", .raw ⟨"q + ?", some (.int 3)⟩),
      ("r", .source (.closure [.selectRaw ⟨"?", some (.int 4)⟩]))]
    let s : Statement := ⟨"UPDATE \"a\" INNER JOIN (SELECT * FROM \"b\" WHERE \"x\" = ?) AS \"c\" " ++
      "ON a.id = c.id SET \"p\" = ?, \"q\" = q + ?, \"r\" = (SELECT ?) WHERE \"y\" IN (?, ?)",
      [.int 1, .int 2, .int 3, .int 4, .int 5, .int 6]⟩
    (t.Placeless ∧ callsBalanced calls ∧ (Compilation.update values).Balanced ∧
      ((Builder.new t).calls calls).compilation (.update values) = .ok s) ∧
      s.sql.toList.count '?' = s.bindings.length := by
  intro t calls values s
  have ht : t.Placeless := Target.placeless_sqlite none (by simp)
  have hcalls : callsBalanced calls := by
    simp [calls, callsBalanced, Call.Balanced, Predicate.Balanced, Source.Balanced,
      JoinCondition.Balanced, NoPlaceholder]
  have hvalues : (Compilation.update values).Balanced := by
    simp [values, Compilation.Balanced, Record.Balanced, Record.ofList, Record.set, Record.setEntry,
      Record.empty, Assignment.Balanced, Source.Balanced, callsBalanced, Call.Balanced,
      Expression.Balanced, Expression.values, NoPlaceholder]
  have hs : ((Builder.new t).calls calls).compilation (.update values) = .ok s := by
    decide +kernel
  obtain ⟨⟨m, -, -, hcount, -⟩, -⟩ := Builder.compilation_aligned ht hcalls hvalues hs
  exact ⟨⟨ht, hcalls, hvalues, hs⟩, hcount⟩

end FluentSql
