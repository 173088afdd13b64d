import FluentSql.Builder.Fluent
import FluentSql.Proofs.Compilation
import Mathlib.Data.List.Forall2

/-!
# Proofs/Insert — INSERT puts every row under the columns of the first

    { a := 1, b := 2 }        INSERT INTO t (a, b)
    { b := 4, a := 3 }   ──▶  VALUES (1, 2), (3, 4)

The columns of a later row are taken out one by one in the order of the first row.  Since a record has a
column once, that is to look each of them up (`alignRow_eq`), so the order of the row's own entries does
not matter.  A row has a cell for each column (`Filled`), and the statement is the cells row by row
(`insertStatement_of_filled`); a row that sets other columns has none, and is refused.
-/

namespace FluentSql

variable {t : Target}

/-! ## Cells -/

/-- **What an assignment puts in its place**: its text and the values of that text.  A literal text
has the one value bound to it, if any. -/
inductive Assignment.Writes (t : Target) : Assignment → Statement → Prop
  | value (v : Value) : Writes t (.value v) ⟨"?", [v]⟩
  | raw (e : Expression) : Writes t (.raw e) ⟨e.text, e.bind.toList⟩
  | source {source : Source} {s : Statement} (h : (source.evaluate t).statement = .ok s) :
    Writes t (.source source) ⟨"(" ++ s.sql ++ ")", s.bindings⟩

/-- **A row under columns**: for each column the cell that the row's assignment to it writes. -/
def Filled (t : Target) (columns : List String) (r : Record Assignment)
    (cells : List Statement) : Prop :=
  List.Forall₂ (fun column cell => ∃ a, r.get? column = some a ∧ a.Writes t cell) columns cells

/-- The values of a row of cells. -/
def cellValues (cells : List Statement) : List Value := cells.flatMap Statement.bindings

/-- **A row can be resolved**: each of its sub-queries has a statement. -/
def Resolvable (t : Target) (r : Record Assignment) : Prop :=
  ∀ e ∈ r.entries, ∀ source, e.2 = .source source → ∃ s, (source.evaluate t).statement = .ok s

/-- **The rows of one INSERT**: one row at most, or a first row that sets a column and others that set
the same columns. -/
def Insertable : List (Record Assignment) → Prop
  | [] => True
  | first :: rest =>
    rest = [] ∨ (first.columns ≠ [] ∧ ∀ r ∈ rest, ∀ c, c ∈ r.columns ↔ c ∈ first.columns)

/-- A resolved assignment writes its text and values. -/
theorem Assignment.resolve_of_writes {a : Assignment} {cell : Statement} (h : a.Writes t cell) :
    ∃ f : Fragment, f.sql = cell.sql ∧ a.resolve t = .ok (f, cell.bindings) := by
  cases h with
  | value v => exact ⟨.text "?", rfl, rfl⟩
  | raw e => exact ⟨.raw e.bare, rfl, rfl⟩
  | @source source s hs => exact ⟨.text ("(" ++ s.sql ++ ")"), rfl, by rw [resolve, hs]; rfl⟩

/-- **What a row sets can be written**, if it can be resolved. -/
theorem Resolvable.writes {r : Record Assignment} (h : Resolvable t r) {column : String}
    {a : Assignment} (ha : r.get? column = some a) : ∃ cell, a.Writes t cell := by
  cases a with
  | value v => exact ⟨_, .value v⟩
  | raw e => exact ⟨_, .raw e⟩
  | source source =>
    obtain ⟨s, hs⟩ := h _ (Record.get?_eq_some_iff.mp ha) source rfl
    exact ⟨_, .source hs⟩

/-- **A row has a cell for each of some columns** when it sets them all. -/
theorem Resolvable.exists_filled {r : Record Assignment} (h : Resolvable t r)
    {columns : List String} (hset : ∀ c ∈ columns, c ∈ r.columns) : ∃ cells, Filled t columns r cells := by
  induction columns with
  | nil => exact ⟨[], .nil⟩
  | cons column columns ih =>
    obtain ⟨hcolumn, hset⟩ := List.forall_mem_cons.mp hset
    obtain ⟨a, ha⟩ := Option.ne_none_iff_exists'.mp fun hnone =>
      Record.get?_eq_none_iff.mp hnone hcolumn
    obtain ⟨cell, hcell⟩ := h.writes ha
    obtain ⟨cells, hcells⟩ := ih hset
    exact ⟨cell :: cells, .cons ⟨a, ha, hcell⟩ hcells⟩

/-- **Rows have a table of cells** when each of them sets all of the columns. -/
theorem exists_table {rows : List (Record Assignment)} {columns : List String}
    (h : ∀ r ∈ rows, Resolvable t r) (hset : ∀ r ∈ rows, ∀ c ∈ columns, c ∈ r.columns) :
    ∃ table, List.Forall₂ (Filled t columns) rows table := by
  induction rows with
  | nil => exact ⟨[], .nil⟩
  | cons r rows ih =>
    obtain ⟨hr, h⟩ := List.forall_mem_cons.mp h
    obtain ⟨hrow, hset⟩ := List.forall_mem_cons.mp hset
    obtain ⟨cells, hcells⟩ := hr.exists_filled hrow
    obtain ⟨table, htable⟩ := ih h hset
    exact ⟨cells :: table, .cons hcells htable⟩

/-! ## One row -/

/-- A row read column by column, nothing taken out. -/
def lookUpRow (t : Target) (index : Nat) (r : Record Assignment) :
    List String → Except BuildError (List (String × Fragment) × List Value)
  | [] => .ok ([], [])
  | column :: columns =>
    match r.get? column with
    | none => .error (Builder.rowMismatch index)
    | some a => do
      let (fragment, values) ← a.resolve t
      let (row, more) ← lookUpRow t index r columns
      return ((column, fragment) :: row, values ++ more)

/-- A row is read by its assignments alone. -/
theorem lookUpRow_congr (index : Nat) {r s : Record Assignment} {columns : List String}
    (h : ∀ c ∈ columns, r.get? c = s.get? c) : lookUpRow t index r columns = lookUpRow t index s columns := by
  induction columns with
  | nil => rfl
  | cons column columns ih =>
    obtain ⟨hcolumn, hrest⟩ := List.forall_mem_cons.mp h
    rw [lookUpRow, lookUpRow, hcolumn, ih hrest]

/-- **To take different columns out one after the other is to look them up.** -/
theorem alignRow_eq (index : Nat) {columns : List String} (hnodup : columns.Nodup)
    (r : Record Assignment) : Builder.alignRow t index columns r = lookUpRow t index r columns := by
  induction columns generalizing r with
  | nil => rfl
  | cons column columns ih =>
    obtain ⟨hnew, hnodup⟩ := List.nodup_cons.mp hnodup
    rw [Builder.alignRow, lookUpRow]
    cases htake : r.take? column with
    | none => rw [Record.take?_eq_none_iff.mp htake]
    | some p =>
      obtain ⟨a, s⟩ := p
      obtain ⟨hget, hothers⟩ := Record.get?_of_take? htake
      have hrest : lookUpRow t index s columns = lookUpRow t index r columns :=
        lookUpRow_congr index fun c hc => hothers c fun heq => hnew (heq ▸ hc)
      rw [hget]
      simp only [ih hnodup s, hrest]

/-- **A first row is read like the others**, under its own columns. -/
theorem resolveRow_eq (index : Nat) (r : Record Assignment) :
    resolveRow t r.entries = lookUpRow t index r r.columns := by
  suffices h : ∀ es ⊆ r.entries, resolveRow t es = lookUpRow t index r (es.map Prod.fst) from
    h r.entries (List.Subset.refl _)
  intro es hsub
  induction es with
  | nil => rfl
  | cons e es ih =>
    obtain ⟨hmem, hsub⟩ := List.cons_subset.mp hsub
    rw [resolveRow, List.map_cons, lookUpRow, Record.get?_eq_some_iff.mpr hmem, ih hsub]

/-- **A row with a cell for each column is read as those cells.** -/
theorem lookUpRow_of_filled (index : Nat) {r : Record Assignment} {columns : List String}
    {cells : List Statement} (h : Filled t columns r cells) :
    ∃ row, lookUpRow t index r columns = .ok (row, cellValues cells) ∧
      row.map Prod.fst = columns ∧ row.map (fun e => e.2.sql) = cells.map Statement.sql := by
  induction h with
  | nil => exact ⟨[], rfl, rfl, rfl⟩
  | @cons column cell columns cells hcell _ ih =>
    obtain ⟨a, ha, hwrites⟩ := hcell
    obtain ⟨fragment, hsql, hresolve⟩ := Assignment.resolve_of_writes hwrites
    obtain ⟨row, hrow, hcolumns, htexts⟩ := ih
    refine ⟨(column, fragment) :: row, ?_, ?_, ?_⟩
    · rw [lookUpRow, ha]
      simp only [hresolve, hrow]
      rfl
    · rw [List.map_cons, hcolumns]
    · rw [List.map_cons, List.map_cons, htexts, hsql]

/-- **A row that lacks one of the columns is refused.** -/
theorem lookUpRow_of_missing (index : Nat) {r : Record Assignment} (hr : Resolvable t r)
    {columns : List String} {c : String} (hc : c ∈ columns) (hmissing : c ∉ r.columns) :
    lookUpRow t index r columns = .error (Builder.rowMismatch index) := by
  induction columns with
  | nil => exact absurd hc List.not_mem_nil
  | cons column columns ih =>
    rw [lookUpRow]
    cases hget : r.get? column with
    | none => rfl
    | some a =>
      have hne : c ≠ column := by
        rintro rfl
        rw [Record.get?_eq_none_iff.mpr hmissing] at hget
        cases hget
      obtain ⟨cell, hcell⟩ := hr.writes hget
      obtain ⟨fragment, -, hresolve⟩ := Assignment.resolve_of_writes hcell
      simp only [hresolve, ih ((List.mem_cons.mp hc).resolve_left hne)]
      rfl

/-! ## The rows after the first -/

/-- A later row: its columns are counted before they are looked up. -/
def laterRow (t : Target) (columns : List String) (index : Nat) (r : Record Assignment) :
    Except BuildError (List (String × Fragment) × List Value) :=
  if r.size ≠ columns.length then .error (Builder.rowMismatch index)
  else lookUpRow t index r columns

/-- One row after the other. -/
theorem alignRows_cons {columns : List String} (hnodup : columns.Nodup) (index : Nat)
    (r : Record Assignment) (rest : List (Record Assignment)) :
    Builder.alignRows t columns index (r :: rest) =
      laterRow t columns index r >>= fun row =>
        Builder.alignRows t columns (index + 1) rest >>= fun rows =>
          .ok (row.1 :: rows.1, row.2 ++ rows.2) := by
  rw [Builder.alignRows, laterRow, alignRow_eq index hnodup]
  split <;> rfl

/-- **The order of a row's entries does not matter.** -/
theorem laterRow_perm (columns : List String) (index : Nat) {r s : Record Assignment}
    (h : r.entries.Perm s.entries) : laterRow t columns index r = laterRow t columns index s := by
  have hsize : r.size = s.size := h.length_eq
  rw [laterRow, laterRow, hsize, lookUpRow_congr index fun c _ => Record.get?_perm h]

theorem alignRows_perm {columns : List String} (hnodup : columns.Nodup) (index : Nat)
    {rest rest' : List (Record Assignment)}
    (h : List.Forall₂ (fun r s => r.entries.Perm s.entries) rest rest') :
    Builder.alignRows t columns index rest = Builder.alignRows t columns index rest' := by
  induction h generalizing index with
  | nil => rfl
  | cons hperm _ ih =>
    rw [alignRows_cons hnodup, alignRows_cons hnodup, laterRow_perm columns index hperm, ih]

/-- **Rows that all have their cells are read as those cells.** -/
theorem alignRows_of_filled {columns : List String} (hnodup : columns.Nodup) (index : Nat)
    {rest : List (Record Assignment)} {table : List (List Statement)}
    (h : List.Forall₂ (Filled t columns) rest table)
    (hsame : ∀ r ∈ rest, ∀ c, c ∈ r.columns ↔ c ∈ columns) :
    ∃ rows, Builder.alignRows t columns index rest = .ok (rows, table.flatMap cellValues) ∧
      rows.map Dialect.tuple =
        table.map fun cells => "(" ++ Text.joinWith ", " (cells.map Statement.sql) ++ ")" := by
  induction h generalizing index with
  | nil => exact ⟨[], rfl, rfl⟩
  | @cons r cells rest table hr _ ih =>
    obtain ⟨hsameRow, hsame⟩ := List.forall_mem_cons.mp hsame
    have hsize := ((Record.mem_columns_iff hnodup).mp hsameRow).1
    obtain ⟨row, hrow, -, htexts⟩ := lookUpRow_of_filled index hr
    obtain ⟨rows, hrows, htuples⟩ := ih (index + 1) hsame
    refine ⟨row :: rows, ?_, ?_⟩
    · rw [alignRows_cons hnodup, laterRow, if_neg (not_not.mpr hsize), hrow, hrows]
      rfl
    · rw [List.map_cons, List.map_cons, htuples, Dialect.tuple, htexts]

/-- **A later row that sets other columns is refused**, as is every list with such a row. -/
theorem alignRows_of_mismatch {columns : List String} (hnodup : columns.Nodup) (index : Nat)
    {rest : List (Record Assignment)} (hrest : ∀ r ∈ rest, Resolvable t r)
    (hother : ¬ ∀ r ∈ rest, ∀ c, c ∈ r.columns ↔ c ∈ columns) :
    ∃ i, Builder.alignRows t columns index rest = .error (Builder.rowMismatch i) := by
  induction rest generalizing index with
  | nil => exact absurd (fun r hr => absurd hr List.not_mem_nil) hother
  | cons r rest ih =>
    obtain ⟨hr, hrest⟩ := List.forall_mem_cons.mp hrest
    rw [alignRows_cons hnodup]
    by_cases hsame : ∀ c, c ∈ r.columns ↔ c ∈ columns
    · obtain ⟨hsize, hset⟩ := (Record.mem_columns_iff hnodup).mp hsame
      obtain ⟨cells, hcells⟩ := hr.exists_filled hset
      obtain ⟨row, hrow, -⟩ := lookUpRow_of_filled index hcells
      obtain ⟨i, hi⟩ := ih (index + 1) hrest fun h => hother (List.forall_mem_cons.mpr ⟨hsame, h⟩)
      rw [laterRow, if_neg (not_not.mpr hsize), hrow, hi]
      exact ⟨i, rfl⟩
    · refine ⟨index, ?_⟩
      rw [laterRow]
      split
      · rfl
      · next hsize =>
        rw [Record.mem_columns_iff hnodup, not_and] at hsame
        obtain ⟨c, hc, hmissing⟩ : ∃ c ∈ columns, c ∉ r.columns := by
          simpa using hsame (not_not.mp hsize)
        rw [lookUpRow_of_missing index hr hc hmissing]
        rfl

/-! ## The statement -/

namespace Builder

variable {b : Builder} {first : Record Assignment} {rest : List (Record Assignment)}

/-- **INSERT of a first row and others**, once nothing has failed. -/
theorem insertStatement_cons (hb : b.error = none) :
    b.insertStatement (first :: rest) =
      if first.isEmpty ∧ ¬ rest.isEmpty then
        .error (.invalidArgument "cannot insert several rows that set no columns")
      else
        lookUpRow b.target 0 first first.columns >>= fun row =>
          alignRows b.target first.columns 1 rest >>= fun rows =>
            .ok ⟨b.target.dialect.insert b.query (row.1 :: rows.1),
              (b.query.part .froms).bindings ++ row.2 ++ rows.2⟩ := by
  have hsources : b.bindingsOf [.froms] = (b.query.part .froms).bindings := List.flatMap_singleton ..
  have hcheck : b.check = .ok () := by rw [check, hb]
  rw [insertStatement, hcheck, hsources, ← resolveRow_eq]
  by_cases hguard : first.isEmpty ∧ ¬ rest.isEmpty
  · rw [if_pos hguard]
    exact if_pos hguard
  · rw [if_neg hguard]
    exact if_neg hguard

theorem isEmpty_iff_columns (r : Record Assignment) : r.isEmpty = true ↔ r.columns = [] := by
  rw [Record.isEmpty, Record.columns, List.isEmpty_iff, List.map_eq_nil_iff]

/-- **The rows of one INSERT are inserted**: their cells row by row, in the columns of the first. -/
theorem insertStatement_of_filled (hb : b.error = none) {table : List (List Statement)}
    (hcolumns : first.columns ≠ [])
    (h : List.Forall₂ (Filled b.target first.columns) (first :: rest) table)
    (hsame : ∀ r ∈ rest, ∀ c, c ∈ r.columns ↔ c ∈ first.columns) :
    b.insertStatement (first :: rest) =
      .ok ⟨"INSERT INTO " ++ b.query.table ++ " (" ++ b.target.dialect.columnList first.columns ++
          ") VALUES " ++ Text.joinWith ", " (table.map fun cells =>
            "(" ++ Text.joinWith ", " (cells.map Statement.sql) ++ ")"),
        (b.query.part .froms).bindings ++ table.flatMap cellValues⟩ := by
  obtain ⟨cells, table, hfirst, hrest, rfl⟩ := List.forall₂_cons_left_iff.mp h
  obtain ⟨row, hrow, hnames, htexts⟩ := lookUpRow_of_filled 0 hfirst
  obtain ⟨rows, hrows, htuples⟩ := alignRows_of_filled first.nodup_columns 1 hrest hsame
  have hguard : ¬ (first.isEmpty ∧ ¬ rest.isEmpty) := fun h =>
    hcolumns ((isEmpty_iff_columns first).mp h.1)
  have hinsert : b.target.dialect.insert b.query (row :: rows) =
      "INSERT INTO " ++ b.query.table ++ " (" ++ b.target.dialect.columnList (row.map Prod.fst) ++
        ") VALUES " ++ Text.joinWith ", " ((row :: rows).map Dialect.tuple) := by
    cases row with
    | nil => exact absurd hnames.symm hcolumns
    | cons e es => rfl
  rw [insertStatement_cons hb, if_neg hguard, hrow, hrows]
  change Except.ok (Statement.mk (b.target.dialect.insert b.query (row :: rows)) _) = _
  rw [hinsert, hnames, List.map_cons, htuples, Dialect.tuple, htexts, List.flatMap_cons,
    List.append_assoc]
  rfl

/-- **Without a column the defaults are inserted**, as one row. -/
theorem insertStatement_defaults (hb : b.error = none) {rows : List (Record Assignment)}
    (h : rows = [] ∨ ∃ r : Record Assignment, rows = [r] ∧ r.columns = []) :
    b.insertStatement rows =
      .ok ⟨"INSERT INTO " ++ b.query.table ++ " DEFAULT VALUES", (b.query.part .froms).bindings⟩ := by
  rcases h with rfl | ⟨r, rfl, hcolumns⟩
  · rw [insertStatement, check, hb]
    change Except.ok (Statement.mk _ (b.bindingsOf [.froms])) = _
    rw [bindingsOf, List.flatMap_singleton]
    rfl
  · rw [insertStatement_cons hb, if_neg (by simp), hcolumns]
    change Except.ok (Statement.mk _ ((b.query.part .froms).bindings ++ [] ++ [])) = _
    rw [List.append_nil, List.append_nil]
    rfl

/-- **Other rows are refused.** -/
theorem insertStatement_of_not_insertable (hb : b.error = none) {rows : List (Record Assignment)}
    (hrows : ∀ r ∈ rows, Resolvable b.target r) (h : ¬ Insertable rows) :
    ∃ reason, b.insertStatement rows = .error (.invalidArgument reason) := by
  cases rows with
  | nil => exact absurd trivial h
  | cons first rest =>
    obtain ⟨hfirst, hrest⟩ := List.forall_mem_cons.mp hrows
    obtain ⟨hmore, hother⟩ := not_or.mp h
    rw [insertStatement_cons hb]
    split
    · exact ⟨_, rfl⟩
    · next hguard =>
      have hcolumns : first.columns ≠ [] := fun hnone =>
        hguard ⟨(isEmpty_iff_columns first).mpr hnone, by simpa using hmore⟩
      obtain ⟨cells, hcells⟩ := hfirst.exists_filled fun _ => id
      obtain ⟨row, hrow, -⟩ := lookUpRow_of_filled 0 hcells
      obtain ⟨i, hi⟩ := alignRows_of_mismatch first.nodup_columns 1 hrest fun hsame =>
        hother ⟨hcolumns, hsame⟩
      rw [hrow, hi]
      exact ⟨_, rfl⟩

/-- **Rows of one INSERT have all their cells**, and the later ones set the columns of the first. -/
theorem exists_table_of_insertable (hrows : ∀ r ∈ first :: rest, Resolvable b.target r)
    (h : Insertable (first :: rest)) :
    ∃ table, List.Forall₂ (Filled b.target first.columns) (first :: rest) table ∧
      ∀ r ∈ rest, ∀ c, c ∈ r.columns ↔ c ∈ first.columns := by
  have hsame : ∀ r ∈ rest, ∀ c, c ∈ r.columns ↔ c ∈ first.columns := by
    rcases h with rfl | ⟨-, hsame⟩
    · exact fun r hr => absurd hr List.not_mem_nil
    · exact hsame
  obtain ⟨table, htable⟩ := exists_table hrows
    (List.forall_mem_cons.mpr ⟨fun _ => id, fun r hr c => (hsame r hr c).mpr⟩)
  exact ⟨table, htable, hsame⟩

/-- **Rows of one INSERT have a statement.** -/
theorem insertStatement_of_insertable (hb : b.error = none) {rows : List (Record Assignment)}
    (hrows : ∀ r ∈ rows, Resolvable b.target r) (h : Insertable rows) :
    ∃ s, b.insertStatement rows = .ok s := by
  cases rows with
  | nil => exact ⟨_, insertStatement_defaults hb (.inl rfl)⟩
  | cons first rest =>
    obtain ⟨table, htable, hsame⟩ := exists_table_of_insertable hrows h
    by_cases hcolumns : first.columns = []
    · obtain rfl : rest = [] := h.resolve_right fun h => h.1 hcolumns
      exact ⟨_, insertStatement_defaults hb (.inr ⟨first, rfl, hcolumns⟩)⟩
    · exact ⟨_, insertStatement_of_filled hb hcolumns htable hsame⟩

/-- **INSERT aligns its rows by column.**  Of a builder that has not failed and rows whose sub-queries
all have statements: there is a statement just when the rows are those of one INSERT, and else the
argument is invalid; in the statement every row has, under each column of the first, what its own
assignment to that column writes, in the text as in the values, row by row behind the values of the
sources; and the order of the entries of a row matters in the first one only. -/
theorem insert_aligned (hb : b.error = none) {rows : List (Record Assignment)}
    (hrows : ∀ r ∈ rows, Resolvable b.target r) :
    ((∃ s, b.insertStatement rows = .ok s) ↔ Insertable rows) ∧
    (¬ Insertable rows → ∃ reason, b.insertStatement rows = .error (.invalidArgument reason)) ∧
    (∀ first rest s, rows = first :: rest → first.columns ≠ [] → b.insertStatement rows = .ok s →
      ∃ table : List (List Statement),
        List.Forall₂ (Filled b.target first.columns) rows table ∧
        s.sql = "INSERT INTO " ++ b.query.table ++ " (" ++
          b.target.dialect.columnList first.columns ++ ") VALUES " ++
            Text.joinWith ", " (table.map fun cells =>
              "(" ++ Text.joinWith ", " (cells.map Statement.sql) ++ ")") ∧
        s.bindings = (b.query.part .froms).bindings ++ table.flatMap cellValues) ∧
    (∀ first rest rest', rows = first :: rest →
      List.Forall₂ (fun r s => r.entries.Perm s.entries) rest rest' →
        b.insertStatement (first :: rest') = b.insertStatement rows) := by
  have hrefused := insertStatement_of_not_insertable hb hrows
  have hiff : (∃ s, b.insertStatement rows = .ok s) ↔ Insertable rows := by
    refine ⟨fun ⟨s, hs⟩ => ?_, insertStatement_of_insertable hb hrows⟩
    by_contra hnot
    obtain ⟨reason, herror⟩ := hrefused hnot
    rw [hs] at herror
    cases herror
  refine ⟨hiff, hrefused, ?_, ?_⟩
  · rintro first rest s rfl hcolumns hs
    obtain ⟨table, htable, hsame⟩ := exists_table_of_insertable hrows (hiff.mp ⟨s, hs⟩)
    rw [insertStatement_of_filled hb hcolumns htable hsame] at hs
    cases hs
    exact ⟨table, htable, rfl, rfl⟩
  · rintro first rest rest' rfl hperm
    have hempty : rest.isEmpty = rest'.isEmpty := by
      cases hperm <;> rfl
    rw [insertStatement_cons hb, insertStatement_cons hb, alignRows_perm first.nodup_columns 1 hperm,
      hempty]

/-- A row is inserted in the order of the first, whatever its own; one that sets another column is
refused. -/
theorem insert_aligned_reordered :
    let b := (Builder.new ⟨.mysql, none⟩).calls [.table "t"]
    let source : Source := .raw ⟨"SELECT ?", some (.int 2)⟩
    let first : Record Assignment :=
      ⟨[("a", .value (.int 1)), ("b", .raw ⟨"lower(?)", some (.text "X")⟩)], by decide⟩
    let second : Record Assignment := ⟨[("b", .source source), ("a", .value .null)], by decide⟩
    let ordered : Record Assignment := ⟨[("a", .value .null), ("b", .source source)], by decide⟩
    let other : Record Assignment := ⟨[("a", .value (.int 3)), ("c", .value (.int 4))], by decide⟩
    let inserted : Statement :=
      ⟨"INSERT INTO `t` (`a`, `b`) VALUES (?, lower(?)), (?, (SELECT ?))",
        [.int 1, .text "X", .null, .int 2]⟩
    b.error = none ∧ (∀ r ∈ [first, second, other], Resolvable b.target r) ∧
      b.insertStatement [first, second] = .ok inserted ∧ Insertable [first, second] ∧
      (∃ table, List.Forall₂ (Filled b.target first.columns) [first, second] table ∧
        inserted.bindings = (b.query.part .froms).bindings ++ table.flatMap cellValues) ∧
      b.insertStatement [first, ordered] = .ok inserted ∧
      ∃ reason, b.insertStatement [first, second, other] = .error (.invalidArgument reason) := by
  intro b source first second ordered other inserted
  have hb : b.error = none := by decide +kernel
  have hfirst : Resolvable b.target first :=
    List.forall_mem_cons.mpr ⟨nofun, List.forall_mem_singleton.mpr nofun⟩
  have hsecond : Resolvable b.target second := by
    refine List.forall_mem_cons.mpr ⟨?_, List.forall_mem_singleton.mpr nofun⟩
    rintro _ ⟨⟩
    exact ⟨_, rfl⟩
  have hother : Resolvable b.target other :=
    List.forall_mem_cons.mpr ⟨nofun, List.forall_mem_singleton.mpr nofun⟩
  have hrefused : ¬ Insertable [first, second, other] := by
    rintro (h | ⟨-, h⟩)
    · cases h
    · have hc : "c" ∈ first.columns := (h other (by simp) "c").mp (by decide)
      exact absurd hc (by decide)
  have hpair : ∀ r ∈ [first, second], Resolvable b.target r :=
    List.forall_mem_cons.mpr ⟨hfirst, List.forall_mem_singleton.mpr hsecond⟩
  obtain ⟨hiff, -, htable, hperm⟩ := insert_aligned hb hpair
  have hrows : ∀ r ∈ [first, second, other], Resolvable b.target r := List.forall_mem_cons.mpr
    ⟨hfirst, List.forall_mem_cons.mpr ⟨hsecond, List.forall_mem_singleton.mpr hother⟩⟩
  have hinserted : b.insertStatement [first, second] = .ok inserted := by decide +kernel
  obtain ⟨table, hfilled, -, hbindings⟩ := htable first [second] inserted rfl (by decide) hinserted
  exact ⟨hb, hrows, hinserted, hiff.mp ⟨inserted, hinserted⟩, ⟨table, hfilled, hbindings⟩,
    (hperm first [second] [ordered] rfl (.cons (.swap _ _ _) .nil)).trans hinserted,
    (insert_aligned hb hrows).2.1 hrefused⟩

end Builder

end FluentSql
