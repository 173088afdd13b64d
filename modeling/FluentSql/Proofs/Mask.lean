import FluentSql.Proofs.Edits
import Mathlib.Data.List.Basic

/-!
# Proofs/Mask — everything but the values

A mask hides what a value is and keeps only whether it is NULL.  Masking a query masks every value in
it and nothing else, so a masked query is written like the query itself (`Query.select_masked`), and
masking commutes with every edit (`Builder.masked_edit`) and with compiling
(`Builder.compile_masked`).
-/

namespace FluentSql

/-! ## Values -/

/-- **A value with everything hidden but whether it is NULL.** -/
def Value.masked : Value → Value
  | null => null
  | _ => int 0

namespace Value

@[simp] theorem isNull_masked (v : Value) : v.masked.isNull = v.isNull := by cases v <;> rfl

/-- No number of rows is NULL, so all look the same. -/
theorem masked_ofUInt64 (n : UInt64) : (ofUInt64 n).masked = ofUInt64 0 := by
  have hzero : ofUInt64 0 = int 0 := rfl
  rw [hzero, ofUInt64]
  split <;> rfl

end Value

/-- **A literal text with its value masked.** -/
def Expression.masked (e : Expression) : Expression := ⟨e.text, e.bind.map Value.masked⟩

@[simp] theorem Expression.values_masked (e : Expression) :
    e.masked.values = e.values.map Value.masked := by
  obtain ⟨text, bind⟩ := e
  cases bind <;> rfl

/-! ## Queries -/

/-- A fragment with its value masked. -/
def Fragment.masked : Fragment → Fragment
  | text s => text s
  | raw e => raw e.masked

@[simp] theorem Fragment.sql_masked (f : Fragment) : f.masked.sql = f.sql := by cases f <;> rfl

/-- **Masked fragments are written like the fragments.** -/
@[simp] theorem Fragment.join_masked (sep : String) (fs : List Fragment) :
    Fragment.join sep (fs.map Fragment.masked) = Fragment.join sep fs := by
  rw [Fragment.join, List.map_map, Fragment.join]
  exact congrArg (Text.joinWith sep) (List.map_congr_left fun f _ => f.sql_masked)

/-- A clause with its values masked. -/
def Part.masked (p : Part) : Part := ⟨p.fragments.map Fragment.masked, p.bindings.map Value.masked⟩

@[simp] theorem Part.isEmpty_masked (p : Part) : p.masked.isEmpty = p.isEmpty := List.isEmpty_map

namespace Query

/-- **A query with its values masked.** -/
def masked (q : Query) : Query where
  columns := q.columns.masked
  froms := q.froms.masked
  joins := q.joins.masked
  wheres := q.wheres.masked
  groups := q.groups.masked
  havings := q.havings.masked
  orders := q.orders.masked
  limits := q.limits.masked
  offset := q.offset.masked
  unions := q.unions.masked
  lock := q.lock

@[simp] theorem part_masked (q : Query) (c : Clause) : q.masked.part c = (q.part c).masked := by
  cases c <;> rfl

@[simp] theorem lock_masked (q : Query) : q.masked.lock = q.lock := rfl

theorem fragments?_masked (q : Query) (c : Clause) :
    q.masked.fragments? c = (q.fragments? c).map (List.map Fragment.masked) := by
  rw [fragments?, part_masked, Part.masked, fragments?]
  cases (q.part c).fragments <;> rfl

/-- A text made of masked fragments is the text made of the fragments. -/
theorem map_fragments?_masked (q : Query) (c : Clause) {write : List Fragment → String}
    (h : ∀ fs, write (fs.map Fragment.masked) = write fs) :
    (q.masked.fragments? c).map write = (q.fragments? c).map write := by
  rw [fragments?_masked, Option.map_map]
  exact Option.map_congr fun fs _ => h fs

/-- **No clause shows a value.** -/
@[simp] theorem clause?_masked (q : Query) (c : Clause) : q.masked.clause? c = q.clause? c := by
  cases c with
  | offset =>
    rw [clause?, clause?, part_masked, Part.masked, List.head?_map, Option.map_map]
    exact Option.map_congr fun f _ => congrArg _ f.sql_masked
  | _ => exact map_fragments?_masked _ _ fun fs => by rw [Fragment.join_masked]

/-- **A SELECT shows no value.** -/
@[simp] theorem select_masked (q : Query) : q.masked.select = q.select := by
  have hclauses (q : Query) : q.masked.clause? = q.clause? := funext q.clause?_masked
  rw [select, select, body, body, hclauses, lock_masked]

@[simp] theorem table_masked (q : Query) : q.masked.table = q.table := by
  rw [table, part_masked]
  exact Fragment.join_masked _ _

/-- **A DELETE shows no value.** -/
@[simp] theorem delete_masked (q : Query) : q.masked.delete = q.delete := by
  have hclauses : q.masked.clause? = q.clause? := funext q.clause?_masked
  rw [delete, delete, hclauses]

/-- The values of a masked query are masked. -/
theorem bindings_masked (q : Query) : q.masked.bindings = q.bindings.map Value.masked := by
  rw [bindings, bindings, List.map_flatMap]
  exact List.flatMap_congr fun c _ => congrArg Part.bindings (q.part_masked c)

/-- Masking after a change of one clause changes the masked clause. -/
theorem masked_modify (q : Query) {f g : Part → Part} (h : ∀ p, (f p).masked = g p.masked)
    (c : Clause) : (q.modify f c).masked = q.masked.modify g c := by
  refine ext_part (fun d => ?_) (by simp)
  by_cases hd : d = c
  · subst hd
    rw [part_masked, part_modify_self, part_modify_self, part_masked, h]
  · rw [part_masked, part_modify_of_ne _ _ hd, part_modify_of_ne _ _ hd, part_masked]

end Query

namespace Dialect

variable (d : Dialect) (q : Query)

/-- **An UPDATE shows no value of its clauses.** -/
@[simp] theorem update_masked (row : List (String × Fragment)) :
    d.update q.masked row = d.update q row := by
  rw [update, Query.table_masked, Query.clause?_masked, Query.clause?_masked, update]

/-- **An INSERT shows no value of its sources.** -/
@[simp] theorem insert_masked (rows : List (List (String × Fragment))) :
    d.insert q.masked rows = d.insert q rows := by
  have htable : q.masked.table = q.table := q.table_masked
  have hdefaults := congrArg (fun s => "INSERT INTO " ++ s ++ " DEFAULT VALUES") htable
  rcases rows with - | ⟨- | ⟨e, row⟩, rows⟩
  · exact hdefaults
  · exact hdefaults
  · exact congrArg (fun s => "INSERT INTO " ++ s ++ " (" ++
      d.columnList ((e :: row).map Prod.fst) ++ ") VALUES " ++
      Text.joinWith ", " (((e :: row) :: rows).map tuple)) htable

@[simp] theorem insertUsing_masked (columns : List String) (sql : String) :
    d.insertUsing q.masked columns sql = d.insertUsing q columns sql :=
  congrArg (fun s => "INSERT INTO " ++ s ++ " (" ++ d.columnList columns ++ ") " ++ sql)
    q.table_masked

@[simp] theorem count_masked : d.count q.masked = d.count q := by
  rw [count, Query.select_masked, count]

end Dialect

/-! ## Edits and builders -/

/-- **An edit with its values masked**, the numbers of a page among them. -/
def Edit.masked : Edit → Edit
  | append c fragments values =>
    append c (fragments.map Fragment.masked) (values.map Value.masked)
  | replace c fragment values => replace c fragment.masked (values.map Value.masked)
  | page _ => page 0
  | perPage _ => perPage 0
  | e => e

namespace Builder

/-- **A builder with its values masked.** -/
def masked (b : Builder) : Builder :=
  { b with
    query := b.query.masked
    page := b.page.map fun _ => 0
    perPage := b.perPage.map fun _ => 0 }

@[simp] theorem target_masked (b : Builder) : b.masked.target = b.target := rfl

@[simp] theorem error_masked (b : Builder) : b.masked.error = b.error := rfl

@[simp] theorem query_masked (b : Builder) : b.masked.query = b.query.masked := rfl

/-- **A masked edit does to a masked builder what the edit does to the builder.** -/
theorem masked_edit (b : Builder) (e : Edit) : (b.edit e).masked = b.masked.edit e.masked := by
  cases e with
  | append c fragments values =>
    have hquery := b.query.masked_modify (f := (·.append fragments values))
      (g := (·.append (fragments.map Fragment.masked) (values.map Value.masked)))
      (fun p => by simp [Part.masked, Part.append]) c
    exact congrArg (fun q => { b.masked with query := q }) hquery
  | replace c fragment values =>
    have hquery : (b.query.replace c fragment values).masked =
        b.query.masked.replace c fragment.masked (values.map Value.masked) := by
      rw [Query.replace, Query.replace, Query.append, Query.append, Query.reset, Query.reset,
        Query.masked_modify _ (g := (·.append [fragment.masked] (values.map Value.masked)))
          (fun p => by simp [Part.masked, Part.append]),
        Query.masked_modify _ (g := fun _ => {}) (fun p => rfl)]
    exact congrArg (fun q => { b.masked with query := q }) hquery
  | _ => rfl

theorem masked_edits (b : Builder) (es : List Edit) :
    (b.edits es).masked = b.masked.edits (es.map Edit.masked) := by
  induction es generalizing b with
  | nil => rfl
  | cons e es ih => rw [edits_cons, ih, masked_edit, List.map_cons, edits_cons]

/-- **The builder of masked edits is the masked builder.** -/
theorem masked_ofEdits (t : Target) (es : List Edit) :
    (ofEdits t es).masked = ofEdits t (es.map Edit.masked) := masked_edits _ es

end Builder

/-- A statement with its values masked. -/
def Statement.masked (s : Statement) : Statement := ⟨s.sql, s.bindings.map Value.masked⟩

/-- **A masked builder compiles to the masked statement**, or fails alike. -/
theorem Builder.compile_masked (b : Builder) :
    b.masked.compile = b.compile.map Statement.masked := by
  rw [compile_eq, compile_eq, error_masked, query_masked, Query.select_masked,
    Query.bindings_masked]
  cases b.error <;> rfl

/-! ## Another database -/

namespace Builder

theorem qualifyFirst_masked (qualifier : String) (fs : List Fragment) :
    qualifyFirst qualifier (fs.map Fragment.masked) =
      (qualifyFirst qualifier fs).map Fragment.masked := by
  rcases fs with - | ⟨s | e, rest⟩
  · rfl
  · rw [List.map_cons, Fragment.masked, qualifyFirst, qualifyFirst]
    split <;> rfl
  · rfl

theorem qualify_masked (qualifier : String) (q : Query) :
    (qualify qualifier q).masked = qualify qualifier q.masked :=
  q.masked_modify (g := fun p => { p with fragments := qualifyFirst qualifier p.fragments })
    (fun p => by rw [Part.masked, Part.masked, ← qualifyFirst_masked]) .froms

/-- **A masked builder is qualified like the builder.** -/
theorem qualifiedFor_masked (b : Builder) (t : Target) :
    b.masked.qualifiedFor t = (b.qualifiedFor t).masked := by
  unfold qualifiedFor
  rw [target_masked]
  split
  · rfl
  · split
    · rfl
    · exact congrArg (fun q => { b.masked with query := q }) (qualify_masked _ _).symm

end Builder

end FluentSql
