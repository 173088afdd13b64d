import FluentSql.Proofs.Alignment.Marked
import Mathlib.Data.List.Basic

/-!
# Proofs/Alignment/Query — a query whose entries hold their own values

A `Query` keeps the fragments of a clause and the values of the clause in two lists.  A `MarkedQuery`
keeps entries with their values in place, and `unmarked` takes the two lists apart again.  Written as
a SELECT, a marked query is a reading of the SELECT statement of its unmarked query: text and values
are assembled by two functions that know nothing of each other, and `spells_select` says that they
agree on every placeholder.
-/

namespace FluentSql

open Marked (plain joinWith)

/-- **One entry of a clause with its values in place.** -/
inductive Entry
  | text (m : Marked)
  | raw (m : Marked)

namespace Entry

/-- What is written in an entry. -/
def body : Entry → Marked
  | text m => m
  | raw m => m

/-- The fragment of an entry, its values put aside. -/
def fragment : Entry → Fragment
  | text m => .text m.sql
  | raw m => .raw ⟨m.sql, none⟩

/-- The values of an entry. -/
def values (e : Entry) : List Value := e.body.values

@[simp] theorem sql_fragment (e : Entry) : e.fragment.sql = e.body.sql := by cases e <;> rfl

end Entry

/-- **A query whose entries hold their own values.** -/
structure MarkedQuery where
  part : Clause → List Entry := fun _ => []
  lock : Option String := none

namespace MarkedQuery

/-- A clause with fragments and values apart. -/
def unmarkedPart (q : MarkedQuery) (c : Clause) : Part :=
  ⟨(q.part c).map Entry.fragment, (q.part c).flatMap Entry.values⟩

/-- **The query with the values of every clause put aside.** -/
def unmarked (q : MarkedQuery) : Query where
  columns := q.unmarkedPart .columns
  froms := q.unmarkedPart .froms
  joins := q.unmarkedPart .joins
  wheres := q.unmarkedPart .wheres
  groups := q.unmarkedPart .groups
  havings := q.unmarkedPart .havings
  orders := q.unmarkedPart .orders
  limits := q.unmarkedPart .limits
  offset := q.unmarkedPart .offset
  unions := q.unmarkedPart .unions
  lock := q.lock

@[simp] theorem part_unmarked (q : MarkedQuery) (c : Clause) :
    q.unmarked.part c = q.unmarkedPart c := by cases c <;> rfl

@[simp] theorem lock_unmarked (q : MarkedQuery) : q.unmarked.lock = q.lock := rfl

/-- **Only values stand for placeholders**, and an offset is replaced, never added to. -/
structure Clean (q : MarkedQuery) : Prop where
  entries : ∀ c, ∀ e ∈ q.part c, e.body.Clean
  offset : (q.part .offset).length ≤ 1
  lock : ∀ sql ∈ q.lock, NoPlaceholder sql

/-! ## Writing a marked query -/

/-- What is written in the entries of a clause, if there are any. -/
def bodies? (q : MarkedQuery) (c : Clause) : Option (List Marked) :=
  match q.part c with
  | [] => none
  | e :: es => some ((e :: es).map Entry.body)

/-- A list of conditions behind a keyword, the first without its connective. -/
def conditions? (q : MarkedQuery) (c : Clause) (keyword : String) : Option Marked :=
  (q.bodies? c).map fun ms =>
    plain (keyword ++ " ") ++ (joinWith " " ms).cut Connective.dropLeading

/-- A comma-separated list behind a keyword. -/
def list? (q : MarkedQuery) (c : Clause) (keyword : String) : Option Marked :=
  (q.bodies? c).map fun ms => plain (keyword ++ " ") ++ (joinWith ", " ms).cut Query.dropCommas

/-- **The text of a clause with its values in place**, if the clause holds an entry. -/
def clause? (q : MarkedQuery) : Clause → Option Marked
  | .columns => (q.bodies? .columns).map (joinWith ", ")
  | .froms => (q.bodies? .froms).map fun ms => plain "FROM " ++ joinWith ", " ms
  | .joins => (q.bodies? .joins).map (joinWith " ")
  | .wheres => q.conditions? .wheres "WHERE"
  | .groups => q.list? .groups "GROUP BY"
  | .havings => q.conditions? .havings "HAVING"
  | .orders => q.list? .orders "ORDER BY"
  | .limits => (q.bodies? .limits).map fun ms => plain "LIMIT " ++ joinWith ", " ms
  | .offset => (q.part .offset).head?.map fun e => plain "OFFSET " ++ e.body
  | .unions => (q.bodies? .unions).map (joinWith " ")

/-- The clauses up to the lock, the empty ones left out. -/
def body (q : MarkedQuery) : List Marked :=
  (q.clause? .columns).getD (plain "*") ::
    (Query.middle.filterMap q.clause? ++ q.lock.toList.map plain)

/-- **The SELECT statement of a marked query**, every value in its place. -/
def select (q : MarkedQuery) : Marked :=
  let m := plain "SELECT " ++ joinWith " " q.body
  match q.clause? .unions with
  | some unions => m ++ plain " " ++ unions
  | none => m

/-! ## A written clause is a reading of the clause -/

/-- What is written for a clause, if anything is, is a reading of what the query writes for it, and
holds the values of the clause. -/
structure SpellsClause (m : Option Marked) (sql : Option String) (values : List Value) : Prop where
  sql : m.map Marked.sql = sql
  values : m.elim [] Marked.values = values
  clean : ∀ k ∈ m, k.Clean

theorem SpellsClause.none : SpellsClause none none [] := ⟨rfl, rfl, by simp⟩

theorem SpellsClause.some {m : Marked} {sql : String} {values : List Value}
    (h : Spells m sql values) : SpellsClause (some m) (some sql) values :=
  ⟨congrArg Option.some h.sql, h.values, by rintro _ ⟨⟩; exact h.clean⟩

/-- The texts of bodies are the texts of the fragments. -/
theorem map_sql_body (es : List Entry) :
    (es.map Entry.body).map Marked.sql = (es.map Entry.fragment).map Fragment.sql := by
  simp [Function.comp_def]

theorem spells_joinWith {sep : String} (hsep : NoPlaceholder sep) {es : List Entry}
    (h : ∀ e ∈ es, e.body.Clean) :
    Spells (joinWith sep (es.map Entry.body)) (Fragment.join sep (es.map Entry.fragment))
      (es.flatMap Entry.values) :=
  .joinWith hsep (map_sql_body es) (List.flatMap_map ..) (List.forall_mem_map.mpr h)

/-- **A clause is read entry by entry**: if every list of clean entries is read by what `write` makes
of its bodies, so is the clause. -/
theorem spellsClause_map {q : MarkedQuery} {c : Clause} (h : ∀ e ∈ q.part c, e.body.Clean)
    {write : List Marked → Marked} {text : List Fragment → String}
    (hw : ∀ es : List Entry, (∀ e ∈ es, e.body.Clean) →
      Spells (write (es.map Entry.body)) (text (es.map Entry.fragment))
        (es.flatMap Entry.values)) :
    SpellsClause ((q.bodies? c).map write) ((q.unmarked.fragments? c).map text)
      (q.unmarked.part c).bindings := by
  have hw := hw (q.part c) h
  rw [part_unmarked]
  unfold bodies? Query.fragments? unmarkedPart
  rw [part_unmarked]
  unfold unmarkedPart
  cases hp : q.part c with
  | nil => exact .none
  | cons e es =>
    rw [hp] at hw
    exact .some hw

theorem spellsClause_conditions {q : MarkedQuery} {c : Clause}
    (h : ∀ e ∈ q.part c, e.body.Clean) {keyword : String} (hk : NoPlaceholder (keyword ++ " ")) :
    SpellsClause (q.conditions? c keyword) (q.unmarked.conditions? c keyword)
      (q.unmarked.part c).bindings :=
  spellsClause_map h fun _ hes => .behind hk (.dropLeading (spells_joinWith (by decide) hes))

theorem spellsClause_list {q : MarkedQuery} {c : Clause} (h : ∀ e ∈ q.part c, e.body.Clean)
    {keyword : String} (hk : NoPlaceholder (keyword ++ " ")) :
    SpellsClause (q.list? c keyword) (q.unmarked.list? c keyword) (q.unmarked.part c).bindings :=
  spellsClause_map h fun _ hes =>
    .behind hk (.cut Query.trims_dropCommas (spells_joinWith (by decide) hes))

/-- Only the first offset is written, so the values of an offset have to be those of its first
entry. -/
theorem spellsClause_offset {q : MarkedQuery} (h : q.Clean) :
    SpellsClause (q.clause? .offset) (q.unmarked.clause? .offset)
      (q.unmarked.part .offset).bindings := by
  have hlen := h.offset
  have hclean := h.entries .offset
  simp only [clause?, Query.clause?, part_unmarked, unmarkedPart]
  cases hp : q.part .offset with
  | nil => exact .none
  | cons e es =>
    rw [hp] at hlen hclean
    obtain rfl : es = [] := List.length_eq_zero_iff.mp (by simpa using hlen)
    have he : Spells e.body e.body.sql e.values := .refl (hclean e List.mem_cons_self)
    have hoffset : Spells (plain "OFFSET " ++ e.body) ("OFFSET " ++ e.body.sql) e.values :=
      he.behind (by decide)
    simpa using SpellsClause.some hoffset

/-- **Every clause of a marked query is a reading of the same clause of its query.** -/
theorem spellsClause (q : MarkedQuery) (h : q.Clean) (c : Clause) :
    SpellsClause (q.clause? c) (q.unmarked.clause? c) (q.unmarked.part c).bindings := by
  have hc := h.entries c
  cases c with
  | columns => exact spellsClause_map hc fun _ hes => spells_joinWith (by decide) hes
  | froms =>
    exact spellsClause_map hc fun _ hes => Spells.behind (by decide) (spells_joinWith (by decide) hes)
  | joins => exact spellsClause_map hc fun _ hes => spells_joinWith (by decide) hes
  | wheres => exact spellsClause_conditions hc (by decide)
  | groups => exact spellsClause_list hc (by decide)
  | havings => exact spellsClause_conditions hc (by decide)
  | orders => exact spellsClause_list hc (by decide)
  | limits =>
    exact spellsClause_map hc fun _ hes => Spells.behind (by decide) (spells_joinWith (by decide) hes)
  | offset => exact spellsClause_offset h
  | unions => exact spellsClause_map hc fun _ hes => spells_joinWith (by decide) hes

/-! ## The whole statement -/

/-- Clauses left out contribute neither text nor values. -/
theorem spells_filterMap {q : MarkedQuery} (h : q.Clean) (cs : List Clause) :
    (cs.filterMap q.clause?).map Marked.sql = cs.filterMap q.unmarked.clause? ∧
      (cs.filterMap q.clause?).flatMap Marked.values =
        cs.flatMap (fun c => (q.unmarked.part c).bindings) ∧
      ∀ m ∈ cs.filterMap q.clause?, m.Clean := by
  refine ⟨?_, ?_, ?_⟩
  · rw [List.map_filterMap]
    exact List.filterMap_congr fun c _ => (q.spellsClause h c).sql
  · induction cs with
    | nil => rfl
    | cons c cs ih =>
      rw [List.flatMap_cons, ← ih, ← (q.spellsClause h c).values, List.filterMap_cons]
      cases q.clause? c <;> rfl
  · intro m hm
    obtain ⟨c, -, hc⟩ := List.mem_filterMap.mp hm
    exact (q.spellsClause h c).clean m hc

/-- The clauses up to the lock, read as a whole. -/
theorem spells_body {q : MarkedQuery} (h : q.Clean) :
    Spells (joinWith " " q.body) (Text.joinWith " " q.unmarked.body)
      ((q.unmarked.part .columns).bindings ++
        Query.middle.flatMap fun c => (q.unmarked.part c).bindings) := by
  obtain ⟨hsql, hvalues, hclean⟩ := spells_filterMap h Query.middle
  have hcols := q.spellsClause h .columns
  refine ⟨?_, ?_, Marked.clean_joinWith (by decide) ?_⟩
  · rw [Marked.sql_joinWith, body, Query.body, List.map_cons, List.map_append, hsql, ← hcols.sql,
      lock_unmarked, List.map_map]
    cases q.clause? .columns <;> simp [Function.comp_def]
  · rw [Marked.values_joinWith, body, List.flatMap_cons, List.flatMap_append, hvalues,
      ← hcols.values]
    cases q.clause? .columns <;> cases q.lock <;> simp
  · intro m hm
    rcases List.mem_cons.mp hm with rfl | hm
    · cases hc : q.clause? .columns with
      | none => exact Marked.clean_plain.mpr (by decide)
      | some k => exact hcols.clean k hc
    · rcases List.mem_append.mp hm with hm | hm
      · exact hclean m hm
      · obtain ⟨sql, hsql, rfl⟩ := List.mem_map.mp hm
        exact Marked.clean_plain.mpr (h.lock sql (by simpa using hsql))

/-- The values of a query: those in front of the unions, then those of the unions. -/
theorem bindings_unmarked (q : MarkedQuery) :
    q.unmarked.bindings = ((q.unmarked.part .columns).bindings ++
      Query.middle.flatMap fun c => (q.unmarked.part c).bindings) ++
        (q.unmarked.part .unions).bindings := by
  simp [Query.bindings, Clause.all, Query.middle]

/-- **A marked query written as a SELECT is a reading of the SELECT of its query** — the text of the
one, the values of the other, and each value in the place of its placeholder. -/
theorem spells_select {q : MarkedQuery} (h : q.Clean) :
    Spells q.select q.unmarked.select q.unmarked.bindings := by
  have hbody : Spells (plain "SELECT " ++ joinWith " " q.body) _ _ :=
    .behind (by decide) (spells_body h)
  have hunions := q.spellsClause h .unions
  rw [bindings_unmarked, ← hunions.values, select, Query.select, ← hunions.sql]
  cases hu : q.clause? .unions with
  | none => simpa using hbody
  | some m =>
    exact (hbody.before (by decide)).append (.refl (hunions.clean m hu))

end MarkedQuery

end FluentSql
