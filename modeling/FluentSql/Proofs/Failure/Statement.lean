import FluentSql.Proofs.Compilation
import FluentSql.Proofs.Failure.Nested

/-!
# Proofs/Failure/Statement — what fails has no statement

A builder that failed answers every request for a statement with its error
(`Builder.compilation_of_error`).  INSERT and UPDATE resolve the sources of their rows when they are
compiled.  A statement that comes out has resolved every one of them, also those of later rows,
which are taken out column by column; so none of the builders made for them has failed
(`Builder.error_of_compilation`).
-/

namespace FluentSql

variable {t : Target} {n : Builder}

/-! ## Builders of a compilation -/

/-- The builders of an assignment. -/
def Assignment.nested (t : Target) : Assignment → List Builder
  | source s => s.nested t
  | _ => []

/-- The builders of a row. -/
def rowNested (t : Target) (r : Record Assignment) : List Builder :=
  r.entries.flatMap fun e => e.2.nested t

/-- **The builders that a compilation makes**, besides the one it compiles. -/
def Compilation.nested (t : Target) : Compilation → List Builder
  | insert rows => rows.flatMap (rowNested t)
  | insertSource _ source => source.nested t
  | update values => rowNested t values
  | _ => []

/-! ## Resolved sources -/

/-- A source that has a statement was built without an error. -/
theorem Source.error_of_statement {source : Source} {s : Statement}
    (h : (source.evaluate t).statement = .ok s) (hn : n ∈ source.nested t) : n.error = none := by
  have hnone : source.error? t = none := by
    rw [← source.failure?_statement, h]
    rfl
  rw [← Option.not_isSome_iff_eq_none]
  intro hfailed
  have hsome := source.isSome_error? hfailed hn
  rw [hnone] at hsome
  cases hsome

theorem Assignment.error_of_resolve {a : Assignment} {p : Fragment × List Value}
    (h : a.resolve t = .ok p) (hn : n ∈ a.nested t) : n.error = none := by
  cases a with
  | source source =>
    rw [resolve] at h
    cases hs : (source.evaluate t).statement with
    | error e => rw [hs] at h; cases h
    | ok s => exact source.error_of_statement hs hn
  | value | raw => exact absurd hn List.not_mem_nil

/-- **The assignments of a row that is resolved are resolved.** -/
theorem exists_resolve_of_row {es : List (String × Assignment)}
    {p : List (String × Fragment) × List Value} (h : resolveRow t es = .ok p) :
    ∀ e ∈ es, ∃ r, e.2.resolve t = .ok r := by
  induction es generalizing p with
  | nil => exact fun e he => absurd he List.not_mem_nil
  | cons e es ih =>
    obtain ⟨r, hr, hrest⟩ := exists_of_bind h
    obtain ⟨q, hq, -⟩ := exists_of_bind hrest
    exact List.forall_mem_cons.mpr ⟨⟨r, hr⟩, ih hq⟩

/-- **A later row is resolved as a whole**: it has as many columns as the first, and each was taken
out of it. -/
theorem Builder.exists_resolve_of_aligned {index : Nat} {columns : List String}
    {r : Record Assignment} {p : List (String × Fragment) × List Value}
    (hsize : r.size = columns.length) (h : alignRow t index columns r = .ok p) :
    ∀ e ∈ r.entries, ∃ q, e.2.resolve t = .ok q := by
  induction columns generalizing r p with
  | nil =>
    have hempty : r.entries = [] := List.length_eq_zero_iff.mp hsize
    rw [hempty]
    exact fun e he => absurd he List.not_mem_nil
  | cons column columns ih =>
    rw [alignRow] at h
    cases htaken : r.take? column with
    | none => simp only [htaken] at h; cases h
    | some taken =>
      obtain ⟨a, s⟩ := taken
      simp only [htaken] at h
      obtain ⟨q, hq, hrest⟩ := exists_of_bind h
      obtain ⟨p', hp', -⟩ := exists_of_bind hrest
      have hperm := Record.perm_of_take? htaken
      have hrestSize : s.size = columns.length :=
        Nat.succ.inj (hperm.length_eq.symm.trans hsize)
      intro e he
      rcases List.mem_cons.mp (hperm.mem_iff.mp he) with rfl | he
      · exact ⟨q, hq⟩
      · exact ih hrestSize hp' e he

theorem Builder.exists_resolve_of_alignedRows {index : Nat} {columns : List String}
    {rows : List (Record Assignment)} {p : List (List (String × Fragment)) × List Value}
    (h : alignRows t columns index rows = .ok p) :
    ∀ r ∈ rows, ∀ e ∈ r.entries, ∃ q, e.2.resolve t = .ok q := by
  induction rows generalizing index p with
  | nil => exact fun r hr => absurd hr List.not_mem_nil
  | cons r rows ih =>
    rw [alignRows] at h
    split at h
    · cases h
    · next hsize =>
      obtain ⟨q, hq, hrest⟩ := exists_of_bind h
      obtain ⟨q', hq', -⟩ := exists_of_bind hrest
      exact List.forall_mem_cons.mpr
        ⟨exists_resolve_of_aligned (not_not.mp hsize) hq, ih hq'⟩

/-! ## Compiled statements -/

/-- The builders of a row whose assignments are resolved. -/
theorem error_of_rowNested {r : Record Assignment}
    (h : ∀ e ∈ r.entries, ∃ q, e.2.resolve t = .ok q) (hn : n ∈ rowNested t r) :
    n.error = none := by
  obtain ⟨e, he, hne⟩ := List.mem_flatMap.mp hn
  obtain ⟨q, hq⟩ := h e he
  exact Assignment.error_of_resolve hq hne

/-- **Every statement of a builder that failed is its error.** -/
theorem Builder.compilation_of_error {b : Builder} {e : BuildError} (h : b.error = some e)
    (c : Compilation) : b.compilation c = .error e := by
  have hcheck : b.check = .error e := by rw [check, h]
  have hcompile : b.compile = .error e := by rw [compile, hcheck]; rfl
  cases c with
  | select => exact hcompile
  | insert rows => rw [compilation, insertStatement, hcheck]; rfl
  | insertSource columns source => rw [compilation, insertSourceStatement, hcheck]; rfl
  | update values => rw [compilation, updateStatement, hcheck]; rfl
  | delete => rw [compilation, deleteStatement, hcheck]; rfl
  | count => rw [compilation, countStatement, hcheck]; rfl
  | existence => rw [compilation, existsStatement, hcompile]; rfl

/-- **Nothing that a compiled statement is made of has failed.** -/
theorem Builder.error_of_compilation {b : Builder} {c : Compilation} {s : Statement}
    (h : b.compilation c = .ok s) :
    b.error = none ∧ ∀ n ∈ c.nested b.target, n.error = none := by
  have herror : b.error = none := by
    cases he : b.error with
    | none => rfl
    | some e => exact absurd ((compilation_of_error he c).symm.trans h) (by simp)
  refine ⟨herror, fun n hn => ?_⟩
  cases c with
  | insert rows =>
    obtain ⟨-, -, h⟩ := exists_of_bind h
    rcases rows with - | ⟨first, rest⟩
    · exact absurd hn List.not_mem_nil
    · simp only at h
      split at h
      · cases h
      · obtain ⟨p, hp, h⟩ := exists_of_bind h
        obtain ⟨q, hq, -⟩ := exists_of_bind h
        obtain ⟨r, hr, hnr⟩ := List.mem_flatMap.mp hn
        rcases List.mem_cons.mp hr with rfl | hr
        · exact error_of_rowNested (exists_resolve_of_row hp) hnr
        · exact error_of_rowNested (exists_resolve_of_alignedRows hq r hr) hnr
  | insertSource columns source =>
    obtain ⟨-, -, h⟩ := exists_of_bind h
    obtain ⟨s, hs, -⟩ := exists_of_bind h
    exact source.error_of_statement hs hn
  | update values =>
    obtain ⟨-, -, h⟩ := exists_of_bind h
    simp only at h
    split at h
    · cases h
    · obtain ⟨p, hp, -⟩ := exists_of_bind h
      exact error_of_rowNested (exists_resolve_of_row hp) hn
  | select | delete | count | existence => exact absurd hn List.not_mem_nil

end FluentSql
