import FluentSql.Record
import Mathlib.Data.List.Nodup
import Mathlib.Data.List.Perm.Subperm
import Mathlib.Data.Option.Basic

/-!
# Proofs/Record — reading the columns of a record

A column occurs once in a record, so its assignment is the one it has among the entries
(`Record.get?_eq_some_iff`), whatever their order.  Taking a column out gives its assignment and leaves
the other columns with theirs (`Record.get?_of_take?`), in their order (`Record.take?_eq_get?`).
-/

namespace FluentSql.Record

variable {α : Type} {column : String} {a : α}

/-- A column occurs once. -/
theorem nodup_columns (r : Record α) : r.columns.Nodup := r.nodup

/-! ## The assignment of a column -/

/-- **A column has the assignment of its entry.** -/
theorem get?_eq_some_iff {r : Record α} : r.get? column = some a ↔ (column, a) ∈ r.entries := by
  have hkey := List.inj_on_of_nodup_map r.nodup
  simp only [get?, Option.map_eq_some_iff]
  constructor
  · rintro ⟨⟨c, b⟩, hfind, rfl⟩
    obtain rfl : c = column := by simpa using List.find?_some hfind
    exact List.mem_of_find?_eq_some hfind
  · intro hmem
    cases hfind : r.entries.find? fun e => e.1 == column with
    | none => exact absurd (beq_self_eq_true column) (List.find?_eq_none.mp hfind _ hmem)
    | some e =>
      have hcolumn : e.1 = column := by simpa using List.find?_some hfind
      exact ⟨e, rfl, congrArg Prod.snd (hkey (List.mem_of_find?_eq_some hfind) hmem hcolumn)⟩

/-- A column that is not set has no assignment. -/
theorem get?_eq_none_iff {r : Record α} : r.get? column = none ↔ column ∉ r.columns := by
  rw [Option.eq_none_iff_forall_ne_some, columns, List.mem_map, not_exists]
  constructor
  · rintro h ⟨c, b⟩ ⟨hmem, rfl⟩
    exact h b (get?_eq_some_iff.mpr hmem)
  · intro h b hb
    exact h (column, b) ⟨get?_eq_some_iff.mp hb, rfl⟩

/-- **The order of the entries does not matter** to the assignment of a column. -/
theorem get?_perm {r s : Record α} (h : r.entries.Perm s.entries) : r.get? column = s.get? column :=
  Option.ext fun b => by rw [get?_eq_some_iff, get?_eq_some_iff, h.mem_iff]

/-- **Two lists of the same number of columns** set the same ones when the one has those of the
other. -/
theorem mem_columns_iff {r : Record α} {columns : List String} (hnodup : columns.Nodup) :
    (∀ c, c ∈ r.columns ↔ c ∈ columns) ↔
      r.size = columns.length ∧ ∀ c ∈ columns, c ∈ r.columns := by
  have hsize : r.size = r.columns.length := (List.length_map _).symm
  constructor
  · intro h
    have hperm : r.columns.Perm columns := (List.perm_ext_iff_of_nodup r.nodup hnodup).mpr h
    exact ⟨hsize.trans hperm.length_eq, fun c => (h c).mpr⟩
  · rintro ⟨hlength, hsub⟩ c
    have hperm : columns.Perm r.columns :=
      (List.subperm_of_subset hnodup hsub).perm_of_length_le (Nat.le_of_eq (hsize.symm.trans hlength))
    exact hperm.mem_iff.symm

/-! ## Columns taken out -/

/-- **One entry is taken out** and the others close up behind it. -/
theorem exists_of_takeEntry {es rest : List (String × α)} (h : takeEntry column es = some (a, rest)) :
    ∃ before after, es = before ++ (column, a) :: after ∧ rest = before ++ after := by
  induction es generalizing rest with
  | nil => cases h
  | cons e es ih =>
    obtain ⟨c, b⟩ := e
    rw [takeEntry] at h
    split at h
    · next hc =>
      cases h
      exact ⟨[], es, by rw [hc, List.nil_append], rfl⟩
    · obtain ⟨⟨a', rest'⟩, h', heq⟩ := Option.map_eq_some_iff.mp h
      cases heq
      obtain ⟨before, after, rfl, rfl⟩ := ih h'
      exact ⟨(c, b) :: before, after, rfl, rfl⟩

/-- When nothing is taken out, no entry has the column. -/
theorem not_mem_of_takeEntry {es : List (String × α)} (h : takeEntry column es = none) (b : α) :
    (column, b) ∉ es := by
  induction es with
  | nil => exact List.not_mem_nil
  | cons e es ih =>
    obtain ⟨c, d⟩ := e
    rw [takeEntry] at h
    split at h
    · cases h
    · next hc =>
      rintro (_ | ⟨_, hmem⟩)
      · exact hc rfl
      · exact ih (Option.map_eq_none_iff.mp h) hmem

/-- **A column is taken out of a record as it is out of the entries.** -/
theorem take?_eq (r : Record α) (column : String) :
    (r.take? column).map (fun p => (p.1, p.2.entries)) = takeEntry column r.entries := by
  unfold take?
  split <;> simp_all

/-- **What is left of a record** when a column is taken out: the entries on either side of its own. -/
theorem exists_of_take? {r s : Record α} (h : r.take? column = some (a, s)) :
    ∃ before after, r.entries = before ++ (column, a) :: after ∧ s.entries = before ++ after := by
  refine exists_of_takeEntry ?_
  rw [← take?_eq, h]
  rfl

/-- Taking a column out changes only the order of the entries. -/
theorem perm_of_take? {r s : Record α} (h : r.take? column = some (a, s)) :
    r.entries.Perm ((column, a) :: s.entries) := by
  obtain ⟨before, after, hr, hs⟩ := exists_of_take? h
  rw [hr, hs]
  exact List.perm_middle

theorem mem_of_take? {r s : Record α} (h : r.take? column = some (a, s)) :
    (column, a) ∈ r.entries := (perm_of_take? h).mem_iff.mpr List.mem_cons_self

theorem subset_of_take? {r s : Record α} (h : r.take? column = some (a, s)) :
    s.entries ⊆ r.entries := fun _ he => (perm_of_take? h).mem_iff.mpr (List.mem_cons_of_mem _ he)

/-- **A column that is not set cannot be taken out.** -/
theorem take?_eq_none_iff {r : Record α} : r.take? column = none ↔ r.get? column = none := by
  constructor
  · intro h
    rw [get?_eq_none_iff]
    intro hmem
    have hnone : takeEntry column r.entries = none := by rw [← take?_eq, h, Option.map_none]
    obtain ⟨⟨c, b⟩, he, rfl⟩ := List.mem_map.mp hmem
    exact absurd he (not_mem_of_takeEntry hnone b)
  · intro h
    cases htake : r.take? column with
    | none => rfl
    | some p => exact absurd (get?_eq_some_iff.mpr (mem_of_take? htake)) (by simp [h])

/-- **What is taken out is the assignment of the column**, and the other columns keep theirs. -/
theorem get?_of_take? {r s : Record α} (h : r.take? column = some (a, s)) :
    r.get? column = some a ∧ ∀ c ≠ column, s.get? c = r.get? c := by
  refine ⟨get?_eq_some_iff.mpr (mem_of_take? h), fun c hc => Option.ext fun b => ?_⟩
  rw [get?_eq_some_iff, get?_eq_some_iff, (perm_of_take? h).mem_iff, List.mem_cons]
  exact ⟨.inr, fun hmem => hmem.resolve_left fun heq => hc (congrArg Prod.fst heq)⟩

/-- **Taking a column out** leaves the entries of the others in their order. -/
theorem take?_eq_get? (r : Record α) (column : String) :
    (r.take? column).map (fun p => (p.1, p.2.entries)) =
      (r.get? column).map fun a => (a, r.entries.filter fun e => e.1 != column) := by
  cases htake : r.take? column with
  | none => rw [take?_eq_none_iff.mp htake]; rfl
  | some p =>
    obtain ⟨a, s⟩ := p
    obtain ⟨before, after, hentries, hrest⟩ := exists_of_take? htake
    have hnodup : (column :: s.columns).Nodup :=
      ((perm_of_take? htake).map Prod.fst).nodup_iff.mp r.nodup
    have hothers : ∀ e ∈ s.entries, (e.1 != column) = true := fun e he =>
      bne_iff_ne.mpr fun heq => (List.nodup_cons.mp hnodup).1 (List.mem_map.mpr ⟨e, he, heq⟩)
    have hfilter : r.entries.filter (fun e => e.1 != column) = s.entries := by
      rw [hentries, List.filter_append, List.filter_cons_of_neg (by simp), ← List.filter_append,
        ← hrest, List.filter_eq_self.mpr hothers]
    rw [(get?_of_take? htake).1, Option.map_some, Option.map_some, hfilter]

/-! ## Rewritten assignments -/

variable {β : Type}

/-- The record with every assignment rewritten. -/
def map (f : α → β) (r : Record α) : Record β :=
  ⟨r.entries.map fun e => (e.1, f e.2), by rw [List.map_map]; exact r.nodup⟩

@[simp] theorem columns_map (f : α → β) (r : Record α) : (r.map f).columns = r.columns := by
  rw [columns, map, List.map_map]
  rfl

@[simp] theorem size_map (f : α → β) (r : Record α) : (r.map f).size = r.size := List.length_map _

@[simp] theorem isEmpty_map (f : α → β) (r : Record α) : (r.map f).isEmpty = r.isEmpty :=
  List.isEmpty_map

theorem takeEntry_map (f : α → β) (column : String) (es : List (String × α)) :
    takeEntry column (es.map fun e => (e.1, f e.2)) =
      (takeEntry column es).map fun p => (f p.1, p.2.map fun e => (e.1, f e.2)) := by
  induction es with
  | nil => rfl
  | cons e es ih =>
    rw [List.map_cons, takeEntry, takeEntry, ih]
    split
    · rfl
    · cases takeEntry column es <;> rfl

/-- **Taking a column out commutes with rewriting.** -/
theorem take?_map (f : α → β) (r : Record α) (column : String) :
    (r.map f).take? column = (r.take? column).map fun p => (f p.1, p.2.map f) := by
  have hentries : Function.Injective fun p : β × Record β => (p.1, p.2.entries) := by
    rintro ⟨a, es, hes⟩ ⟨b, fs, hfs⟩ h
    cases h
    rfl
  refine Option.map_injective hentries ?_
  rw [take?_eq, map, takeEntry_map, ← take?_eq, Option.map_map, Option.map_map]
  rfl

end FluentSql.Record
