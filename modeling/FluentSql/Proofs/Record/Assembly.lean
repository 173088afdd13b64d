import FluentSql.Proofs.Record
import Mathlib.Data.List.Induction

/-!
# Proofs/Record/Assembly — a record is what its assignments leave

    assignments   a ≔ 1   b ≔ 2   a ≔ 3   c ≔ 4
    record        a ≔ 3   b ≔ 2   c ≔ 4

However a record is put together, it comes from a sequence of assignments (`Assembly.assignments`), and
nothing but the sequence matters (`Assembly.record_eq_ofList`): the columns stand in the order of their
first assignment, and each has its last one.  A record is known by its columns in their order and the
assignment of each (`Record.ext_get?`), so that the laws of merging are laws of lists and of options.
-/

namespace FluentSql

namespace Record

variable {α : Type} {column : String} {a : α}

/-! ## What a record is known by -/

/-- **The entries** are the columns, each with its assignment. -/
theorem entries_eq (r : Record α) :
    r.entries = r.columns.filterMap fun c => (r.get? c).map (c, ·) := by
  have hentry : ∀ e ∈ r.entries, (r.get? e.1).map (e.1, ·) = some e := fun e he => by
    rw [get?_eq_some_iff.mpr he, Option.map_some]
  rw [columns, List.filterMap_map]
  exact (List.filterMap_some.symm).trans (List.filterMap_congr fun e he => (hentry e he).symm)

/-- **A record is known by its columns and their assignments.** -/
theorem ext_get? {r s : Record α} (hcolumns : r.columns = s.columns)
    (hget : ∀ c, r.get? c = s.get? c) : r = s := by
  have hentries : r.entries = s.entries := by
    rw [entries_eq, entries_eq s, hcolumns]
    simp only [hget]
  cases r
  cases s
  cases hentries
  rfl

/-! ## One column more -/

theorem columns_set (r : Record α) (column : String) (a : α) :
    (r.set column a).columns =
      if column ∈ r.columns then r.columns else r.columns ++ [column] :=
  map_fst_setEntry column a r.entries

theorem find?_setEntry (column : String) (a : α) (es : List (String × α)) (c : String) :
    (setEntry column a es).find? (fun e => e.1 == c) =
      if column = c then some (column, a) else es.find? fun e => e.1 == c := by
  induction es with
  | nil => by_cases h : column = c <;> simp [setEntry, h]
  | cons e es ih =>
    obtain ⟨d, b⟩ := e
    by_cases hd : d = column
    · by_cases h : column = c <;> simp [setEntry, hd, h]
    · rw [setEntry, if_neg hd, List.find?_cons, ih, List.find?_cons]
      by_cases h : column = c
      · have hdc : (d == c) = false := beq_false_of_ne (h ▸ hd)
        simp [h, hdc]
      · simp [h]

/-- **A column has the assignment it was set to**, and the others keep theirs. -/
theorem get?_set (r : Record α) (column : String) (a : α) (c : String) :
    (r.set column a).get? c = if column = c then some a else r.get? c := by
  rw [get?, set, find?_setEntry]
  split <;> rfl

/-! ## Merging -/

theorem columns_foldl_set (r : Record α) {es : List (String × α)} (h : (es.map Prod.fst).Nodup) :
    (es.foldl (fun r (c, a) => r.set c a) r).columns =
      r.columns ++ (es.map Prod.fst).filter (· ∉ r.columns) := by
  induction es generalizing r with
  | nil => simp
  | cons e es ih =>
    obtain ⟨c, a⟩ := e
    rw [List.map_cons, List.nodup_cons] at h
    rw [List.foldl_cons, ih _ h.2, columns_set, List.map_cons]
    split
    · next hc => rw [List.filter_cons_of_neg (by simpa using hc)]
    · next hc =>
      -- the column is new, and the entries behind it have others
      have hrest : (es.map Prod.fst).filter (· ∉ r.columns ++ [c]) =
          (es.map Prod.fst).filter (· ∉ r.columns) :=
        List.filter_congr fun x hx => by
          have hne : x ≠ c := fun heq => h.1 (heq ▸ hx)
          simp [hne]
      rw [hrest, List.filter_cons_of_pos (by simpa using hc), List.append_assoc,
        List.singleton_append]

/-- **The columns of the first record in their order, then the new ones of the second.** -/
theorem columns_merge (r s : Record α) :
    (r.merge s).columns = r.columns ++ s.columns.filter (· ∉ r.columns) :=
  columns_foldl_set r s.nodup

theorem get?_foldl_set (r : Record α) {es : List (String × α)} (h : (es.map Prod.fst).Nodup)
    (c : String) :
    (es.foldl (fun r (c, a) => r.set c a) r).get? c =
      ((es.find? fun e => e.1 == c).map Prod.snd).or (r.get? c) := by
  induction es generalizing r with
  | nil => rfl
  | cons e es ih =>
    obtain ⟨d, a⟩ := e
    rw [List.map_cons, List.nodup_cons] at h
    rw [List.foldl_cons, ih _ h.2, get?_set, List.find?_cons]
    by_cases hc : d = c
    · have hnone : es.find? (fun e => e.1 == c) = none :=
        List.find?_eq_none.mpr fun e he heq =>
          h.1 (List.mem_map.mpr ⟨e, he, (eq_of_beq heq).trans hc.symm⟩)
      simp [hnone, hc]
    · have hdc : (d == c) = false := beq_false_of_ne hc
      simp [hc, hdc]

/-- **The second record wins** where both have a column. -/
theorem get?_merge (r s : Record α) (c : String) :
    (r.merge s).get? c = (s.get? c).or (r.get? c) :=
  get?_foldl_set r s.nodup c

@[simp] theorem merge_empty (r : Record α) : r.merge empty = r := rfl

@[simp] theorem empty_merge (r : Record α) : empty.merge r = r :=
  ext_get? (by rw [columns_merge]; simp [columns, empty]) fun c => by
    rw [get?_merge]; simp [get?, empty]

/-- **Merging is associative.** -/
theorem merge_assoc (r s t : Record α) : (r.merge s).merge t = r.merge (s.merge t) := by
  refine ext_get? ?_ fun c => ?_
  · have hnew : t.columns.filter (· ∉ r.columns ++ s.columns.filter (· ∉ r.columns)) =
        (t.columns.filter (· ∉ s.columns)).filter (· ∉ r.columns) := by
      rw [List.filter_filter]
      refine List.filter_congr fun c _ => ?_
      by_cases hc : c ∈ r.columns <;> simp [hc]
    rw [columns_merge, columns_merge r s, columns_merge r, columns_merge s, List.filter_append, hnew,
      List.append_assoc]
  · rw [get?_merge, get?_merge, get?_merge, get?_merge, Option.or_assoc]

/-- A column set in the second record is set in the merged one. -/
theorem merge_set (r s : Record α) (column : String) (a : α) :
    r.merge (s.set column a) = (r.merge s).set column a := by
  refine ext_get? ?_ fun c => ?_
  · rw [columns_merge, columns_set, columns_set, columns_merge]
    by_cases hs : column ∈ s.columns <;> by_cases hr : column ∈ r.columns <;> simp [hs, hr]
  · rw [get?_merge, get?_set, get?_set, get?_merge]
    split <;> rfl

/-! ## Entries set one after the other -/

theorem ofList_concat (es : List (String × α)) (e : String × α) :
    ofList (es ++ [e]) = (ofList es).set e.1 e.2 := by
  rw [ofList, List.foldl_append]
  rfl

/-- **Two lists of entries merged** are one behind the other. -/
theorem merge_ofList (es fs : List (String × α)) :
    (ofList es).merge (ofList fs) = ofList (es ++ fs) := by
  induction fs using List.reverseRecOn with
  | nil => rw [List.append_nil]; rfl
  | append_singleton fs e ih =>
    rw [ofList_concat, merge_set, ih, ← List.append_assoc, ofList_concat]

/-- **The columns stand in the order of their first assignment.** -/
theorem columns_ofList (es : List (String × α)) :
    (ofList es).columns = (es.map Prod.fst).eraseDups := by
  induction es using List.reverseRecOn with
  | nil => rfl
  | append_singleton es e ih =>
    rw [ofList_concat, columns_set, ih, List.map_append, List.eraseDups_append]
    by_cases h : e.1 ∈ es.map Prod.fst <;> simp [List.removeAll, List.eraseDups_cons, h]

/-- **A column has its last assignment.** -/
theorem get?_ofList (es : List (String × α)) (c : String) :
    (ofList es).get? c = (es.findRev? fun e => e.1 == c).map Prod.snd := by
  induction es using List.reverseRecOn with
  | nil => rfl
  | append_singleton es e ih =>
    rw [ofList_concat, get?_set, ih]
    by_cases h : e.1 = c <;> simp [h]

/-! ## Records put together -/

/-- **How a record is put together**: one column after the other, from lists of entries, and by merging
what was put together likewise. -/
inductive Assembly (α : Type)
  | empty
  /-- One column more. -/
  | set (first : Assembly α) (column : String) (a : α)
  | ofList (entries : List (String × α))
  | merge (first second : Assembly α)

namespace Assembly

/-- The record put together. -/
def record : Assembly α → Record α
  | empty => Record.empty
  | set first column a => first.record.set column a
  | ofList entries => Record.ofList entries
  | merge first second => first.record.merge second.record

/-- **The assignments made**, in the order in which they are made. -/
def assignments : Assembly α → List (String × α)
  | empty => []
  | set first column a => first.assignments ++ [(column, a)]
  | ofList entries => entries
  | merge first second => first.assignments ++ second.assignments

/-- **Nothing but the sequence of the assignments matters.** -/
theorem record_eq_ofList (m : Assembly α) : m.record = Record.ofList m.assignments := by
  induction m with
  | empty => rfl
  | set first column a ih => rw [record, assignments, ih, ofList_concat]
  | ofList entries => rfl
  | merge first second ih₁ ih₂ => rw [record, assignments, ih₁, ih₂, merge_ofList]

end Assembly

/-- **A record is a map in the order of insertion.**  However it was put together, no column occurs
twice, the columns stand in the order of their first assignment, and each has its last one.  Merging
keeps the columns of the first record, adds the new ones of the second behind them and gives a column
of both what the second assigns; it is associative, and the empty record changes nothing.  Taking a
column out gives its assignment and leaves the other entries as they stand; a column that is not set
gives nothing. -/
theorem insertion_ordered (m : Assembly α) (s t : Record α) :
    let r := m.record
    (r.columns.Nodup ∧
      r.columns = (m.assignments.map Prod.fst).eraseDups ∧
      ∀ c, r.get? c = (m.assignments.findRev? fun e => e.1 == c).map Prod.snd) ∧
    ((r.merge s).columns = r.columns ++ s.columns.filter (· ∉ r.columns) ∧
      ∀ c, (r.merge s).get? c = (s.get? c).or (r.get? c)) ∧
    ((r.merge s).merge t = r.merge (s.merge t) ∧ r.merge empty = r ∧ empty.merge r = r) ∧
    ∀ c, (r.take? c).map (fun p => (p.1, p.2.entries)) =
      (r.get? c).map fun a => (a, r.entries.filter fun e => e.1 != c) := by
  intro r
  have hrecord : r = ofList m.assignments := m.record_eq_ofList
  refine ⟨⟨r.nodup_columns, ?_, fun c => ?_⟩, ⟨columns_merge r s, get?_merge r s⟩,
    ⟨merge_assoc r s t, merge_empty r, empty_merge r⟩, take?_eq_get? r⟩
  · rw [hrecord, columns_ofList]
  · rw [hrecord, get?_ofList]

example : ((ofList [("a", 1), ("b", 2), ("a", 3)]).merge (ofList [("c", 4), ("b", 5)])).entries =
    [("a", 3), ("b", 5), ("c", 4)] := by decide

end Record

end FluentSql
