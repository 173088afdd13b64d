/-!
# Record — columns with what they are set to

A `Record` maps column names to assignments and remembers the order in which the columns were first
set.  Setting a column again replaces its assignment where it stands, so a column occurs once.
-/

namespace FluentSql

/-- **An insertion-ordered map** from column names. -/
structure Record (α : Type) where
  entries : List (String × α)
  /-- No column occurs twice. -/
  nodup : (entries.map Prod.fst).Nodup

namespace Record

variable {α : Type}

/-! ## Entries -/

/-- The entries with one column set: in its place if it is there, else at the end. -/
def setEntry (column : String) (a : α) : List (String × α) → List (String × α)
  | [] => [(column, a)]
  | (c, b) :: rest => if c = column then (c, a) :: rest else (c, b) :: setEntry column a rest

/-- The columns of the entries with one column set. -/
theorem map_fst_setEntry (column : String) (a : α) (es : List (String × α)) :
    (setEntry column a es).map Prod.fst =
      if column ∈ es.map Prod.fst then es.map Prod.fst else es.map Prod.fst ++ [column] := by
  induction es with
  | nil => simp [setEntry]
  | cons e rest ih =>
    obtain ⟨c, b⟩ := e
    by_cases h : c = column
    · simp [setEntry, h]
    · simp only [setEntry, h, if_false, List.map_cons, ih, List.mem_cons, Ne.symm h, false_or]
      split <;> simp

theorem nodup_setEntry (column : String) (a : α) {es : List (String × α)}
    (h : (es.map Prod.fst).Nodup) : ((setEntry column a es).map Prod.fst).Nodup := by
  rw [map_fst_setEntry]
  split
  · exact h
  · next hn =>
    rw [List.nodup_append]
    exact ⟨h, by simp, fun x hx y hy hxy => hn (by simp at hy; rwa [← hy, ← hxy])⟩

/-! ## Operations -/

/-- The record of no column. -/
def empty : Record α := ⟨[], List.nodup_nil⟩

/-- **Sets a column.** -/
def set (r : Record α) (column : String) (a : α) : Record α :=
  ⟨setEntry column a r.entries, nodup_setEntry column a r.nodup⟩

/-- The record of a list of entries, set one after the other. -/
def ofList (entries : List (String × α)) : Record α :=
  entries.foldl (fun r (c, a) => r.set c a) empty

/-- **Sets every column of a second record**, in its order. -/
def merge (r s : Record α) : Record α := s.entries.foldl (fun r (c, a) => r.set c a) r

/-- The assignment of a column. -/
def get? (r : Record α) (column : String) : Option α :=
  (r.entries.find? fun e => e.1 == column).map Prod.snd

/-- The assignment of a column and the entries without it. -/
def takeEntry (column : String) : List (String × α) → Option (α × List (String × α))
  | [] => none
  | (c, b) :: rest =>
    if c = column then some (b, rest)
    else (takeEntry column rest).map fun (a, rest) => (a, (c, b) :: rest)

theorem sublist_takeEntry {column : String} {a : α} {es rest : List (String × α)}
    (h : takeEntry column es = some (a, rest)) : rest.Sublist es := by
  induction es generalizing rest with
  | nil => simp [takeEntry] at h
  | cons e es ih =>
    obtain ⟨c, b⟩ := e
    unfold takeEntry at h
    split at h
    · simp only [Option.some.injEq, Prod.mk.injEq] at h
      rw [← h.2]
      exact List.sublist_cons_self _ _
    · simp only [Option.map_eq_some_iff, Prod.mk.injEq] at h
      obtain ⟨⟨a', rest'⟩, h', _, rfl⟩ := h
      exact (ih (by rw [h']; simp_all)).cons_cons _

/-- **Takes a column out**: its assignment and the record of the others. -/
def take? (r : Record α) (column : String) : Option (α × Record α) :=
  match h : takeEntry column r.entries with
  | some (a, rest) => some (a, ⟨rest, r.nodup.sublist ((sublist_takeEntry h).map Prod.fst)⟩)
  | none => none

/-- The columns in the order they were first set. -/
def columns (r : Record α) : List String := r.entries.map Prod.fst

/-- The number of columns. -/
def size (r : Record α) : Nat := r.entries.length

/-- Whether no column is set. -/
def isEmpty (r : Record α) : Bool := r.entries.isEmpty

end Record

end FluentSql
