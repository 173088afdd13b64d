import FluentSql.Proofs.Agree
import FluentSql.Proofs.Alignment.Query
import FluentSql.Proofs.Edits

/-!
# Proofs/Alignment/Edit — edits that put values in place

A `MarkedEdit` is an edit whose entry holds its own values; `unmarked` is the edit that puts them
aside.  `Traces ms es` says that the marked edits `ms` are a reading of the edits `es`.  Then the
marked query they make is a reading of the query the edits make (`Traces.compile`): values may be
appended, replaced or dropped with a failing call, and still every one stays with its placeholder.
-/

namespace FluentSql

/-- **A primitive step of building, its values in place.** -/
inductive MarkedEdit
  | append (clause : Clause) (entry : Entry)
  | replace (clause : Clause) (entry : Entry)
  | lock (sql : String)
  | fail (error : BuildError)
  | notFound (message : String)
  | page (number : UInt64)
  | perPage (size : UInt64)
  | debug (on : Bool)

/-- **The edit with its values put aside.** -/
def MarkedEdit.unmarked : MarkedEdit → Edit
  | .append c e => .append c [e.fragment] e.values
  | .replace c e => .replace c e.fragment e.values
  | .lock sql => .lock sql
  | .fail e => .fail e
  | .notFound message => .notFound message
  | .page n => .page n
  | .perPage n => .perPage n
  | .debug on => .debug on

/-- Only values stand for placeholders, and offsets are not added. -/
def MarkedEdit.Clean : MarkedEdit → Prop
  | .append c e => c ≠ .offset ∧ e.body.Clean
  | .replace _ e => e.body.Clean
  | .lock sql => NoPlaceholder sql
  | _ => True

namespace MarkedQuery

/-- A marked query with the entries of one clause changed. -/
def modify (q : MarkedQuery) (f : List Entry → List Entry) (c : Clause) : MarkedQuery :=
  { q with part := fun d => if d = c then f (q.part c) else q.part d }

@[simp] theorem part_modify_self (q : MarkedQuery) (f : List Entry → List Entry) (c : Clause) :
    (q.modify f c).part c = f (q.part c) := if_pos rfl

theorem part_modify_of_ne (q : MarkedQuery) (f : List Entry → List Entry) {c d : Clause}
    (h : d ≠ c) : (q.modify f c).part d = q.part d := if_neg h

/-- **Applies a marked edit.** -/
def edit (q : MarkedQuery) : MarkedEdit → MarkedQuery
  | .append c e => q.modify (· ++ [e]) c
  | .replace c e => q.modify (fun _ => [e]) c
  | .lock sql => { q with lock := some sql }
  | _ => q

/-- The query that marked edits make from nothing. -/
def ofEdits (ms : List MarkedEdit) : MarkedQuery := ms.foldl edit {}

/-! ## One edit -/

/-- Putting values aside after a change of one clause changes the clause alone. -/
theorem unmarked_modify (q : MarkedQuery) {f : List Entry → List Entry} {g : Part → Part}
    {c : Clause} (h : ∀ es : List Entry,
      (⟨(f es).map Entry.fragment, (f es).flatMap Entry.values⟩ : Part) =
        g ⟨es.map Entry.fragment, es.flatMap Entry.values⟩) :
    (q.modify f c).unmarked = q.unmarked.modify g c := by
  refine Query.ext_part (fun d => ?_) (by simp [modify])
  by_cases hd : d = c
  · subst hd
    rw [part_unmarked, Query.part_modify_self, part_unmarked, unmarkedPart, part_modify_self]
    exact h _
  · rw [part_unmarked, Query.part_modify_of_ne _ _ hd, part_unmarked, unmarkedPart,
      part_modify_of_ne _ _ hd, unmarkedPart]

/-- **A marked edit does to the query what its edit does.** -/
theorem unmarked_edit {b : Builder} {q : MarkedQuery} (h : b.query = q.unmarked)
    (m : MarkedEdit) : (b.edit m.unmarked).query = (q.edit m).unmarked := by
  cases m with
  | append c e =>
    have := q.unmarked_modify (f := (· ++ [e])) (g := (·.append [e.fragment] e.values)) (c := c)
      fun es => by simp [Part.append]
    exact (congrArg (·.append c [e.fragment] e.values) h).trans this.symm
  | replace c e =>
    have := q.unmarked_modify (f := fun _ => [e]) (g := fun _ => ⟨[e.fragment], e.values⟩) (c := c)
      fun es => by simp
    refine (congrArg (·.replace c e.fragment e.values) h).trans (Eq.trans ?_ this.symm)
    refine Query.ext_part (fun d => ?_) (by simp [Query.replace, Query.append, Query.reset])
    by_cases hd : d = c
    · subst hd
      simp [Query.replace, Query.append, Query.reset, Part.append]
    · simp only [Query.replace, Query.append, Query.reset, Query.part_modify_of_ne _ _ hd]
  | lock sql => exact (congrArg (·.setLock (some sql)) h).trans rfl
  | fail e => exact h
  | notFound message => exact h
  | page n => exact h
  | perPage n => exact h
  | debug on => exact h

/-- **A change of one clause keeps a query clean**, if it leaves the clause with clean entries and an
offset with one at most. -/
theorem Clean.modify {q : MarkedQuery} (h : q.Clean) {f : List Entry → List Entry} {c : Clause}
    (hf : ∀ e ∈ f (q.part c), e.body.Clean) (hone : c = .offset → (f (q.part c)).length ≤ 1) :
    (q.modify f c).Clean := by
  refine ⟨fun d e he => ?_, ?_, h.lock⟩
  · by_cases hd : d = c
    · subst hd
      rw [part_modify_self] at he
      exact hf e he
    · rw [part_modify_of_ne _ _ hd] at he
      exact h.entries d e he
  · by_cases hc : c = .offset
    · subst hc
      rw [part_modify_self]
      exact hone rfl
    · rw [part_modify_of_ne _ _ fun hd => hc hd.symm]
      exact h.offset

theorem Clean.edit {q : MarkedQuery} (h : q.Clean) {m : MarkedEdit} (hm : m.Clean) :
    (q.edit m).Clean := by
  cases m with
  | append c e =>
    obtain ⟨hc, he⟩ := hm
    have happend : ∀ x ∈ q.part c ++ [e], x.body.Clean := by
      intro x hx
      rcases List.mem_append.mp hx with hx | hx
      · exact h.entries c x hx
      · exact List.mem_singleton.mp hx ▸ he
    exact h.modify (f := (· ++ [e])) happend fun hoffset => absurd hoffset hc
  | replace c e =>
    have hreplace : ∀ x ∈ [e], x.body.Clean := fun x hx => List.mem_singleton.mp hx ▸ hm
    exact h.modify (f := fun _ => [e]) hreplace fun _ => Nat.le_refl 1
  | lock sql =>
    refine ⟨h.entries, h.offset, ?_⟩
    rintro _ ⟨⟩
    exact hm
  | fail e => exact h
  | notFound message => exact h
  | page n => exact h
  | perPage n => exact h
  | debug on => exact h

theorem clean_empty : Clean {} := ⟨fun _ _ h => absurd h List.not_mem_nil, Nat.zero_le 1, by simp⟩

end MarkedQuery

/-! ## A run of edits -/

/-- **Marked edits are a reading of edits.** -/
structure Traces (ms : List MarkedEdit) (es : List Edit) : Prop where
  unmarked : ms.map MarkedEdit.unmarked = es
  clean : ∀ m ∈ ms, m.Clean

namespace MarkedEdit

/-- The first error of marked edits. -/
def firstError (ms : List MarkedEdit) : Option BuildError :=
  (ms.map unmarked).findSome? Edit.error?

/-- **The SELECT statement of marked edits**, or their first error. -/
def compile (ms : List MarkedEdit) : Except BuildError Marked :=
  match firstError ms with
  | some e => .error e
  | none => .ok (MarkedQuery.ofEdits ms).select

end MarkedEdit

/-- **A result with values in place is a reading of a result.** -/
abbrev SpellsResult : Except BuildError Marked → Except BuildError Statement → Prop :=
  Agree fun m s => Spells m s.sql s.bindings

namespace Traces

variable {ms ms' : List MarkedEdit} {es es' : List Edit}

theorem nil : Traces [] [] := ⟨rfl, fun _ h => absurd h List.not_mem_nil⟩

theorem singleton {m : MarkedEdit} {e : Edit} (h : m.unmarked = e) (hm : m.Clean) :
    Traces [m] [e] :=
  ⟨congrArg (fun x => [x]) h, fun _ hx => List.mem_singleton.mp hx ▸ hm⟩

theorem append (h : Traces ms es) (h' : Traces ms' es') : Traces (ms ++ ms') (es ++ es') :=
  ⟨by rw [List.map_append, h.unmarked, h'.unmarked],
    fun m hm => (List.mem_append.mp hm).elim (h.clean m) (h'.clean m)⟩

/-- Edits made one by one from a list. -/
theorem map {α : Type} {f : α → MarkedEdit} {g : α → Edit} {l : List α}
    (h : ∀ a ∈ l, Traces [f a] [g a]) : Traces (l.map f) (l.map g) := by
  induction l with
  | nil => exact nil
  | cons a l ih =>
    exact (h a List.mem_cons_self).append (ih fun x hx => h x (List.mem_cons_of_mem a hx))

/-- Edits made several at a time from a list. -/
theorem flatMap {α : Type} {f : α → List MarkedEdit} {g : α → List Edit} {l : List α}
    (h : ∀ a ∈ l, Traces (f a) (g a)) : Traces (l.flatMap f) (l.flatMap g) := by
  induction l with
  | nil => exact nil
  | cons a l ih =>
    exact (h a List.mem_cons_self).append (ih fun x hx => h x (List.mem_cons_of_mem a hx))

/-- **The query of the edits is the marked query with its values put aside.** -/
theorem query (h : Traces ms es) (t : Target) :
    (Builder.ofEdits t es).query = (MarkedQuery.ofEdits ms).unmarked := by
  have hrun : ∀ (ms : List MarkedEdit) (b : Builder) (q : MarkedQuery), b.query = q.unmarked →
      (b.edits (ms.map MarkedEdit.unmarked)).query = (ms.foldl MarkedQuery.edit q).unmarked := by
    intro ms
    induction ms with
    | nil => exact fun _ _ hq => hq
    | cons m ms ih => exact fun b q hq => ih _ _ (q.unmarked_edit hq m)
  rw [← h.unmarked]
  exact hrun ms _ {} rfl

theorem clean_ofEdits (h : Traces ms es) : (MarkedQuery.ofEdits ms).Clean := by
  have hrun : ∀ (ms : List MarkedEdit) (q : MarkedQuery), q.Clean → (∀ m ∈ ms, m.Clean) →
      (ms.foldl MarkedQuery.edit q).Clean := by
    intro ms
    induction ms with
    | nil => exact fun _ hq _ => hq
    | cons m ms ih =>
      exact fun q hq hms => ih _ (hq.edit (hms m List.mem_cons_self))
        fun x hx => hms x (List.mem_cons_of_mem m hx)
  exact hrun ms {} MarkedQuery.clean_empty h.clean

theorem firstError (h : Traces ms es) (t : Target) :
    MarkedEdit.firstError ms = (Builder.ofEdits t es).error := by
  rw [MarkedEdit.firstError, h.unmarked, Builder.error_ofEdits]

/-- **The statement as it stands is read by the marked query**, whatever errors there were. -/
theorem select (h : Traces ms es) (t : Target) :
    Spells (MarkedQuery.ofEdits ms).select (Builder.ofEdits t es).sql
      (Builder.ofEdits t es).bindings := by
  rw [Builder.sql, Builder.bindings, h.query t]
  exact MarkedQuery.spells_select h.clean_ofEdits

/-- **The compiled statement is read by the compiled marked edits.** -/
theorem compile (h : Traces ms es) (t : Target) :
    SpellsResult (MarkedEdit.compile ms) (Builder.ofEdits t es).compile := by
  rw [MarkedEdit.compile, Builder.compile_eq, h.firstError t]
  cases (Builder.ofEdits t es).error with
  | some e => exact .error e
  | none => exact .ok (h.select t)

end Traces

end FluentSql
