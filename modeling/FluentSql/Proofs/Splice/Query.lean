import FluentSql.Proofs.Clauses
import FluentSql.Proofs.Compilation
import FluentSql.Proofs.Edits
import FluentSql.Proofs.Splice.Text

/-!
# Proofs/Splice/Query — queries with one gap

A query has a gap in a clause (`QueryGap`) when one fragment of the clause has one, and edits have a
gap (`EditsGap`) when one of them adds such a fragment and no later one replaces the clause.  A gap
in the edits is a gap in the query they make (`EditsGap.query`), and a gap in the query is a gap in
the statement, whichever statement is made of it (`QueryGap.select`, `EditsGapped.compilation`).
-/

namespace FluentSql

variable {ι : Type} {w : ι → String} {c : Clause}

/-! ## Changes of clauses -/

namespace Query

/-- Changes of different clauses change places. -/
theorem modify_comm (q : Query) (f g : Part → Part) {c d : Clause} (h : c ≠ d) :
    (q.modify f c).modify g d = (q.modify g d).modify f c := by
  cases c <;> cases d <;> first | rfl | exact absurd rfl h

/-- Two changes of a clause are one. -/
theorem modify_modify (q : Query) (f g : Part → Part) (c : Clause) :
    (q.modify f c).modify g c = q.modify (fun p => g (f p)) c := by
  cases c <;> rfl

/-- A change matters only for what the clause holds. -/
theorem modify_congr {q : Query} {f g : Part → Part} {c : Clause} (h : f (q.part c) = g (q.part c)) :
    q.modify f c = q.modify g c := by
  cases c <;> simp only [modify, part] at h ⊢ <;> rw [h]

/-- The query with other fragments in a clause. -/
def withFragments (q : Query) (c : Clause) (fs : List Fragment) : Query :=
  q.modify (fun p => ⟨fs, p.bindings⟩) c

theorem part_withFragments (q : Query) (c : Clause) (fs : List Fragment) :
    (q.withFragments c fs).part c = ⟨fs, (q.part c).bindings⟩ := part_modify_self ..

theorem bindings_part_withFragments (q : Query) (c d : Clause) (fs : List Fragment) :
    ((q.withFragments c fs).part d).bindings = (q.part d).bindings := by
  by_cases h : d = c
  · rw [h, part_withFragments]
  · exact congrArg Part.bindings (part_modify_of_ne q _ h)

end Query

/-! ## Gaps in fragments, queries and edits -/

/-- **A fragment with one gap.** -/
structure FragmentGap (w : ι → String) (f : ι → Fragment) : Prop where
  text : Anchored w fun i => (f i).sql
  kind : Fixed fun i => (f i).isText

/-- Queries that differ in one fragment of a clause. -/
def QueryAround (c : Clause) (f : ι → Fragment) (q : ι → Query) : Prop :=
  ∃ q₀ fs gs, ∀ i, q i = Query.withFragments q₀ c (fs ++ f i :: gs)

/-- **A query with one gap**, in one fragment of a clause. -/
def QueryGap (w : ι → String) (c : Clause) (q : ι → Query) : Prop :=
  c ≠ .offset ∧ ∃ f, FragmentGap w f ∧ QueryAround c f q

/-- Edits that do not replace a clause. -/
def Keeps (c : Clause) (es : List Edit) : Prop :=
  ∀ e ∈ es, ∀ fragment values, e ≠ .replace c fragment values

theorem Keeps.nil {c : Clause} : Keeps c [] := fun _ he => absurd he List.not_mem_nil

/-- **A clause that is only added to.** -/
def Clause.Lasting (c : Clause) : Prop := c ≠ .limits ∧ c ≠ .offset

instance (c : Clause) : Decidable c.Lasting := inferInstanceAs (Decidable (_ ∧ _))

/-- **Edits with one gap**, in a fragment that one of them adds to a clause.  A source with a gap is a
sub-query in parentheses. -/
def EditsGap (w : ι → String) (c : Clause) (es : ι → List Edit) : Prop :=
  c.Lasting ∧ ∃ before f values after, FragmentGap w f ∧ Keeps c after ∧
    (c = .froms → ∀ i, (f i).sql.toList.head? = some '(') ∧
    ∀ i, es i = before ++ .append c [f i] values :: after

/-- **Edits with one gap at most.** -/
def EditsGapped (w : ι → String) (es : ι → List Edit) : Prop :=
  Fixed es ∨ ∃ c, EditsGap w c es

/-- **A result with one gap at most**, in its statement. -/
def ResultGapped (w : ι → String) (r : ι → Except BuildError Statement) : Prop :=
  Fixed r ∨ ∃ f values, Anchored w f ∧ ∀ i, r i = .ok ⟨f i, values⟩

/-! ## The query that edits make -/

section

variable {f : ι → Fragment}

/-- **An edit leaves the fragment that differs where it is**, unless it replaces the clause. -/
theorem QueryAround.edit {b : ι → Builder} (h : QueryAround c f fun i => (b i).query) {e : Edit}
    (he : ∀ fragment values, e ≠ .replace c fragment values) :
    QueryAround c f fun i => ((b i).edit e).query := by
  obtain ⟨q, fs, gs, hq⟩ := h
  have hq : ∀ i, (b i).query = q.withFragments c (fs ++ f i :: gs) := hq
  cases e with
  | append d fragments values =>
    by_cases hd : d = c
    · subst hd
      refine ⟨q.append d [] values, fs, gs ++ fragments, fun i => ?_⟩
      change (b i).query.append d fragments values = _
      rw [hq, Query.withFragments, Query.withFragments, Query.append, Query.append,
        Query.modify_modify, Query.modify_modify]
      simp [Part.append]
    · refine ⟨q.append d fragments values, fs, gs, fun i => ?_⟩
      change (b i).query.append d fragments values = _
      rw [hq]
      exact Query.modify_comm q _ _ (Ne.symm hd)
  | replace d fragment values =>
    have hd : c ≠ d := by
      rintro rfl
      exact he fragment values rfl
    refine ⟨q.replace d fragment values, fs, gs, fun i => ?_⟩
    change (b i).query.replace d fragment values = _
    rw [hq]
    simp only [Query.replace, Query.reset, Query.append, Query.modify_modify]
    exact Query.modify_comm q _ _ hd
  | lock sql =>
    refine ⟨q.setLock (some sql), fs, gs, fun i => ?_⟩
    change (b i).query.setLock (some sql) = _
    rw [hq]
    cases c <;> rfl
  | fail _ | notFound _ | page _ | perPage _ | debug _ => exact ⟨q, fs, gs, hq⟩

/-- So do edits one after the other. -/
theorem QueryAround.edits {b : ι → Builder} (h : QueryAround c f fun i => (b i).query)
    {es : List Edit} (hes : Keeps c es) : QueryAround c f fun i => ((b i).edits es).query := by
  induction es generalizing b with
  | nil => exact h
  | cons e es ih =>
    exact ih (h.edit (hes e List.mem_cons_self)) fun e' he' => hes e' (List.mem_cons_of_mem e he')

/-- An added fragment makes the queries differ in it. -/
theorem QueryAround.append {es : ι → List Edit} {before after : List Edit} {values : List Value}
    (hafter : Keeps c after) (hes : ∀ i, es i = before ++ .append c [f i] values :: after)
    (t : Target) : QueryAround c f fun i => (Builder.ofEdits t (es i)).query := by
  have hadded : QueryAround c f fun i =>
      ((Builder.ofEdits t before).edit (.append c [f i] values)).query := by
    refine ⟨(Builder.ofEdits t before).query.append c [] values,
      ((Builder.ofEdits t before).query.part c).fragments, [], fun i => ?_⟩
    change (Builder.ofEdits t before).query.append c [f i] values = _
    rw [Query.withFragments, Query.append, Query.append, Query.modify_modify]
    exact Query.modify_congr (by simp [Part.append])
  obtain ⟨q, fs, gs, hq⟩ := hadded.edits hafter
  refine ⟨q, fs, gs, fun i => ?_⟩
  beta_reduce
  rw [hes, Builder.ofEdits, Builder.edits_append]
  exact hq i

end

/-- **Edits with a gap make a query with a gap.** -/
theorem EditsGap.query {es : ι → List Edit} (h : EditsGap w c es) (t : Target) :
    QueryGap w c fun i => (Builder.ofEdits t (es i)).query := by
  obtain ⟨hc, before, f, values, after, hf, hafter, -, hes⟩ := h
  exact ⟨hc.2, f, hf, .append hafter hes t⟩

/-- What is in the gap has no part in the first error. -/
theorem EditsGap.error {es : ι → List Edit} (h : EditsGap w c es) (t : Target) :
    Fixed fun i => (Builder.ofEdits t (es i)).error := by
  obtain ⟨-, before, f, values, after, -, -, -, hes⟩ := h
  refine ⟨(Builder.ofEdits t (before ++ after)).error, fun i => ?_⟩
  beta_reduce
  rw [hes, Builder.error_ofEdits, Builder.error_ofEdits, List.findSome?_append,
    List.findSome?_append, List.findSome?_cons]
  rfl

/-! ## The statement of a query with a gap -/

section

variable {q : ι → Query} (h : QueryGap w c q)

include h

/-- **Every clause but the one with the gap is the same for all choices**, and so is the lock. -/
theorem QueryGap.base :
    ∃ q₀ : Query, (∀ i d, d ≠ c → (q i).part d = q₀.part d) ∧ ∀ i, (q i).lock = q₀.lock := by
  obtain ⟨-, f, -, q₀, fs, gs, hq⟩ := h
  refine ⟨q₀, fun i d hd => ?_, fun i => ?_⟩
  · rw [hq]
    exact Query.part_modify_of_ne q₀ _ hd
  · rw [hq]
    exact Query.lock_modify ..

theorem QueryGap.part {d : Clause} (hd : d ≠ c) : Fixed fun i => (q i).part d := by
  obtain ⟨q₀, hpart, -⟩ := h.base
  exact ⟨q₀.part d, fun i => hpart i d hd⟩

theorem QueryGap.clause?_of_ne {d : Clause} (hd : d ≠ c) : Fixed fun i => (q i).clause? d := by
  obtain ⟨q₀, hpart, -⟩ := h.base
  exact ⟨q₀.clause? d, fun i => Query.clause?_congr (hpart i d hd)⟩

/-- The values of the placeholders are the same for all choices. -/
theorem QueryGap.bindings : Fixed fun i => (q i).bindings := by
  obtain ⟨-, f, -, q₀, fs, gs, hq⟩ := h
  refine ⟨q₀.bindings, fun i => ?_⟩
  beta_reduce
  rw [hq]
  exact congrArg (List.flatMap · Clause.all)
    (funext fun d => Query.bindings_part_withFragments q₀ c d _)

variable (hw : Visible w)

include hw

/-- **The clause with the gap is written with the gap.** -/
theorem QueryGap.clause?_self :
    ∃ f, Spliced w f ∧ ∀ i, (q i).clause? c = some (f i) := by
  obtain ⟨hc, f, ⟨hf, -⟩, q₀, fs, gs, hq⟩ := h
  have hsome (i : ι) : (q i).fragments? c = some (fs ++ f i :: gs) := by
    rw [hq, Query.fragments?, Query.part_withFragments]
    cases fs <;> rfl
  have hjoin (sep : String) (i : ι) : Fragment.join sep (fs ++ f i :: gs) =
      Text.joinWith sep (fs.map Fragment.sql ++ (f i).sql :: gs.map Fragment.sql) := by
    rw [Fragment.join, List.map_append, List.map_cons]
  have hplain (sep : String) := hf.spliced.joinWith sep (fs.map Fragment.sql) (gs.map Fragment.sql)
  have hcut := hf.dropLeadingText hw " " (fs.map Fragment.sql) (gs.map Fragment.sql)
  have hlist := hf.dropCommas ", " (fs.map Fragment.sql) (gs.map Fragment.sql)
  simp only [← hjoin] at hplain hcut hlist
  cases c with
  | columns => exact ⟨_, hplain ", ", fun i => congrArg (Option.map _) (hsome i)⟩
  | froms => exact ⟨_, (hplain ", ").behind "FROM ", fun i => congrArg (Option.map _) (hsome i)⟩
  | joins => exact ⟨_, hplain " ", fun i => congrArg (Option.map _) (hsome i)⟩
  | wheres => exact ⟨_, hcut.behind ("WHERE" ++ " "), fun i => congrArg (Option.map _) (hsome i)⟩
  | groups => exact ⟨_, hlist.behind ("GROUP BY" ++ " "), fun i => congrArg (Option.map _) (hsome i)⟩
  | havings => exact ⟨_, hcut.behind ("HAVING" ++ " "), fun i => congrArg (Option.map _) (hsome i)⟩
  | orders => exact ⟨_, hlist.behind ("ORDER BY" ++ " "), fun i => congrArg (Option.map _) (hsome i)⟩
  | limits => exact ⟨_, (hplain ", ").behind "LIMIT ", fun i => congrArg (Option.map _) (hsome i)⟩
  | offset => exact absurd rfl hc
  | unions => exact ⟨_, hplain " ", fun i => congrArg (Option.map _) (hsome i)⟩

end

end FluentSql
