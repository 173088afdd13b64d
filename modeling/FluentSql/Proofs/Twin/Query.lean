import FluentSql.Builder.Statement
import FluentSql.Proofs.Agree
import FluentSql.Proofs.Edits
import FluentSql.Proofs.Twin.Text

/-!
# Proofs/Twin/Query — queries that are written as twins

Two queries are twins when their fragments are, clause by clause, and their values are the same.
Their clauses, and so their SELECTs, are then written as twins (`TwinQuery.select`), and edits that
are twins keep them so (`TwinBuilder.edit`).
-/

namespace FluentSql

/-! ## Fragments and clauses -/

/-- **Fragments of one kind with twin texts.** -/
inductive TwinFragment : Fragment → Fragment → Prop
  | text {s s' : String} (h : Twin s s') : TwinFragment (.text s) (.text s')
  | raw {s s' : String} (bind : Option Value) (h : Twin s s') :
    TwinFragment (.raw ⟨s, bind⟩) (.raw ⟨s', bind⟩)

/-- Fragments that are twins one by one. -/
abbrev TwinFragments : List Fragment → List Fragment → Prop := List.Forall₂ TwinFragment

theorem TwinFragment.sql {f f' : Fragment} (h : TwinFragment f f') : Twin f.sql f'.sql := by
  cases h with
  | text h => exact h
  | raw bind h => exact h

/-- A fragment without quotes is its own twin. -/
theorem TwinFragment.plain {f : Fragment} (h : Quoteless f.sql) : TwinFragment f f := by
  cases f with
  | text s => exact .text (.plain h)
  | raw e => exact .raw e.bind (.plain h)

theorem TwinFragments.join {sep : String} (hsep : Quoteless sep) {fs fs' : List Fragment}
    (h : TwinFragments fs fs') : Twin (Fragment.join sep fs) (Fragment.join sep fs') := by
  refine .joinWith hsep ?_
  rw [List.forall₂_map_left_iff, List.forall₂_map_right_iff]
  exact h.imp fun _ _ => TwinFragment.sql

/-- **Clauses with twin fragments and the same values.** -/
structure TwinPart (p p' : Part) : Prop where
  fragments : TwinFragments p.fragments p'.fragments
  bindings : p'.bindings = p.bindings

namespace TwinPart

variable {p p' : Part}

theorem isEmpty (h : TwinPart p p') : p'.isEmpty = p.isEmpty := by
  obtain ⟨hfragments, -⟩ := h
  revert hfragments
  rw [Part.isEmpty, Part.isEmpty]
  cases p.fragments <;> cases p'.fragments <;> rintro ⟨⟩ <;> rfl

theorem append (h : TwinPart p p') {fs fs' : List Fragment} (hfs : TwinFragments fs fs')
    (values : List Value) : TwinPart (p.append fs values) (p'.append fs' values) :=
  ⟨List.rel_append h.fragments hfs, congrArg (· ++ values) h.bindings⟩

end TwinPart

/-- **Queries that are twins clause by clause.** -/
structure TwinQuery (q q' : Query) : Prop where
  part : ∀ c, TwinPart (q.part c) (q'.part c)
  lock : Option.Rel Twin q.lock q'.lock

namespace TwinQuery

variable {q q' : Query}

theorem empty : TwinQuery {} {} :=
  ⟨fun c => by cases c <;> exact ⟨.nil, rfl⟩, .none⟩

/-! ## Writing -/

theorem fragments? (h : TwinQuery q q') (c : Clause) :
    Option.Rel TwinFragments (q.fragments? c) (q'.fragments? c) := by
  rw [Query.fragments?, Query.fragments?]
  have hfragments := (h.part c).fragments
  revert hfragments
  cases (q.part c).fragments <;> cases (q'.part c).fragments <;> rintro ⟨⟩
  · exact .none
  · next hf hfs => exact .some (.cons hf hfs)

/-- Results that may be missing, written on both sides. -/
theorem rel_map {α β : Type} {R : α → β → Prop} {o : Option α} {o' : Option β}
    {f : α → String} {g : β → String} (h : Option.Rel R o o')
    (hf : ∀ a b, R a b → Twin (f a) (g b)) : Option.Rel Twin (o.map f) (o'.map g) := by
  cases h with
  | none => exact .none
  | some h => exact .some (hf _ _ h)

/-- **Every clause is written as twins.** -/
theorem clause? (h : TwinQuery q q') (c : Clause) :
    Option.Rel Twin (q.clause? c) (q'.clause? c) := by
  have hjoin {sep : String} (hsep : Quoteless sep) (fs fs' : List Fragment)
      (hfs : TwinFragments fs fs') : Twin (Fragment.join sep fs) (Fragment.join sep fs') :=
    hfs.join hsep
  have hconditions {keyword : String} (hkeyword : Quoteless (keyword ++ " ")) :
      Option.Rel Twin (q.conditions? c keyword) (q'.conditions? c keyword) :=
    rel_map (h.fragments? c) fun fs fs' hfs =>
      (hjoin (by decide) fs fs' hfs).dropLeading.behind hkeyword
  have hlist {keyword : String} (hkeyword : Quoteless (keyword ++ " ")) :
      Option.Rel Twin (q.list? c keyword) (q'.list? c keyword) :=
    rel_map (h.fragments? c) fun fs fs' hfs =>
      (hjoin (by decide) fs fs' hfs).dropCommas.behind hkeyword
  cases c with
  | columns => exact rel_map (h.fragments? _) (hjoin (by decide))
  | joins => exact rel_map (h.fragments? _) (hjoin (by decide))
  | unions => exact rel_map (h.fragments? _) (hjoin (by decide))
  | froms | limits =>
    exact rel_map (h.fragments? _) fun fs fs' hfs =>
      (hjoin (by decide) fs fs' hfs).behind (by decide)
  | wheres | havings => exact hconditions (by decide)
  | groups | orders => exact hlist (by decide)
  | offset =>
    rw [Query.clause?, Query.clause?]
    have hfragments := (h.part .offset).fragments
    revert hfragments
    cases (q.part .offset).fragments <;> cases (q'.part .offset).fragments <;> rintro ⟨⟩
    · exact .none
    · next hf _ => exact .some (hf.sql.behind (by decide))

/-- The clauses among some that there are. -/
theorem filterMap (h : TwinQuery q q') (clauses : List Clause) :
    List.Forall₂ Twin (clauses.filterMap q.clause?) (clauses.filterMap q'.clause?) := by
  induction clauses with
  | nil => exact .nil
  | cons c clauses ih =>
    have hclause := h.clause? c
    rw [List.filterMap_cons, List.filterMap_cons]
    revert hclause
    cases q.clause? c <;> cases q'.clause? c <;> rintro ⟨⟩
    · exact ih
    · next hclause => exact .cons hclause ih

theorem body (h : TwinQuery q q') : List.Forall₂ Twin q.body q'.body := by
  refine .cons ?_ (List.rel_append (h.filterMap _) ?_)
  · have hcolumns := h.clause? .columns
    revert hcolumns
    cases q.clause? .columns <;> cases q'.clause? .columns <;> rintro ⟨⟩
    · exact .plain (by decide)
    · assumption
  · obtain ⟨-, hlock⟩ := h
    revert hlock
    cases q.lock <;> cases q'.lock <;> rintro ⟨⟩
    · exact .nil
    · next hlock => exact .cons hlock .nil

/-- **The SELECTs of twin queries are twins.** -/
theorem select (h : TwinQuery q q') : Twin q.select q'.select := by
  have hsql : Twin ("SELECT " ++ Text.joinWith " " q.body) ("SELECT " ++ Text.joinWith " " q'.body) :=
    (Twin.joinWith (by decide) h.body).behind (by decide)
  have hunions := h.clause? .unions
  rw [Query.select, Query.select]
  revert hunions
  cases q.clause? .unions <;> cases q'.clause? .unions <;> rintro ⟨⟩
  · exact hsql
  · next hunions => exact (hsql.before (by decide)).append hunions

theorem table (h : TwinQuery q q') : Twin q.table q'.table :=
  (h.part .froms).fragments.join (by decide)

theorem delete (h : TwinQuery q q') : Twin q.delete q'.delete :=
  (Twin.joinWith (by decide) (h.filterMap _)).behind (by decide)

/-- An optional clause behind a space. -/
theorem spaced (h : TwinQuery q q') (c : Clause) :
    Twin (Query.spaced (q.clause? c)) (Query.spaced (q'.clause? c)) := by
  have hclause := h.clause? c
  revert hclause
  cases q.clause? c <;> cases q'.clause? c <;> rintro ⟨⟩
  · exact .plain (by decide)
  · next hclause => exact hclause.behind (by decide)

/-- **The values of twin queries are the same.** -/
theorem bindings (h : TwinQuery q q') : q'.bindings = q.bindings :=
  List.flatMap_congr fun c _ => (h.part c).bindings

/-! ## Changing -/

theorem modify (h : TwinQuery q q') {f f' : Part → Part}
    (hf : ∀ p p', TwinPart p p' → TwinPart (f p) (f' p')) (c : Clause) :
    TwinQuery (q.modify f c) (q'.modify f' c) := by
  refine ⟨fun d => ?_, by rw [Query.lock_modify, Query.lock_modify]; exact h.lock⟩
  by_cases hd : d = c
  · subst hd
    rw [Query.part_modify_self, Query.part_modify_self]
    exact hf _ _ (h.part d)
  · rw [Query.part_modify_of_ne _ _ hd, Query.part_modify_of_ne _ _ hd]
    exact h.part d

theorem append (h : TwinQuery q q') (c : Clause) {fs fs' : List Fragment}
    (hfs : TwinFragments fs fs') (values : List Value) :
    TwinQuery (q.append c fs values) (q'.append c fs' values) :=
  h.modify (fun _ _ hp => hp.append hfs values) c

end TwinQuery

/-! ## Edits -/

/-- **Edits with twin texts, alike in all else.** -/
inductive TwinEdit : Edit → Edit → Prop
  | append (clause : Clause) {fs fs' : List Fragment} (h : TwinFragments fs fs')
    (values : List Value) : TwinEdit (.append clause fs values) (.append clause fs' values)
  | replace (clause : Clause) {f f' : Fragment} (h : TwinFragment f f') (values : List Value) :
    TwinEdit (.replace clause f values) (.replace clause f' values)
  | lock {sql sql' : String} (h : Twin sql sql') : TwinEdit (.lock sql) (.lock sql')
  | fail (e : BuildError) : TwinEdit (.fail e) (.fail e)
  | notFound (message : String) : TwinEdit (.notFound message) (.notFound message)
  | page (number : UInt64) : TwinEdit (.page number) (.page number)
  | perPage (size : UInt64) : TwinEdit (.perPage size) (.perPage size)
  | debug (on : Bool) : TwinEdit (.debug on) (.debug on)

/-- Edits that are twins one by one. -/
abbrev TwinEdits : List Edit → List Edit → Prop := List.Forall₂ TwinEdit

/-- **Builders with twin queries and the same error.** -/
structure TwinBuilder (b b' : Builder) : Prop where
  query : TwinQuery b.query b'.query
  error : b'.error = b.error

/-- **Statements with twin texts and the same values.** -/
structure TwinStatement (s s' : Statement) : Prop where
  sql : Twin s.sql s'.sql
  bindings : s'.bindings = s.bindings

namespace TwinBuilder

variable {b b' : Builder} {es es' : List Edit}

theorem edit (h : TwinBuilder b b') {e e' : Edit} (he : TwinEdit e e') :
    TwinBuilder (b.edit e) (b'.edit e') := by
  cases he with
  | append clause hfs values => exact ⟨h.query.append clause hfs values, h.error⟩
  | replace clause hf values =>
    have hreset : TwinQuery (b.query.reset clause) (b'.query.reset clause) :=
      h.query.modify (fun _ _ _ => ⟨.nil, rfl⟩) clause
    exact ⟨hreset.append clause (.cons hf .nil) values, h.error⟩
  | lock hsql =>
    refine ⟨⟨fun c => ?_, .some hsql⟩, h.error⟩
    rw [Builder.edit, Builder.edit, Query.part_setLock, Query.part_setLock]
    exact h.query.part c
  | fail e => exact ⟨h.query, congrArg (Option.or · (some e)) h.error⟩
  | notFound _ | page _ | perPage _ | debug _ => exact ⟨h.query, h.error⟩

/-- **Edits that are twins make twins of nothing.** -/
theorem ofEdits (t t' : Target) (h : TwinEdits es es') :
    TwinBuilder (Builder.ofEdits t es) (Builder.ofEdits t' es') := by
  have hedits : ∀ b b', TwinBuilder b b' → TwinBuilder (b.edits es) (b'.edits es') := by
    induction h with
    | nil => exact fun _ _ hb => hb
    | cons he _ ih => exact fun b b' hb => ih _ _ (hb.edit he)
  exact hedits _ _ ⟨.empty, rfl⟩

/-- **Twin builders have twin statements**, or the same error. -/
theorem compile (h : TwinBuilder b b') : Agree TwinStatement b.compile b'.compile := by
  rw [Builder.compile_eq, Builder.compile_eq, h.error]
  cases b.error with
  | none => exact .ok ⟨h.query.select, h.query.bindings⟩
  | some e => exact .error e

theorem check (h : TwinBuilder b b') : b'.check = b.check := by
  rw [Builder.check, Builder.check, h.error]

theorem bindingsOf (h : TwinBuilder b b') (clauses : List Clause) :
    b'.bindingsOf clauses = b.bindingsOf clauses :=
  List.flatMap_congr fun c _ => (h.query.part c).bindings

end TwinBuilder

namespace TwinEdits

variable {es es' fs fs' : List Edit} {α : Type}

theorem append (h : TwinEdits es es') (h' : TwinEdits fs fs') :
    TwinEdits (es ++ fs) (es' ++ fs') := List.rel_append h h'

theorem map {f g : α → Edit} {l : List α} (h : ∀ a ∈ l, TwinEdit (f a) (g a)) :
    TwinEdits (l.map f) (l.map g) := by
  rw [TwinEdits, List.forall₂_map_left_iff, List.forall₂_map_right_iff, List.forall₂_same]
  exact h

theorem flatMap {f g : α → List Edit} {l : List α} (h : ∀ a ∈ l, TwinEdits (f a) (g a)) :
    TwinEdits (l.flatMap f) (l.flatMap g) := by
  induction l with
  | nil => exact .nil
  | cons a l ih =>
    exact (h a List.mem_cons_self).append (ih fun x hx => h x (List.mem_cons_of_mem a hx))

theorem failure (error : Option BuildError) :
    TwinEdits (Edit.failure error) (Edit.failure error) := by
  cases error with
  | none => exact .nil
  | some e => exact .cons (.fail e) .nil

/-- **What results that agree lead to.** -/
theorem after {β : Type} {R : α → β → Prop} {r : Except BuildError α} {r' : Except BuildError β}
    {f : α → List Edit} {g : β → List Edit} (h : Agree R r r')
    (hf : ∀ a b, R a b → TwinEdits (f a) (g b)) :
    TwinEdits (Edit.after r f) (Edit.after r' g) := by
  cases h with
  | ok h => exact hf _ _ h
  | error e => exact .cons (.fail e) .nil

/-- The same after one result. -/
theorem after_self {r : Except BuildError α} {f g : α → List Edit}
    (hf : ∀ a, r = .ok a → TwinEdits (f a) (g a)) :
    TwinEdits (Edit.after r f) (Edit.after r g) := by
  cases r with
  | ok a => exact hf a rfl
  | error e => exact .cons (.fail e) .nil

end TwinEdits

end FluentSql
