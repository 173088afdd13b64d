import FluentSql.Proofs.Clauses
import FluentSql.Proofs.Edits
import FluentSql.Proofs.Keyword.Scan

/-!
# Proofs/Keyword/Query — the keywords of a SELECT, clause by clause

An edit shows what the entries show that it makes (`Edit.Shows`), and what is asked of every entry of
every edit holds of every entry of the query they make (`Builder.shows_ofEdits`).  Entries show
nothing, but for the joins, which show how they tie a table, and the unions (`Clause.Allows`).  Then
each clause of the SELECT shows its own keyword and what its entries show (`Query.Shows.clause?`), in
the order of the statement (`Query.Shows.keywords_select`).
-/

namespace FluentSql

open Scan

/-! ## What entries show -/

/-- **The keywords of one entry of the joins**: how a table is tied to the rest, or nothing. -/
inductive Tie (byValue : Prop) : List String → Prop
  | none : Tie byValue []
  | join : Tie byValue ["JOIN"]
  | on : Tie byValue ["JOIN", "ON"]
  /-- A join against a value has its condition behind another keyword. -/
  | value (h : byValue) : Tie byValue ["JOIN", "WHERE"]

/-- **The keywords that an entry of a clause may show.** -/
def Clause.Allows (byValue union : Prop) : Clause → List String → Prop
  | .joins, ws => Tie byValue ws
  | .unions, ws => ws = [] ∨ union
  | _, ws => ws = []

/-- No keyword is allowed everywhere. -/
theorem Clause.allows_nil {byValue union : Prop} (c : Clause) : c.Allows byValue union [] := by
  cases c with
  | joins => exact .none
  | unions => exact .inl rfl
  | columns | froms | wheres | groups | havings | orders | limits | offset => rfl

theorem Clause.Allows.mono {byValue byValue' union union' : Prop} (hvalue : byValue → byValue')
    (hunion : union → union') {c : Clause} {ws : List String} (h : c.Allows byValue union ws) :
    c.Allows byValue' union' ws := by
  cases c with
  | joins =>
    cases h with
    | none => exact .none
    | join => exact .join
    | on => exact .on
    | value h => exact .value (hvalue h)
  | unions => exact h.imp_right hunion
  | columns | froms | wheres | groups | havings | orders | limits | offset => exact h

/-- **Fragments that are closed and show what is allowed.** -/
structure Fragment.Shows (P : List String → Prop) (f : Fragment) : Prop where
  closed : Closed f.sql
  keywords : P (keywords f.sql)

/-- **Edits whose entries show what is allowed in their clause.** -/
def Edit.Shows (P : Clause → List String → Prop) : Edit → Prop
  | .append clause fragments _ => ∀ f ∈ fragments, f.Shows (P clause)
  | .replace clause fragment _ => fragment.Shows (P clause)
  | .lock sql => Inert sql
  | _ => True

/-- Edits that all show what is allowed. -/
abbrev EditsShow (P : Clause → List String → Prop) (es : List Edit) : Prop := ∀ e ∈ es, e.Shows P

/-- **Queries whose entries show what is allowed in their clause.** -/
structure Query.Shows (P : Clause → List String → Prop) (q : Query) : Prop where
  entry : ∀ c, ∀ f ∈ (q.part c).fragments, f.Shows (P c)
  lock : ∀ sql ∈ q.lock, Inert sql

variable {P Q : Clause → List String → Prop}

/-! ## Edits -/

namespace EditsShow

variable {es fs : List Edit}

theorem mono (hPQ : ∀ c ws, P c ws → Q c ws) (h : EditsShow P es) : EditsShow Q es := by
  intro e he
  have hshows := h e he
  cases e with
  | append clause fragments values =>
    exact fun f hf => ⟨(hshows f hf).closed, hPQ _ _ (hshows f hf).keywords⟩
  | replace clause fragment values => exact ⟨hshows.closed, hPQ _ _ hshows.keywords⟩
  | lock sql => exact hshows
  | fail _ | notFound _ | page _ | perPage _ | debug _ => trivial

theorem one {e : Edit} (h : e.Shows P) : EditsShow P [e] := List.forall_mem_singleton.mpr h

theorem append (h : EditsShow P es) (h' : EditsShow P fs) : EditsShow P (es ++ fs) :=
  List.forall_mem_append.mpr ⟨h, h'⟩

theorem map {α : Type} {f : α → Edit} {l : List α} (h : ∀ a ∈ l, (f a).Shows P) :
    EditsShow P (l.map f) := List.forall_mem_map.mpr h

theorem flatMap {α : Type} {f : α → List Edit} {l : List α} (h : ∀ a ∈ l, EditsShow P (f a)) :
    EditsShow P (l.flatMap f) := List.forall_mem_flatMap.mpr h

theorem failure (error : Option BuildError) : EditsShow P (Edit.failure error) :=
  Edit.forall_mem_failure (fun _ => trivial) error

theorem after {α : Type} {r : Except BuildError α} {next : α → List Edit}
    (h : ∀ a, r = .ok a → EditsShow P (next a)) : EditsShow P (Edit.after r next) :=
  Edit.forall_mem_after (fun _ => trivial) h

end EditsShow

namespace Query.Shows

variable {q : Query}

theorem modify (h : q.Shows P) {f : Part → Part} {c : Clause}
    (hf : ∀ x ∈ (f (q.part c)).fragments, x.Shows (P c)) : (q.modify f c).Shows P := by
  refine ⟨fun d x hx => ?_, by rw [lock_modify]; exact h.lock⟩
  by_cases hd : d = c
  · subst hd
    rw [part_modify_self] at hx
    exact hf x hx
  · rw [part_modify_of_ne _ _ hd] at hx
    exact h.entry d x hx

theorem append (h : q.Shows P) (c : Clause) {fragments : List Fragment}
    (hf : ∀ f ∈ fragments, f.Shows (P c)) (values : List Value) :
    (q.append c fragments values).Shows P := by
  refine h.modify fun x hx => ?_
  exact (List.mem_append.mp hx).elim (h.entry c x) (hf x)

end Query.Shows

namespace Builder

/-- One edit brings in only the entries it shows. -/
theorem shows_edit {b : Builder} (hb : b.query.Shows P) {e : Edit} (he : e.Shows P) :
    (b.edit e).query.Shows P := by
  cases e with
  | append clause fragments values => exact hb.append clause he values
  | replace clause fragment values =>
    have hreset : (b.query.reset clause).Shows P :=
      hb.modify fun x hx => absurd hx List.not_mem_nil
    exact hreset.append clause (List.forall_mem_singleton.mpr he) values
  | lock sql =>
    refine ⟨fun c x hx => ?_, fun s hs => Option.mem_some_iff.mp hs ▸ he⟩
    rw [edit, Query.part_setLock] at hx
    exact hb.entry c x hx
  | fail _ | notFound _ | page _ | perPage _ | debug _ => exact hb

/-- **The entries of a query are those of the edits that made it.** -/
theorem shows_ofEdits (t : Target) {es : List Edit} (h : EditsShow P es) :
    (ofEdits t es).query.Shows P := by
  have hedits : ∀ b : Builder, b.query.Shows P → (b.edits es).query.Shows P := by
    induction es with
    | nil => exact fun _ hb => hb
    | cons e es ih =>
      obtain ⟨he, hes⟩ := List.forall_mem_cons.mp h
      exact fun b hb => ih hes _ (shows_edit hb he)
  refine hedits _ ⟨fun c f hf => ?_, fun sql hsql => absurd hsql (Option.not_mem_none sql)⟩
  cases c <;> exact absurd hf List.not_mem_nil

end Builder

/-! ## Clauses -/

/-- **The keyword of a clause**; columns, joins and unions have none of their own. -/
def Clause.keyword : Clause → List String
  | .froms => ["FROM"]
  | .wheres => ["WHERE"]
  | .groups => ["GROUP"]
  | .havings => ["HAVING"]
  | .orders => ["ORDER"]
  | .limits => ["LIMIT"]
  | .offset => ["OFFSET"]
  | .columns | .joins | .unions => []

namespace Query

/-- The keyword of a clause, if the clause has an entry. -/
def heading (q : Query) (c : Clause) : List String := if (q.part c).isEmpty then [] else c.keyword

/-- What each entry of a clause shows. -/
def shown (q : Query) (c : Clause) : List (List String) :=
  (q.part c).fragments.map fun f => keywords f.sql

theorem fragments?_eq_some {q : Query} {c : Clause} {fs : List Fragment}
    (h : q.fragments? c = some fs) : (q.part c).fragments = fs := by
  unfold fragments? at h
  split at h
  · cases h
  · next heq => rw [heq, Option.some.inj h]

namespace Shows

variable {q : Query} {byValue union : Prop}

/-- The entries of a clause together. -/
theorem join (h : q.Shows P) {separator : String} (hsep : Sealed separator) (c : Clause) :
    Closed (Fragment.join separator (q.part c).fragments) ∧
      keywords (Fragment.join separator (q.part c).fragments) = (q.shown c).flatten := by
  have hclosed : ∀ s ∈ (q.part c).fragments.map Fragment.sql, Closed s :=
    List.forall_mem_map.mpr fun f hf => (h.entry c f hf).closed
  refine ⟨.joinWith hsep.closed hclosed, ?_⟩
  rw [Fragment.join, keywords_joinWith hsep hclosed, shown, List.flatMap_map]
  rfl

/-- Entries that may show nothing are inert. -/
theorem inert (h : q.Shows (Clause.Allows byValue union)) {c : Clause}
    (hc : ∀ ws, c.Allows byValue union ws → ws = []) :
    ∀ f ∈ (q.part c).fragments, Inert f.sql := fun f hf =>
  ⟨(h.entry c f hf).closed, hc _ (h.entry c f hf).keywords⟩

theorem flatten_shown (h : q.Shows (Clause.Allows byValue union)) {c : Clause}
    (hc : ∀ ws, c.Allows byValue union ws → ws = []) : (q.shown c).flatten = [] :=
  List.flatten_eq_nil_iff.mpr (List.forall_mem_map.mpr fun f hf => (h.inert hc f hf).keywords)

/-- **A clause shows its keyword and what its entries show.** -/
theorem clause? (h : q.Shows (Clause.Allows byValue union)) {c : Clause} {s : String}
    (hs : q.clause? c = some s) :
    Closed s ∧ keywords s = c.keyword ++ (q.shown c).flatten := by
  -- an inert text behind the keyword of a clause whose entries show nothing
  have hbehind {head s : String} (hc : ∀ ws, c.Allows byValue union ws → ws = [])
      (hhead : Closed head ∧ keywords head = c.keyword ∧ breaksLast head.toList = true)
      (hs : Inert s) :
      Closed (head ++ s) ∧ keywords (head ++ s) = c.keyword ++ (q.shown c).flatten := by
    refine ⟨hhead.1.append hs.closed, ?_⟩
    rw [keywords_append_of_last hhead.1 hhead.2.2, hhead.2.1, hs.keywords, h.flatten_shown hc]
  have hheaded (sep head : String) (f : String → String) (hsep : Sealed sep)
      (hc : ∀ ws, c.Allows byValue union ws → ws = [])
      (hhead : Closed head ∧ keywords head = c.keyword ∧ breaksLast head.toList = true)
      (hf : ∀ s, Inert s → Inert (f s))
      (hs : (q.fragments? c).map (fun fs => head ++ f (Fragment.join sep fs)) = some s) :
      Closed s ∧ keywords s = c.keyword ++ (q.shown c).flatten := by
    obtain ⟨fs, hfs, rfl⟩ := Option.map_eq_some_iff.mp hs
    rw [← fragments?_eq_some hfs]
    have hjoin := h.join hsep c
    exact hbehind hc hhead (hf _ ⟨hjoin.1, hjoin.2.trans (h.flatten_shown hc)⟩)
  have hplain {sep : String} (hsep : Sealed sep) (hkeyword : c.keyword = [])
      (hs : (q.fragments? c).map (Fragment.join sep) = some s) :
      Closed s ∧ keywords s = c.keyword ++ (q.shown c).flatten := by
    obtain ⟨fs, hfs, rfl⟩ := Option.map_eq_some_iff.mp hs
    rw [← fragments?_eq_some hfs, hkeyword]
    exact h.join hsep c
  cases c with
  | columns | joins | unions => exact hplain (by decide) rfl hs
  | froms =>
    exact hheaded ", " "FROM " id (by decide) (fun _ h => h) (by decide) (fun _ h => h) hs
  | wheres =>
    exact hheaded " " ("WHERE" ++ " ") Connective.dropLeadingText (by decide)
      (fun _ h => h) (by decide) (fun _ h => h.dropLeading) hs
  | groups =>
    exact hheaded ", " ("GROUP BY" ++ " ") (fun s => String.ofList (dropCommas s.toList))
      (by decide) (fun _ h => h) (by decide) (fun _ h => h.dropCommas) hs
  | havings =>
    exact hheaded " " ("HAVING" ++ " ") Connective.dropLeadingText (by decide)
      (fun _ h => h) (by decide) (fun _ h => h.dropLeading) hs
  | orders =>
    exact hheaded ", " ("ORDER BY" ++ " ") (fun s => String.ofList (dropCommas s.toList))
      (by decide) (fun _ h => h) (by decide) (fun _ h => h.dropCommas) hs
  | limits =>
    exact hheaded ", " "LIMIT " id (by decide) (fun _ h => h) (by decide) (fun _ h => h) hs
  | offset =>
    obtain ⟨f, hf, rfl⟩ := Option.map_eq_some_iff.mp hs
    have hinert := h.inert (c := .offset) (fun _ h => h)
    exact hbehind (fun _ h => h) (by decide) (hinert f (List.mem_of_mem_head? hf))

/-- Clauses behind one another. -/
theorem clauses (h : q.Shows (Clause.Allows byValue union)) (clauses : List Clause) :
    (∀ s ∈ clauses.filterMap q.clause?, Closed s) ∧
      (clauses.filterMap q.clause?).flatMap keywords =
        clauses.flatMap fun c => q.heading c ++ (q.shown c).flatten := by
  induction clauses with
  | nil => exact ⟨fun _ hs => absurd hs List.not_mem_nil, rfl⟩
  | cons c clauses ih =>
    have hempty : (q.part c).isEmpty = (q.clause? c).isNone := by
      rw [Bool.eq_iff_iff, Option.isNone_iff_eq_none, clause?_eq_none_iff, Part.isEmpty,
        List.isEmpty_iff]
    rw [List.filterMap_cons, List.flatMap_cons, heading, hempty]
    cases hc : q.clause? c with
    | none =>
      have hshown : q.shown c = [] := by
        rw [shown, clause?_eq_none_iff.mp hc]
        rfl
      rw [hshown]
      exact ih
    | some s =>
      have hs := h.clause? hc
      refine ⟨List.forall_mem_cons.mpr ⟨hs.1, ih.1⟩, ?_⟩
      rw [List.flatMap_cons, hs.2, ih.2]
      rfl

/-- **The keywords of a SELECT**: each clause that has an entry shows its keyword, in the order of the
statement, and joins and unions show what their entries show. -/
theorem keywords_select (h : q.Shows (Clause.Allows byValue union)) :
    Closed q.select ∧
      keywords q.select = "SELECT" :: middle.flatMap (fun c => q.heading c ++ (q.shown c).flatten) ++
        (q.shown .unions).flatten := by
  have hcolumns : Closed ((q.clause? .columns).getD "*") ∧
      keywords ((q.clause? .columns).getD "*") = [] := by
    cases hc : q.clause? .columns with
    | none => exact ⟨by decide, by decide⟩
    | some s =>
      have hs := h.clause? hc
      refine ⟨hs.1, ?_⟩
      rw [Option.getD_some, hs.2, h.flatten_shown (c := .columns) fun _ h => h]
      rfl
  have hlock : ∀ s ∈ q.lock.toList, Inert s := fun s hs => h.lock s (Option.mem_toList.mp hs)
  have hclauses := h.clauses middle
  have hbody : ∀ s ∈ q.body, Closed s :=
    List.forall_mem_cons.mpr ⟨hcolumns.1, List.forall_mem_append.mpr
      ⟨hclauses.1, fun s hs => (hlock s hs).closed⟩⟩
  have hkeywords : q.body.flatMap keywords =
      middle.flatMap fun c => q.heading c ++ (q.shown c).flatten := by
    have hnone : q.lock.toList.flatMap keywords = [] :=
      List.flatMap_eq_nil_iff.mpr fun s hs => (hlock s hs).keywords
    rw [body, List.flatMap_cons, List.flatMap_append, hcolumns.2, hclauses.2, hnone, List.append_nil,
      List.nil_append]
  have hsql : Closed ("SELECT " ++ Text.joinWith " " q.body) ∧
      keywords ("SELECT " ++ Text.joinWith " " q.body) =
        "SELECT" :: middle.flatMap fun c => q.heading c ++ (q.shown c).flatten := by
    refine ⟨Closed.append (by decide) (.joinWith (by decide) hbody), ?_⟩
    rw [keywords_append_of_last (by decide) (by decide), keywords_joinWith (by decide) hbody,
      hkeywords]
    rfl
  rw [select]
  cases hunions : q.clause? .unions with
  | none =>
    rw [shown, clause?_eq_none_iff.mp hunions]
    exact ⟨hsql.1, hsql.2.trans (List.append_nil _).symm⟩
  | some unions =>
    have hs := h.clause? hunions
    refine ⟨(hsql.1.append (by decide)).append hs.1, ?_⟩
    rw [keywords_between hsql.1 (by decide), hsql.2, hs.2]
    rfl

end Shows

end Query

end FluentSql
