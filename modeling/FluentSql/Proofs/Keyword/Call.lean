import FluentSql.Proofs.Keyword.Name
import FluentSql.Proofs.Keyword.Query
import FluentSql.Proofs.Lexicon

/-!
# Proofs/Keyword/Call — what the entries of a call show

The words of a caller are legible when names that look quoted already and literal texts show no clause
keyword, and the quotes and parentheses of sub-queries close (`legible`).  Calls with such words make
entries that show nothing, but for joins, which show how they tie a table, and unions
(`Call.edits_show`): names are in quotes, values are placeholders, and a sub-query stands in
parentheses, so of the nested calls all that is needed is that their statement is closed.
-/

namespace FluentSql

open Scan

/-- **A dialect whose statements can be scanned**: it has one of the quotes, and locks without clause
keywords. -/
structure Dialect.Legible (d : Dialect) : Prop where
  quote : isQuote d.quote = true
  exclusive : ∀ sql ∈ d.exclusiveLock, Inert sql
  shared : ∀ sql ∈ d.sharedLock, Inert sql

namespace Dialect

theorem legible_mysql : mysql.Legible := by
  refine ⟨by decide, fun sql h => ?_, fun sql h => ?_⟩ <;>
    obtain rfl := Option.mem_some_iff.mp h <;> decide

theorem legible_sqlite : sqlite.Legible := ⟨by decide, nofun, nofun⟩

end Dialect

/-- **Words that show no clause keyword**, in the dialects of the builders that use them. -/
def legible (dialects : List Dialect) : Lexicon where
  name s := ∀ d ∈ dialects, ∀ piece ∈ Dialect.pieces s.toList, d.Tidy piece
  label s := ∀ d ∈ dialects, d.Tidy s.toList
  literal := Inert
  statement := Closed
  lock _ := True
  target t := t.dialect ∈ dialects ∧ ∀ database ∈ t.database, ∀ d ∈ dialects, d.Tidy database.toList

/-! ## Joins and unions of a call -/

/-- Whether a joined table is tied by a comparison with a value. -/
def JoinCondition.byValue : JoinCondition → Bool
  | value .. => true
  | _ => false

/-- **Whether a call joins a table by a comparison with a value.** -/
def Call.joinsByValue : Call → Bool
  | .join _ _ tie | .joinSource _ _ _ tie => tie.byValue
  | _ => false

/-- Whether a call adds a union. -/
def Call.isUnion : Call → Bool
  | .union _ _ => true
  | _ => false

/-- **What the entries of calls may show.** -/
abbrev callsAllow (calls : List Call) : Clause → List String → Prop :=
  Clause.Allows (∃ call ∈ calls, call.joinsByValue = true) (∃ call ∈ calls, call.isUnion = true)

/-! ## Words in their place -/

section Words

variable {dialects : List Dialect} {t : Target}

/-- The dialects of some builders, and a target among them. -/
structure Scope (dialects : List Dialect) (t : Target) : Prop where
  legible : ∀ d ∈ dialects, d.Legible
  dialect : t.dialect ∈ dialects

namespace Scope

variable (x : Scope dialects t)

include x

theorem quoteColumn {name : String} (h : (FluentSql.legible dialects).name name) :
    Sealed (t.dialect.quoteColumn name) :=
  Dialect.sealed_column (x.legible _ x.dialect).quote (h _ x.dialect)

theorem quoteIdentifier {name : String} (h : (FluentSql.legible dialects).label name) :
    Sealed (t.dialect.quoteIdentifier name) :=
  Dialect.sealed_identifier (x.legible _ x.dialect).quote (h _ x.dialect)

theorem aliased {s label : String} (hs : Inert s) (h : (FluentSql.legible dialects).label label) :
    Inert (t.dialect.aliased s label) :=
  hs.between (by decide) (x.quoteIdentifier h).toInert

/-- A column and an operator. -/
theorem compared {column op : String} (h : (FluentSql.legible dialects).name column)
    (hop : Operator.Known op) : Inert (t.dialect.quoteColumn column ++ " " ++ op) :=
  (x.quoteColumn h).toInert.spaced hop.inert

end Scope

end Words

theorem Inert.directed {s : String} (h : Inert s) (direction : Option Direction) :
    Inert (directed s direction) := by
  cases direction with
  | none => exact h
  | some d => exact h.spaced (by cases d <;> decide)

/-- An inert text and a placeholder. -/
theorem Inert.bound {s : String} (h : Inert s) : Inert (s ++ " ?") := h.before (by decide)

theorem closed_placeholders (values : List Value) : Closed (placeholders values) :=
  .joinWith (by decide) (List.forall_mem_map.mpr fun _ _ => by decide)

/-! ## Entries -/

/-- Entries that show nothing may stand in any clause. -/
abbrev Bare (_c : Clause) (ws : List String) : Prop := ws = []

/-- **Edits that show nothing show what is allowed.** -/
theorem EditsShow.ofBare {byValue union : Prop} {es : List Edit} (h : EditsShow Bare es) :
    EditsShow (Clause.Allows byValue union) es :=
  h.mono fun c ws (hws : ws = []) => hws ▸ c.allows_nil

namespace Edit

variable {clause : Clause} {link : Connective} {values : List Value} {s : String}

theorem shows_entry (h : Inert s) : (entry clause s values).Shows Bare :=
  List.forall_mem_singleton.mpr ⟨h.closed, h.keywords⟩

theorem shows_rawEntry {e : Expression} (h : Inert e.text) : (rawEntry clause e values).Shows Bare :=
  List.forall_mem_singleton.mpr ⟨h.closed, h.keywords⟩

theorem shows_replaceRaw {e : Expression} (h : Inert e.text) : (replaceRaw clause e).Shows Bare :=
  ⟨h.closed, h.keywords⟩

theorem shows_condition (h : Inert s) : (condition clause link s values).Shows Bare := by
  have hlink : Inert link.keyword := by cases link <;> decide
  exact shows_entry (hlink.spaced h)

theorem shows_rawCondition {e : Expression} (h : Inert e.text) :
    (rawCondition clause link e values).Shows Bare := by
  have hlink : Inert link.rawKeyword := by cases link <;> decide
  exact shows_rawEntry (hlink.spaced h)

section Conditions

variable {dialects : List Dialect} {t : Target} (x : Scope dialects t) {column : String}
  (h : (legible dialects).name column)

include x h

theorem shows_nullCondition (negated : Bool) :
    (nullCondition t clause link negated column).Shows Bare :=
  shows_condition ((x.quoteColumn h).toInert.spaced (by cases negated <;> decide))

theorem shows_inCondition (negated : Bool) (values : List Value) :
    (inCondition t clause link negated column values).Shows Bare := by
  rw [inCondition]
  split
  · exact shows_condition (by cases negated <;> decide)
  · have hkeyword : Inert (negatedKeyword negated "IN") := by cases negated <;> decide
    exact shows_condition
      (((x.quoteColumn h).toInert.spaced hkeyword).enclosing (closed_placeholders values))

theorem shows_betweenCondition (negated : Bool) (low high : Value) :
    (betweenCondition t clause link negated column low high).Shows Bare := by
  have hkeyword : Inert (negatedKeyword negated "BETWEEN") := by cases negated <;> decide
  exact shows_condition (((x.quoteColumn h).toInert.spaced hkeyword).before (by decide))

end Conditions

end Edit

section Parts

variable {dialects : List Dialect} {t : Target} (x : Scope dialects t)

include x

theorem Comparison.edits_show {clause : Clause} {link : Connective} {c : Comparison}
    (h : (legible dialects).name c.column) : EditsShow Bare (c.edits t clause link) := by
  refine .after fun op hop => ?_
  split
  · exact .one (Edit.shows_nullCondition x h _)
  · exact .one (Edit.shows_condition ((x.compared h (Operator.known_of_prepare hop)).bound))

theorem Comparison.batch_show {clause : Clause} {link : Connective} {cs : List Comparison}
    (h : ∀ c ∈ cs, (legible dialects).name c.column) :
    EditsShow Bare (Comparison.batch t clause link cs) := by
  rw [batch_eq]
  exact .flatMap fun c hc => edits_show x (h c hc)

/-! ## Joins -/

theorem JoinStep.edits_show {step : JoinStep} (h : step.Uses (legible dialects)) :
    EditsShow Bare (step.edits t) := by
  cases step with
  | on link first operator second =>
    refine .after fun op hop => .one (Edit.shows_condition ?_)
    exact (x.compared h.1 (Operator.known_of_check hop)).spaced (x.quoteColumn h.2).toInert
  | compare link c => exact Comparison.edits_show x h
  | null negated column => exact .one (Edit.shows_nullCondition x h negated)
  | within column values => exact .one (Edit.shows_inCondition x h false values)
  | note => exact fun _ he => absurd he List.not_mem_nil

/-- **A join shows how it ties its table**: not at all, by `ON`, or by a condition behind `WHERE`. -/
theorem JoinCondition.edits_show {c : JoinCondition} (h : c.Uses (legible dialects))
    (kind : JoinKind) {table : String} (htable : Inert table) (values : List Value) (union : Prop) :
    EditsShow (Clause.Allows (c.byValue = true) union) (c.edits t kind table values) := by
  have hkind : Closed kind.keyword ∧ keywords kind.keyword = ["JOIN"] := by cases kind <;> decide
  have hhead : Closed (kind.keyword ++ " " ++ table) ∧
      keywords (kind.keyword ++ " " ++ table) = ["JOIN"] := by
    refine ⟨(hkind.1.append (by decide)).append htable.closed, ?_⟩
    rw [keywords_between hkind.1 (by decide), hkind.2, htable.keywords]
    rfl
  have hbare : (Edit.join kind table "" values).Shows
      (Clause.Allows (c.byValue = true) union) := by
    refine List.forall_mem_singleton.mpr ⟨hhead.1.append (by decide), ?_⟩
    rw [Fragment.sql_text, String.append_empty, hhead.2]
    exact .join
  have htied {word s : String} {values : List Value} (hword : Closed word)
      (hfirst : breaksFirst word.toList = true) (hlast : breaksLast word.toList = true)
      (hs : Inert s) (htie : Tie (c.byValue = true) ("JOIN" :: keywords word)) :
      (Edit.join kind table (word ++ s) values).Shows (Clause.Allows (c.byValue = true) union) := by
    refine List.forall_mem_singleton.mpr ⟨hhead.1.append (hword.append hs.closed), ?_⟩
    rw [Fragment.sql_text, ← String.append_assoc, keywords_around hhead.1 hword hfirst hlast, hhead.2,
      hs.keywords, List.append_nil]
    exact htie
  cases c with
  | none => exact .one hbare
  | columns first operator second =>
    rw [edits]
    refine .after fun op hop => .one ?_
    have hoperands : Inert (first ++ " " ++ op ++ " " ++ second) :=
      (h.1.spaced (Operator.known_of_check hop).inert).spaced h.2
    have hassoc : " ON " ++ first ++ " " ++ op ++ " " ++ second =
        " ON " ++ (first ++ " " ++ op ++ " " ++ second) := by simp only [String.append_assoc]
    rw [hassoc]
    exact htied (by decide) (by decide) (by decide) hoperands .on
  | steps list =>
    have hnested := Builder.shows_ofEdits t
      (EditsShow.flatMap fun step hstep => JoinStep.edits_show x (h step hstep))
    have hinert : Inert (Fragment.join " "
        ((Builder.ofEdits t (list.flatMap (JoinStep.edits t))).query.part .joins).fragments) :=
      .joinWith (by decide) (List.forall_mem_map.mpr fun f hf =>
        ⟨(hnested.entry .joins f hf).closed, (hnested.entry .joins f hf).keywords⟩)
    refine (EditsShow.failure _).append (.one ?_)
    split
    · exact hbare
    · exact htied (by decide) (by decide) (by decide) hinert.dropLeading .on
  | value column operator v =>
    rw [edits]
    refine .after fun op hop => .one ?_
    have hcondition : Inert (t.dialect.quoteColumn column ++ " " ++ op ++ " ?") :=
      (x.compared h (Operator.known_of_prepare hop)).bound
    have hassoc : " WHERE " ++ t.dialect.quoteColumn column ++ " " ++ op ++ " ?" =
        " WHERE " ++ (t.dialect.quoteColumn column ++ " " ++ op ++ " ?") := by
      simp only [String.append_assoc]
    rw [hassoc]
    exact htied (by decide) (by decide) (by decide) hcondition (.value rfl)

end Parts

/-! ## Sources -/

/-- **Sources whose statements are closed.**  A prepared builder may have its database named in front
of its first table. -/
inductive Evaluated.Closes (dialects : List Dialect) (t : Target) : Evaluated → Prop
  | text {sql : String} (h : Closed sql) : Closes dialects t (.text sql)
  | raw {e : Expression} (h : Inert e.text) : Closes dialects t (.raw e)
  | fresh {b : Builder} {byValue union : Prop} (h : b.query.Shows (Clause.Allows byValue union)) :
    Closes dialects t (.fresh b)
  | prepared {b : Builder} {byValue union : Prop} (h : b.query.Shows (Clause.Allows byValue union))
    (hdatabase : ∀ database ∈ b.target.database, t.database ≠ some database →
      (legible dialects).label database) : Closes dialects t (.prepared b)

/-- A compiled builder has the statement of its query. -/
theorem Builder.sql_of_compile {b : Builder} {s : Statement} (h : b.compile = .ok s) :
    s.sql = b.query.select := by
  rw [compile_eq] at h
  split at h <;> cases h
  rfl

section Sources

variable {dialects : List Dialect} {t : Target}

theorem Evaluated.Closes.statement {e : Evaluated} (h : e.Closes dialects t) {s : Statement}
    (hs : e.statement = .ok s) : Closed s.sql := by
  cases h with
  | text h =>
    rw [Evaluated.statement] at hs
    split at hs <;> cases hs
    exact h
  | raw h =>
    cases hs
    exact h.closed
  | fresh h | prepared h _ =>
    rw [Builder.sql_of_compile hs]
    exact h.keywords_select.1

/-- A qualifier in front of the first table. -/
theorem Query.Shows.qualify {q : Query} {byValue union : Prop}
    (h : q.Shows (Clause.Allows byValue union)) {qualifier : String} (hq : Sealed qualifier) :
    (Builder.qualify (qualifier ++ ".") q).Shows (Clause.Allows byValue union) := by
  refine h.modify fun f hf => ?_
  have hentry := h.entry .froms
  simp only at hf
  cases hfragments : (q.part .froms).fragments with
  | nil =>
    rw [hfragments] at hf
    exact absurd hf List.not_mem_nil
  | cons first rest =>
    rw [hfragments] at hf hentry
    obtain ⟨hfirst, hrest⟩ := List.forall_mem_cons.mp hentry
    cases first with
    | raw e => exact (List.mem_cons.mp hf).elim (fun h => h ▸ hfirst) (hrest f)
    | text table =>
      rw [Builder.qualifyFirst] at hf
      split at hf
      · exact (List.mem_cons.mp hf).elim (fun h => h ▸ hfirst) (hrest f)
      · have hinert : Inert (qualifier ++ "." ++ table) := by
          rw [String.append_assoc]
          exact (Inert.point ⟨hfirst.closed, hfirst.keywords⟩).behind hq
        exact (List.mem_cons.mp hf).elim (fun h => h ▸ ⟨hinert.closed, hinert.keywords⟩) (hrest f)

/-- **A source as a table is closed too**, the name of its database included. -/
theorem Evaluated.Closes.tableStatement (x : Scope dialects t) {e : Evaluated}
    (h : e.Closes dialects t) {s : Statement} (hs : e.tableStatement t = .ok s) : Closed s.sql := by
  have hstatement {s : Statement} (hs : e.statement = .ok s) : Closed s.sql := h.statement hs
  cases h with
  | text _ | raw _ | fresh _ => exact hstatement hs
  | @prepared b _ _ h hdatabase =>
    rw [Builder.sql_of_compile hs, Builder.qualifiedFor]
    split
    · exact h.keywords_select.1
    · next database heq =>
      split
      · exact h.keywords_select.1
      · next hne => exact (h.qualify (x.quoteIdentifier (hdatabase _ heq hne))).keywords_select.1

end Sources

/-! ## Nested queries -/

section Nested

variable {b : Builder} {byValue union : Prop} {clause : Clause} {link : Connective}

theorem Builder.groupEdits_show (h : b.query.Shows (Clause.Allows byValue union)) :
    EditsShow Bare (b.groupEdits clause link) := by
  rw [groupEdits]
  refine (EditsShow.failure _).append ?_
  split
  · exact fun _ he => absurd he List.not_mem_nil
  · exact .one (Edit.shows_condition
      (Sealed.parenthesized (h.join (by decide) clause).1.dropLeading).toInert)

/-- An existence test. -/
theorem Inert.exists {s : String} (h : Closed s) : Inert ("EXISTS (" ++ s ++ ")") :=
  Inert.enclosing (u := "EXISTS") (by decide) h

theorem Builder.conditionEdits_show (h : b.query.Shows (Clause.Allows byValue union)) :
    EditsShow Bare (b.conditionEdits clause link) := by
  rw [conditionEdits]
  split
  · exact groupEdits_show h
  · refine .after fun s hs => .one (Edit.shows_condition ?_)
    rw [sql_of_compile hs]
    exact .exists h.keywords_select.1

end Nested

/-! ## The induction -/

mutual

/-- **The entries of a call show nothing**, but for its join and its union. -/
theorem Call.edits_show {dialects : List Dialect} {t : Target} (x : Scope dialects t) {c : Call}
    (h : c.Uses (legible dialects)) :
    EditsShow (Clause.Allows (c.joinsByValue = true) (c.isUnion = true)) (c.edits t) := by
  cases c with
  | push clause fragments values =>
    exact .ofBare (.one fun f hf => ⟨(h f hf).closed, (h f hf).keywords⟩)
  | nest calls clause link =>
    exact .ofBare (Builder.groupEdits_show (Builder.shows_ofEdits t (callEdits_show x h)))
  | tables names =>
    exact .ofBare (.map fun name hname => Edit.shows_entry (x.quoteColumn (h name hname)).toInert)
  | tableAs name label =>
    exact .ofBare (.one (Edit.shows_entry (x.aliased (x.quoteColumn h.1).toInert h.2)))
  | tableRaw e values => exact .ofBare (.one (Edit.shows_rawEntry h))
  | tableSource source label =>
    refine .ofBare (.after fun s hs => .one (Edit.shows_entry ?_))
    have hclosed := (Source.evaluate_closes x h.1).tableStatement x hs
    exact x.aliased (Sealed.parenthesized hclosed).toInert h.2
  | select columns =>
    cases columns with
    | nil => exact .ofBare (.one (Edit.shows_entry (by decide)))
    | cons c cs =>
      exact .ofBare (.map fun c hc => Edit.shows_entry (x.quoteColumn (h c hc)).toInert)
  | selectAs column label =>
    exact .ofBare (.one (Edit.shows_entry (x.aliased (x.quoteColumn h.1).toInert h.2)))
  | selectExpr e label => exact .ofBare (.one (Edit.shows_rawEntry (x.aliased h.1 h.2)))
  | selectRaw e => exact .ofBare (.one (Edit.shows_rawEntry h))
  | selectSource source label =>
    refine .ofBare (.after fun s hs => .one (Edit.shows_entry ?_))
    have hclosed := (Source.evaluate_closes x h.1).statement hs
    cases label with
    | none => exact (Sealed.parenthesized hclosed).toInert
    | some label => exact x.aliased (Sealed.parenthesized hclosed).toInert (h.2 label rfl)
  | condition zone link p => exact .ofBare (Predicate.edits_show x _ link h)
  | compareMany zone link comparisons => exact .ofBare (Comparison.batch_show x h)
  | inMany lists => exact .ofBare (.map fun l hl => Edit.shows_inCondition x (h l hl) false l.2)
  | nullMany negated columns =>
    exact .ofBare (.map fun c hc => Edit.shows_nullCondition x (h c hc) negated)
  | join kind table condition =>
    exact condition.edits_show x h.2 kind (x.quoteColumn h.1).toInert [] _
  | joinSource kind source label condition =>
    refine .after fun s hs => ?_
    have hclosed := (Source.evaluate_closes x h.1).tableStatement x hs
    exact condition.edits_show x h.2.2 kind
      (x.aliased (Sealed.parenthesized hclosed).toInert h.2.1) s.bindings _
  | list listing columns direction =>
    exact .ofBare (.map fun c hc =>
      Edit.shows_entry ((x.quoteColumn (h c hc)).toInert.directed direction))
  | listRaw listing e values => exact .ofBare (.one (Edit.shows_rawEntry h))
  | listSource listing source direction =>
    refine .ofBare (.after fun s hs => .one (Edit.shows_entry ?_))
    have hclosed := (Source.evaluate_closes x h).statement hs
    exact (Sealed.parenthesized hclosed).toInert.directed direction
  | limit count => exact .ofBare (.one ⟨by decide, by decide⟩)
  | limitRange offset count => exact .ofBare (.one ⟨by decide, by decide⟩)
  | limitRaw e => exact .ofBare (.one (Edit.shows_replaceRaw h))
  | offset count => exact .ofBare (.one ⟨by decide, by decide⟩)
  | offsetRaw e => exact .ofBare (.one (Edit.shows_replaceRaw h))
  | forPage page size =>
    exact .ofBare (List.forall_mem_cons.mpr
      ⟨⟨by decide, by decide⟩, List.forall_mem_singleton.mpr ⟨by decide, by decide⟩⟩)
  | union all source =>
    refine .after fun s hs => .one (List.forall_mem_singleton.mpr ⟨?_, .inr rfl⟩)
    have hkeyword : Closed (unionKeyword all ++ " ") := by cases all <;> decide
    exact hkeyword.append ((Source.evaluate_closes x h).statement hs)
  | rowLock lock =>
    rw [Call.edits, RowLock.edits]
    have hdialect := x.legible _ x.dialect
    split
    · next sql hsql =>
      cases lock with
      | exclusive => exact .one (hdialect.exclusive sql hsql)
      | shared => exact .one (hdialect.shared sql hsql)
    · exact .one trivial
  | lock sql => exact .one h
  | throws _ | debug _ | page _ | perPage _ => exact .one trivial

theorem Predicate.edits_show {dialects : List Dialect} {t : Target} (x : Scope dialects t)
    (clause : Clause) (link : Connective) {p : Predicate} (h : p.Uses (legible dialects)) :
    EditsShow Bare (p.edits t clause link) := by
  cases p with
  | compare c => exact Comparison.edits_show x h
  | group calls => exact Builder.conditionEdits_show (Builder.shows_ofEdits t (callEdits_show x h))
  | compareSource column operator source =>
    rw [Predicate.edits]
    refine .after fun op hop => .after fun s hs => .one (Edit.shows_condition ?_)
    have hclosed := (Source.evaluate_closes x h.2).statement hs
    exact (x.compared h.1 (Operator.known_of_check hop)).enclosing hclosed
  | sourceCompare source operator value =>
    rw [Predicate.edits]
    refine .after fun op hop => .after fun s hs => .one (Edit.shows_condition ?_)
    have hclosed := (Source.evaluate_closes x h).statement hs
    have hsource : Sealed ("(" ++ s.sql ++ ") ") := by
      have hsplit : "(" ++ s.sql ++ ") " = "(" ++ s.sql ++ ")" ++ " " := by
        simp only [String.append_assoc]
        rfl
      rw [hsplit]
      exact (Sealed.parenthesized hclosed).append (by decide)
    exact ((Operator.known_of_prepare hop).inert.behind hsource).bound
  | inList negated column values => exact .one (Edit.shows_inCondition x h negated values)
  | inSource negated column source =>
    rw [Predicate.edits]
    refine .after fun s hs => .one (Edit.shows_condition ?_)
    have hclosed := (Source.evaluate_closes x h.2).statement hs
    have hkeyword : Inert (negatedKeyword negated "IN") := by cases negated <;> decide
    exact ((x.quoteColumn h.1).toInert.spaced hkeyword).enclosing hclosed
  | null negated column => exact .one (Edit.shows_nullCondition x h negated)
  | between negated column low high =>
    exact .one (Edit.shows_betweenCondition x h negated low high)
  | like negated subject pattern =>
    rw [Predicate.edits]
    refine .after fun s hs => .one (Edit.shows_condition ?_)
    have hkeyword : Inert (negatedKeyword negated "LIKE") := by cases negated <;> decide
    exact ((Operand.resolve_inert x h hs).spaced hkeyword).bound
  | existence negated source =>
    rw [Predicate.edits]
    refine .after fun s hs => .one (Edit.shows_condition ?_)
    have hkeyword : Inert (negatedKeyword negated "EXISTS") := by cases negated <;> decide
    exact hkeyword.enclosing ((Source.evaluate_closes x h).statement hs)
  | quantified quantifier column operator source =>
    rw [Predicate.edits]
    refine .after fun op hop => .after fun s hs => .one (Edit.shows_condition ?_)
    have hclosed := (Source.evaluate_closes x h.2).statement hs
    have hkeyword : Inert quantifier.keyword := by cases quantifier <;> decide
    exact ((x.compared h.1 (Operator.known_of_check hop)).spaced hkeyword).enclosing
      hclosed
  | raw e values => exact .one (Edit.shows_rawCondition h)

theorem Source.evaluate_closes {dialects : List Dialect} {t : Target} (x : Scope dialects t)
    {s : Source} (h : s.Uses (legible dialects)) : (s.evaluate t).Closes dialects t := by
  cases s with
  | text sql => exact .text h
  | raw e => exact .raw h
  | closure calls => exact .fresh (Builder.shows_ofEdits t (callEdits_show x h))
  | prepared target calls =>
    cases target with
    | none =>
      refine .prepared (Builder.shows_ofEdits t (callEdits_show x h.2)) fun database hd hne => ?_
      rw [Option.getD_none, Builder.target_ofEdits] at hd
      exact absurd hd hne
    | some own =>
      obtain ⟨hdialect, hdatabase⟩ := h.1 own rfl
      have y : Scope dialects own := ⟨x.legible, hdialect⟩
      refine .prepared (Builder.shows_ofEdits own (callEdits_show y h.2)) fun database hd _ => ?_
      rw [Option.getD_some, Builder.target_ofEdits] at hd
      exact hdatabase database hd

theorem Operand.resolve_inert {dialects : List Dialect} {t : Target} (x : Scope dialects t)
    {o : Operand} (h : o.Uses (legible dialects)) {s : Statement} (hs : o.resolve t = .ok s) :
    Inert s.sql := by
  cases o with
  | column name =>
    cases hs
    exact (x.quoteColumn h).toInert
  | source source =>
    have hclosed {s : Statement} (hs : (source.evaluate t).statement = .ok s) : Closed s.sql :=
      (Source.evaluate_closes x h).statement hs
    have hparentheses (hs : ((source.evaluate t).statement.map fun s =>
        (⟨"(" ++ s.sql ++ ")", s.bindings⟩ : Statement)) = .ok s) : Inert s.sql := by
      cases hstatement : (source.evaluate t).statement with
      | error e =>
        rw [hstatement] at hs
        cases hs
      | ok inner =>
        rw [hstatement] at hs
        cases hs
        exact (Sealed.parenthesized (hclosed hstatement)).toInert
    cases source with
    | raw e =>
      cases hs
      exact h
    | text sql => exact hparentheses hs
    | closure calls => exact hparentheses hs
    | prepared target calls => exact hparentheses hs

theorem callEdits_show {dialects : List Dialect} {t : Target} (x : Scope dialects t)
    {calls : List Call} (h : callsUse (legible dialects) calls) :
    EditsShow (callsAllow calls) (callEdits t calls) := by
  cases calls with
  | nil => exact fun _ he => absurd he List.not_mem_nil
  | cons call rest =>
    refine EditsShow.append ((Call.edits_show x h.1).mono fun c ws => ?_)
      ((callEdits_show x h.2).mono fun c ws => ?_)
    · exact Clause.Allows.mono (fun hv => ⟨call, List.mem_cons_self, hv⟩)
        fun hu => ⟨call, List.mem_cons_self, hu⟩
    · exact Clause.Allows.mono (fun ⟨c, hc, hv⟩ => ⟨c, List.mem_cons_of_mem call hc, hv⟩)
        fun ⟨c, hc, hu⟩ => ⟨c, List.mem_cons_of_mem call hc, hu⟩

end

end FluentSql
