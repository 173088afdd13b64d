import FluentSql.Builder.Meaning
import FluentSql.Proofs.Alignment.Marked
import FluentSql.Proofs.Operator

/-!
# Proofs/Alignment/Balanced — calls whose placeholders are all accounted for

A question mark is a placeholder wherever it is written, also in a name.  `Call.Balanced` is what a
caller has to see to: names, labels, locks, sub-queries given as text and the operands of a literal
join hold no question mark, and a literal text holds one for each value it is given.  Fragments put
in place as they are may only be sources, and one clause of a nested query only conditions.
-/

namespace FluentSql

/-- **A literal text with one placeholder for each of its values**: its own first, then the others. -/
def Expression.Balanced (e : Expression) (values : List Value) : Prop :=
  e.text.toList.count '?' = (e.values ++ values).length

/-- **A target that brings no placeholder of its own**: not as its quote, not in a lock or in the name
of the database. -/
structure Target.Placeless (t : Target) : Prop where
  quote : t.dialect.quote ≠ '?'
  lock : ∀ lock, ∀ sql ∈ t.dialect.lock? lock, NoPlaceholder sql
  database : ∀ name ∈ t.database, NoPlaceholder name

/-- A fragment without placeholder or value. -/
def Fragment.Placeless (f : Fragment) : Prop :=
  NoPlaceholder f.sql ∧ ∀ e, f = .raw e → e.bind = none

/-- A step of a join's conditions with names that hold no placeholder. -/
def JoinStep.Balanced : JoinStep → Prop
  | on _ first _ second => NoPlaceholder first ∧ NoPlaceholder second
  | compare _ c => NoPlaceholder c.column
  | null _ column => NoPlaceholder column
  | within column _ => NoPlaceholder column
  | note => True

/-- What ties a joined table to the rest, without placeholders of its own. -/
def JoinCondition.Balanced : JoinCondition → Prop
  | none => True
  | columns first _ second => NoPlaceholder first ∧ NoPlaceholder second
  | steps list => ∀ step ∈ list, step.Balanced
  | value column _ _ => NoPlaceholder column

mutual

/-- **A call whose placeholders are all accounted for.** -/
def Call.Balanced : Call → Prop
  | .push clause fragments values =>
    clause = .froms ∧ values = [] ∧ ∃ f : Fragment, fragments = [f] ∧ f.Placeless
  | .nest calls clause _ => (clause = .wheres ∨ clause = .havings) ∧ callsBalanced calls
  | .tables names => ∀ name ∈ names, NoPlaceholder name
  | .tableAs name label => NoPlaceholder name ∧ NoPlaceholder label
  | .tableRaw e values => e.Balanced values
  | .tableSource source label => source.Balanced ∧ NoPlaceholder label
  | .select columns => ∀ column ∈ columns, NoPlaceholder column
  | .selectAs column label => NoPlaceholder column ∧ NoPlaceholder label
  | .selectExpr e label => e.Balanced [] ∧ NoPlaceholder label
  | .selectRaw e => e.Balanced []
  | .selectSource source label => source.Balanced ∧ ∀ l ∈ label, NoPlaceholder l
  | .condition _ _ p => p.Balanced
  | .compareMany _ _ comparisons => ∀ c ∈ comparisons, NoPlaceholder c.column
  | .inMany lists => ∀ l ∈ lists, NoPlaceholder l.1
  | .nullMany _ columns => ∀ column ∈ columns, NoPlaceholder column
  | .join _ table condition => NoPlaceholder table ∧ condition.Balanced
  | .joinSource _ source label condition =>
    source.Balanced ∧ NoPlaceholder label ∧ condition.Balanced
  | .list _ columns _ => ∀ column ∈ columns, NoPlaceholder column
  | .listRaw _ e values => e.Balanced values
  | .listSource _ source _ => source.Balanced
  | .limitRaw e => e.Balanced []
  | .offsetRaw e => e.Balanced []
  | .union _ source => source.Balanced
  | .lock sql => NoPlaceholder sql
  | .throws _ | .debug _ | .limit _ | .limitRange _ _ | .offset _ | .page _ | .perPage _
  | .forPage _ _ | .rowLock _ => True

/-- A condition whose placeholders are all accounted for. -/
def Predicate.Balanced : Predicate → Prop
  | .compare c => NoPlaceholder c.column
  | .group calls => callsBalanced calls
  | .compareSource column _ source => NoPlaceholder column ∧ source.Balanced
  | .sourceCompare source _ _ => source.Balanced
  | .inList _ column _ => NoPlaceholder column
  | .inSource _ column source => NoPlaceholder column ∧ source.Balanced
  | .null _ column => NoPlaceholder column
  | .between _ column _ _ => NoPlaceholder column
  | .like _ subject _ => subject.Balanced
  | .existence _ source => source.Balanced
  | .quantified _ column _ source => NoPlaceholder column ∧ source.Balanced
  | .raw e values => e.Balanced values

/-- A source whose placeholders are all accounted for. -/
def Source.Balanced : Source → Prop
  | .text sql => NoPlaceholder sql
  | .raw e => e.Balanced []
  | .closure calls => callsBalanced calls
  | .prepared target calls => (∀ own ∈ target, own.Placeless) ∧ callsBalanced calls

/-- A left side whose placeholders are all accounted for. -/
def Operand.Balanced : Operand → Prop
  | .column name => NoPlaceholder name
  | .source source => source.Balanced

/-- Calls whose placeholders are all accounted for. -/
def callsBalanced : List Call → Prop
  | [] => True
  | call :: rest => call.Balanced ∧ callsBalanced rest

end

/-! ## What a target without placeholders writes without placeholders -/

theorem Target.placeless_mysql (database : Option String)
    (h : ∀ name ∈ database, NoPlaceholder name) : Target.Placeless ⟨.mysql, database⟩ :=
  ⟨(by decide : Dialect.mysql.quote ≠ '?'),
    fun lock => by cases lock <;> (rintro _ ⟨⟩; decide), h⟩

theorem Target.placeless_sqlite (database : Option String)
    (h : ∀ name ∈ database, NoPlaceholder name) : Target.Placeless ⟨.sqlite, database⟩ :=
  ⟨(by decide : Dialect.sqlite.quote ≠ '?'),
    fun lock => by cases lock <;> simp [Dialect.lock?, Dialect.sqlite], h⟩

namespace NoPlaceholder

theorem append {a b : String} (ha : NoPlaceholder a) (hb : NoPlaceholder b) :
    NoPlaceholder (a ++ b) := by
  rw [NoPlaceholder, String.toList_append, List.mem_append, not_or]
  exact ⟨ha, hb⟩

theorem joinWith {sep : String} (hsep : NoPlaceholder sep) {ss : List String}
    (h : ∀ s ∈ ss, NoPlaceholder s) : NoPlaceholder (Text.joinWith sep ss) := by
  induction ss using Text.joinWith.induct with
  | case1 => exact List.not_mem_nil
  | case2 s => exact h s List.mem_cons_self
  | case3 s u rest ih =>
    rw [Text.joinWith]
    exact ((h s List.mem_cons_self).append hsep).append
      (ih fun x hx => h x (List.mem_cons_of_mem s hx))

variable {t : Target} (ht : t.Placeless) {name : String}

include ht

theorem quoteColumn (h : NoPlaceholder name) : NoPlaceholder (t.dialect.quoteColumn name) :=
  Dialect.not_mem_quoteColumn ht.quote (by decide) h

theorem quoteIdentifier (h : NoPlaceholder name) :
    NoPlaceholder (t.dialect.quoteIdentifier name) := Dialect.not_mem_quoteIdentifier ht.quote h

/-- A column with what it is compared by. -/
theorem compared {op : String} (h : NoPlaceholder name) (hop : NoPlaceholder op) :
    NoPlaceholder (t.dialect.quoteColumn name ++ " " ++ op) :=
  .append (.append (quoteColumn ht h) (by decide)) hop

theorem columnList {columns : List String} (h : ∀ column ∈ columns, NoPlaceholder column) :
    NoPlaceholder (t.dialect.columnList columns) :=
  joinWith (by decide) (List.forall_mem_map.mpr fun column hcolumn =>
    quoteColumn ht (h column hcolumn))

theorem aliased {sql : String} (hs : NoPlaceholder sql) (h : NoPlaceholder name) :
    NoPlaceholder (t.dialect.aliased sql name) := by
  unfold Dialect.aliased
  exact (hs.append (by decide)).append (quoteIdentifier ht h)

end NoPlaceholder

theorem noPlaceholder_keyword (link : Connective) : NoPlaceholder (link.keyword ++ " ") := by
  cases link <;> decide

theorem noPlaceholder_rawKeyword (link : Connective) :
    NoPlaceholder (link.rawKeyword ++ " ") := by cases link <;> decide

theorem noPlaceholder_nullTest (negated : Bool) : NoPlaceholder (nullTest negated) := by
  cases negated <;> decide

theorem noPlaceholder_negatedKeyword (negated : Bool) {keyword : String}
    (h : NoPlaceholder keyword) : NoPlaceholder (negatedKeyword negated keyword) := by
  cases negated with
  | true => exact .append (by decide) h
  | false => exact h

theorem noPlaceholder_directed {sql : String} (h : NoPlaceholder sql)
    (direction : Option Direction) : NoPlaceholder (directed sql direction) := by
  cases direction with
  | none => exact h
  | some d => exact (h.append (by decide)).append (by cases d <;> decide)

end FluentSql
