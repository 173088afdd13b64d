import FluentSql.Builder.Fluent
import FluentSql.Proofs.Clauses
import FluentSql.Proofs.Frame
import FluentSql.Proofs.Quote

/-!
# Proofs/Sources — what a qualifier is put in front of

    SELECT columns FROM │ first │ , second, … JOIN … WHERE …
                        └ `archive`.

The sources of a query are those that its calls add, in their order (`Builder.froms_calls`): tables by
name, sub-queries, literal text, and fragments written by the caller (`Origin`).  When a query for
another database becomes a table, the name of its database is put in front of the first of them, and
nothing else changes (`Builder.table_qualified`).  Literal text alone is spared; a sub-query is not.
-/

namespace FluentSql

/-! ## Sources and the calls that add them -/

/-- **A source by what it is.** -/
inductive Origin
  /-- A table, perhaps with an alias. -/
  | named (name : String) (label : Option String)
  /-- The rows of a sub-query. -/
  | derived (sql label : String)
  /-- Literal text. -/
  | literal (e : Expression)
  /-- A fragment as the caller wrote it, or a group of fragments. -/
  | written (f : Fragment)
  deriving DecidableEq, Repr

/-- The entry of a source. -/
def Origin.fragment (d : Dialect) : Origin → Fragment
  | named name none => .text (d.quoteColumn name)
  | named name (some label) => .text (d.aliased (d.quoteColumn name) label)
  | derived sql label => .text (d.aliased ("(" ++ sql ++ ")") label)
  | literal e => .raw e.bare
  | written f => f

/-- **The sources that a call adds.** -/
def Call.origins (t : Target) : Call → List Origin
  | .push .froms fragments _ => fragments.map .written
  | .nest calls .froms link =>
    let part := (Builder.ofEdits t (callEdits t calls)).query.part .froms
    if part.isEmpty then []
    else [.written (.text (link.keyword ++ " " ++
      ("(" ++ Connective.dropLeadingText (Fragment.join " " part.fragments) ++ ")")))]
  | .tables names => names.map (.named · none)
  | .tableAs name label => [.named name (some label)]
  | .tableRaw e _ => [.literal e]
  | .tableSource source label =>
    match (source.evaluate t).tableStatement t with
    | .ok s => [.derived s.sql label]
    | .error _ => []
  | _ => []

namespace Builder

/-- Entries are added in their order. -/
theorem fragments_edits_map (b : Builder) {α : Type} (clause : Clause) (f : α → String)
    (l : List α) :
    ((b.edits (l.map fun a => .entry clause (f a) [])).query.part clause).fragments =
      (b.query.part clause).fragments ++ l.map fun a => .text (f a) := by
  induction l generalizing b with
  | nil => exact (List.append_nil _).symm
  | cons a l ih =>
    have hentry : ((b.edit (.entry clause (f a) [])).query.part clause).fragments =
        (b.query.part clause).fragments ++ [.text (f a)] := by
      rw [Edit.entry, edit, Query.append, Query.part_modify_self, Part.append_fragments]
    rw [List.map_cons, edits_cons, ih, hentry, List.map_cons, List.append_assoc,
      List.singleton_append]

/-- **A call adds its sources behind those there are.** -/
theorem froms_call (b : Builder) (call : Call) :
    ((b.call call).query.part .froms).fragments = (b.query.part .froms).fragments ++
      (call.origins b.target).map (Origin.fragment b.target.dialect) := by
  -- only calls that name a source touch the clause, and a group or a fragment put into it by hand
  have huntouched (h : .froms ∉ call.touched) (hnone : call.origins b.target = []) :
      ((b.call call).query.part .froms).fragments = (b.query.part .froms).fragments ++
        (call.origins b.target).map (Origin.fragment b.target.dialect) := by
    rw [b.part_call call h, hnone, List.map_nil, List.append_nil]
  cases call with
  | push clause fragments values =>
    cases clause with
    | froms =>
      have hpush : (b.call (.push .froms fragments values)).query.froms.fragments =
          b.query.froms.fragments ++ fragments := rfl
      have hfragments : (fragments.map Origin.written).map (Origin.fragment b.target.dialect) =
          fragments := by
        rw [List.map_map]
        exact List.map_id fragments
      rw [Call.origins, hfragments]
      exact hpush
    | _ => exact huntouched (by simp [Call.touched]) rfl
  | nest calls clause link =>
    cases clause with
    | froms =>
      rw [Builder.call, Call.edits, groupEdits, edits_append, Call.origins]
      have hfailure (error : Option BuildError) :
          (b.edits (Edit.failure error)).query.part .froms = b.query.part .froms :=
        (Within.failure error).part_eq List.not_mem_nil b
      split
      · rw [edits_nil, hfailure, List.map_nil, List.append_nil]
      · rw [← hfailure]
        rfl
    | _ => exact huntouched (by simp [Call.touched]) rfl
  | tables names =>
    rw [Builder.call, Call.edits, fragments_edits_map, Call.origins, List.map_map]
    rfl
  | tableAs name label => rfl
  | tableRaw e values => rfl
  | tableSource source label =>
    rw [Builder.call, Call.edits, Call.origins]
    cases (source.evaluate b.target).tableStatement b.target with
    | error e => exact (List.append_nil _).symm
    | ok s => rfl
  | condition zone _ _ | compareMany zone _ _ =>
    exact huntouched (by cases zone <;> simp [Call.touched, Zone.clause]) rfl
  | list listing _ _ | listRaw listing _ _ | listSource listing _ _ =>
    exact huntouched (by cases listing <;> simp [Call.touched, Listing.clause]) rfl
  | _ => exact huntouched (by simp [Call.touched]) rfl

/-- **The sources of a query are those that its calls add**, in their order. -/
theorem froms_calls (t : Target) (calls : List Call) :
    (((new t).calls calls).query.part .froms).fragments =
      (calls.flatMap (Call.origins t)).map (Origin.fragment t.dialect) := by
  have hcalls (b : Builder) (ht : b.target = t) :
      ((b.calls calls).query.part .froms).fragments = (b.query.part .froms).fragments ++
        (calls.flatMap (Call.origins t)).map (Origin.fragment t.dialect) := by
    induction calls generalizing b with
    | nil => exact (List.append_nil _).symm
    | cons call calls ih =>
      have hcons : b.calls (call :: calls) = (b.call call).calls calls := rfl
      rw [hcons, ih (b.call call) ((target_call b call).trans ht), froms_call, ht, List.flatMap_cons,
        List.map_append, List.append_assoc]
  exact hcalls (new t) rfl

end Builder

/-! ## A statement at its first source -/

/-- What a qualifier adds to a fragment: itself, unless the fragment begins with it or is literal. -/
def Fragment.insertion (qualifier : String) : Fragment → String
  | text table => if qualifier.toList.isPrefixOf table.toList then "" else qualifier
  | raw _ => ""

/-- **The first fragment behind its qualifier.** -/
theorem Builder.qualifyFirst_cons (qualifier : String) (first : Fragment) (others : List Fragment) :
    ∃ f : Fragment, qualifyFirst qualifier (first :: others) = f :: others ∧
      f.sql = first.insertion qualifier ++ first.sql := by
  cases first with
  | raw e => exact ⟨.raw e, rfl, String.empty_append.symm⟩
  | text table =>
    rw [qualifyFirst, Fragment.insertion]
    split
    · exact ⟨.text table, rfl, String.empty_append.symm⟩
    · exact ⟨.text (qualifier ++ table), rfl, rfl⟩

namespace Query

/-- A statement in front of its first source. -/
def untilSource (q : Query) : String := "SELECT " ++ (q.clause? .columns).getD "*" ++ " FROM "

/-- A statement behind its first source. -/
def behindSource (q : Query) (others : List Fragment) : String :=
  String.join (others.map fun f => ", " ++ f.sql) ++
    (q.trail [.joins, .wheres, .groups, .havings, .orders, .limits, .offset] ++
      (spaced q.lock ++ spaced (q.clause? .unions)))

/-- **A SELECT cut around its first source.** -/
theorem select_eq_source {q : Query} {first : Fragment} {others : List Fragment}
    (h : (q.part .froms).fragments = first :: others) :
    q.select = q.untilSource ++ first.sql ++ q.behindSource others := by
  have hfroms : q.clause? .froms = some ("FROM " ++
      (first.sql ++ String.join (others.map fun f => ", " ++ f.sql))) := by
    rw [clause?, fragments?, h, Option.map_some, Fragment.join, List.map_cons, joinWith_cons,
      List.map_map]
    rfl
  rw [select_eq, middle, trail_cons, hfroms, spaced, untilSource, behindSource]
  simp only [String.append_assoc]
  rfl

/-- **A qualifier is put in front of the first source**, and changes nothing else. -/
theorem select_qualify (qualifier : String) {q : Query} {first : Fragment} {others : List Fragment}
    (h : (q.part .froms).fragments = first :: others) :
    (Builder.qualify qualifier q).select =
      q.untilSource ++ first.insertion qualifier ++ first.sql ++ q.behindSource others := by
  obtain ⟨f, hqualify, hf⟩ := Builder.qualifyFirst_cons qualifier first others
  have hfroms : ((Builder.qualify qualifier q).part .froms).fragments = f :: others := by
    rw [Builder.qualify, part_modify_self, h, hqualify]
  have hclause (c : Clause) (hc : c ≠ .froms) :
      (Builder.qualify qualifier q).clause? c = q.clause? c :=
    clause?_congr (part_modify_of_ne q _ hc)
  have hlock : (Builder.qualify qualifier q).lock = q.lock := lock_modify q _ .froms
  have hfront : (Builder.qualify qualifier q).untilSource = q.untilSource := by
    rw [untilSource, untilSource, hclause .columns nofun]
  have hback : (Builder.qualify qualifier q).behindSource others = q.behindSource others := by
    rw [behindSource, behindSource, hlock, hclause .unions nofun]
    simp only [trail_cons, trail_nil, hclause .joins nofun, hclause .wheres nofun,
      hclause .groups nofun, hclause .havings nofun, hclause .orders nofun, hclause .limits nofun,
      hclause .offset nofun]
  rw [select_eq_source hfroms, hfront, hback, hf]
  simp only [String.append_assoc]

/-- Without a source there is nothing to qualify. -/
theorem qualify_of_nil (qualifier : String) {q : Query} (h : (q.part .froms).fragments = []) :
    Builder.qualify qualifier q = q := by
  refine ext_part (fun c => ?_) (lock_modify q _ .froms)
  by_cases hc : c = .froms
  · subst hc
    rw [Builder.qualify, part_modify_self, h, Builder.qualifyFirst, ← h]
    nofun
  · exact part_modify_of_ne q _ hc

end Query

/-! ## A query for another database -/

/-- **What a qualifier adds to a source.**  Literal text is spared, and what begins with the qualifier;
a sub-query is not. -/
def Origin.insertion (d : Dialect) (qualifier : String) : Origin → String
  | literal _ | written (.raw _) => ""
  | o => if qualifier.toList.isPrefixOf (o.fragment d).sql.toList then "" else qualifier

theorem Origin.insertion_eq (d : Dialect) (qualifier : String) (o : Origin) :
    o.insertion d qualifier = (o.fragment d).insertion qualifier := by
  cases o with
  | named name label => cases label <;> rfl
  | derived sql label => rfl
  | literal e => rfl
  | written f => cases f <;> rfl

/-- **A sub-query is never spared**: it begins with a parenthesis, and an identifier with its quote. -/
theorem Origin.insertion_derived (d : Dialect) {parent : Dialect} (hquote : parent.quote ≠ '(')
    (database sql label : String) :
    (derived sql label).insertion d (parent.quoteIdentifier database ++ ".") =
      parent.quoteIdentifier database ++ "." := by
  obtain ⟨m, rest, hname, hm⟩ := parent.exists_quoteIdentifier database
  have hparen : m ≠ '(' := by
    rcases hm with rfl | rfl
    · exact hquote
    · decide
  have hspared : ¬ (parent.quoteIdentifier database ++ ".").toList.isPrefixOf
      (d.aliased ("(" ++ sql ++ ")") label).toList = true := by
    have hstart : (d.aliased ("(" ++ sql ++ ")") label).toList.head? = some '(' := by
      simp [Dialect.aliased]
    rw [List.isPrefixOf_iff_prefix, String.toList_append, hname]
    rintro ⟨behind, htext⟩
    rw [← htext] at hstart
    exact hparen (Option.some.inj hstart)
  rw [insertion]
  · exact if_neg hspared
  all_goals nofun

/-- **A query prepared for another database is compiled as a table** with a qualifier put in, and with
the values it has. -/
theorem Evaluated.tableStatement_prepared {parent : Target} {b : Builder} {database : String}
    (hown : b.target.database = some database) (hother : parent.database ≠ some database) :
    (Evaluated.prepared b).tableStatement parent = b.compile.map fun s =>
      ⟨(Builder.qualify (parent.dialect.quoteIdentifier database ++ ".") b.query).select,
        s.bindings⟩ := by
  have hbindings := b.bindings_qualifiedFor parent
  rw [tableStatement, Builder.compile_eq, Builder.compile_eq, Builder.error_qualifiedFor, hbindings]
  cases b.error with
  | some e => rfl
  | none =>
    rw [Builder.qualifiedFor, hown]
    simp only [if_neg hother]
    rfl

/-- **A query prepared for another database as a table**, for any builder: up to its first source and
behind it, its statement is the one it has on its own, and so are its values and its error.  In front of
the first source stands the name of its database, in the quotes of the builder, and a point, unless the
source is literal or begins with them.  A table is qualified like this, and a sub-query too.  The
statement goes into parentheses, among the sources or behind a join. -/
theorem Builder.table_qualified (b : Builder) {own : Target} {database : String}
    (hown : own.database = some database) (hother : b.target.database ≠ some database)
    (calls : List Call) :
    let sub := (new own).calls calls
    let source := Source.prepared (some own) calls
    let qualifier := b.target.dialect.quoteIdentifier database ++ "."
    let resolved := (source.evaluate b.target).tableStatement b.target
    let table (s : Statement) (label : String) := b.target.dialect.aliased ("(" ++ s.sql ++ ")") label
    (match calls.flatMap (Call.origins own) with
      | [] => resolved = sub.compile
      | first :: others =>
        let text := (first.fragment own.dialect).sql
        let front := sub.query.untilSource
        let back := sub.query.behindSource (others.map (Origin.fragment own.dialect))
        sub.sql = front ++ text ++ back ∧
          resolved = sub.compile.map fun s =>
            ⟨front ++ first.insertion own.dialect qualifier ++ text ++ back, s.bindings⟩) ∧
      (b.target.dialect.quote ≠ '(' →
        ∀ sql label, (Origin.derived sql label).insertion own.dialect qualifier = qualifier) ∧
      (∀ label, b.call (.tableSource source label) =
        b.edits (Edit.after resolved fun s => [.entry .froms (table s label) s.bindings])) ∧
      ∀ kind label condition, b.call (.joinSource kind source label condition) =
        b.edits (Edit.after resolved fun s =>
          condition.edits b.target kind (table s label) s.bindings) := by
  intro sub source qualifier resolved table
  have hsub : ofEdits own (callEdits own calls) = sub := (calls_eq_edits (new own) calls).symm
  have htarget : sub.target = own := target_calls (new own) calls
  have hresolved : resolved = sub.compile.map fun s =>
      ⟨(qualify qualifier sub.query).select, s.bindings⟩ := by
    rw [← Evaluated.tableStatement_prepared (htarget ▸ hown) hother, ← hsub]
    rfl
  have hfroms : (sub.query.part .froms).fragments =
      (calls.flatMap (Call.origins own)).map (Origin.fragment own.dialect) := froms_calls own calls
  refine ⟨?_, fun hquote => Origin.insertion_derived own.dialect hquote database, fun label => ?_,
    fun kind label condition => ?_⟩
  · split
    · next hnone =>
      rw [hnone, List.map_nil] at hfroms
      rw [hresolved, Query.qualify_of_nil qualifier hfroms, compile_eq]
      cases sub.error <;> rfl
    · next first others hcons =>
      rw [hcons, List.map_cons] at hfroms
      refine ⟨Query.select_eq_source hfroms, ?_⟩
      rw [hresolved, Query.select_qualify qualifier hfroms, Origin.insertion_eq]
  · rw [call, Call.edits]
  · rw [call, Call.edits]

/-- A table with an alias, and a function behind it: the database is put in front of the table. -/
theorem Builder.table_qualified_named :
    let b := new ⟨.mysql, some "main"⟩
    let own : Target := ⟨.sqlite, some "archive"⟩
    let calls : List Call :=
      [.tableAs "old_users" "u", .tableExpr ⟨"json_each(?)", some (.int 1)⟩, .whereEq "u.id" (.int 2)]
    (own.database = some "archive" ∧ b.target.database ≠ some "archive") ∧
      calls.flatMap (Call.origins own) =
        [.named "old_users" (some "u"), .literal ⟨"json_each(?)", some (.int 1)⟩] ∧
      ((Source.prepared (some own) calls).evaluate b.target).tableStatement b.target =
        .ok ⟨"SELECT * FROM `archive`.\"old_users\" AS \"u\", json_each(?) WHERE \"u\".\"id\" = ?",
          [.int 1, .int 2]⟩ := by
  intro b own calls
  have hown : own.database = some "archive" := rfl
  have hother : b.target.database ≠ some "archive" := by decide
  have horigins : calls.flatMap (Call.origins own) =
      [.named "old_users" (some "u"), .literal ⟨"json_each(?)", some (.int 1)⟩] := by
    decide +kernel
  obtain ⟨hmatch, -⟩ := b.table_qualified hown hother calls
  rw [horigins] at hmatch
  exact ⟨⟨hown, hother⟩, horigins, hmatch.2.trans (by decide +kernel)⟩

/-- **A sub-query behind the name of a database** is no table: the statement is none. -/
theorem Builder.table_qualified_derived :
    let b := new ⟨.mysql, some "main"⟩
    let own : Target := ⟨.mysql, some "archive"⟩
    let calls : List Call := [.tableSource (.closure [.table "t"]) "x"]
    let sub := (new own).calls calls
    let resolved := b.call (.tableSource (.prepared (some own) calls) "o")
    (sub.error = none ∧ sub.sql = "SELECT * FROM (SELECT * FROM `t`) AS `x`") ∧
      resolved.error = none ∧
      resolved.sql = "SELECT * FROM (SELECT * FROM `archive`.(SELECT * FROM `t`) AS `x`) AS `o`" := by
  decide +kernel

end FluentSql
