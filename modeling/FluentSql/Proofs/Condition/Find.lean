import FluentSql.Connection.Script
import FluentSql.Builder.Fluent
import FluentSql.Proofs.Condition.Call
import FluentSql.Proofs.Condition.Column
import FluentSql.Proofs.Edits
import FluentSql.Session.Read

/-!
# Proofs/Condition/Find — which rows a look-up by a column admits

A look-up adds `column = value` behind the conditions a builder has, tied on by AND and without
parentheses around what was there (`Builder.lookup_reads`).  So it belongs to the last alternative of
those conditions and to no other: the rows of its statement need to have the value just when the
conditions before it are no choice, which is to say that none but the first is tied on by OR and none
is written with an OR outside parentheses (`Database.findBy_restricts_iff`).  A condition tied on by OR
before lets other rows in (`Database.findBy_admits_other`).
-/

namespace FluentSql

/-- The test of a look-up. -/
def equalityTest (value : Value) : String := if value.isNull then " IS NULL" else " = ?"

/-- **The predicate of a look-up**: a column has a value, or is NULL if the value is. -/
def lookupText (d : Dialect) (column : String) (value : Value) : String :=
  d.quoteColumn column ++ equalityTest value

/-- The calls of a look-up. -/
def lookupCalls (column : String) (value : Value) : List Call := [.whereEq column value, .limit 1]

/-- A builder that looks up a row. -/
def Builder.lookup (b : Builder) (column : String) (value : Value) : Builder :=
  b.calls (lookupCalls column value)

theorem Comparison.text_equality (t : Target) (column : String) (value : Value) :
    Comparison.text t ⟨column, none, value⟩ = .ok (lookupText t.dialect column value) := by
  have htext : Comparison.text t ⟨column, none, value⟩ = .ok (if value.isNull
      then t.dialect.quoteColumn column ++ " " ++ nullTest ("=" != "=")
      else t.dialect.quoteColumn column ++ " " ++ "=" ++ " ?") := rfl
  rw [htext, lookupText, equalityTest]
  cases value.isNull with
  | true => exact congrArg Except.ok (String.append_assoc ..)
  | false =>
    rw [if_neg Bool.false_ne_true, if_neg Bool.false_ne_true, String.append_assoc,
      String.append_assoc]
    rfl

/-- **The predicate of a look-up reads as one predicate.** -/
theorem ofText?_lookupText {d : Dialect} (hq : Reader.opensQuote d.quote = true) {column : String}
    (h : ∀ s ∈ Dialect.pieces column.toList, d.Whole s) (value : Value) :
    Reading.ofText? (lookupText d column value) =
      some { final := .predicate (lookupText d column value) } := by
  obtain ⟨u, e, hlast, he, hquiet⟩ : ∃ u e, (equalityTest value).toList = u ++ [e] ∧
      Text.isBlank e = false ∧ Reader.Quiet none (equalityTest value).toList := by
    rw [equalityTest]
    cases value.isNull with
    | true => exact ⟨" IS NUL".toList, 'L', by decide, by decide, _, rfl, by decide⟩
    | false => exact ⟨" = ".toList, '?', by decide, by decide, _, rfl, by decide⟩
  exact Reading.ofText?_quoteColumn hq h hquiet hlast he

/-! ## Calls one behind the other -/

theorem callConditions_append (t : Target) (clause : Clause) (calls more : List Call) :
    callConditions t clause (calls ++ more) =
      callConditions t clause calls ++ callConditions t clause more := by
  induction calls with
  | nil => rw [List.nil_append, callConditions, List.nil_append]
  | cons call calls ih => rw [List.cons_append, callConditions, callConditions, ih, List.append_assoc]

theorem callsRegular_append {clause : Clause} {calls more : List Call} :
    callsRegular clause (calls ++ more) ↔ callsRegular clause calls ∧ callsRegular clause more := by
  induction calls with
  | nil => rw [List.nil_append, callsRegular, true_and]
  | cons call calls ih => rw [List.cons_append, callsRegular, callsRegular, ih, and_assoc]

/-! ## The statement of a look-up -/

section

variable {t : Target} {calls : List Call}

/-- **A look-up adds one condition** to those of the calls before it. -/
theorem callConditions_lookup (t : Target) (calls : List Call) (column : String) (value : Value) :
    callConditions t .wheres (calls ++ lookupCalls column value) =
      callConditions t .wheres calls ++ [.structured .and (lookupText t.dialect column value)] := by
  have hwheres : Zone.wheres.clause = Clause.wheres := rfl
  have hlimit : Call.conditions t .wheres (.limit 1) = [] := by rw [Call.conditions] <;> nofun
  rw [callConditions_append, lookupCalls, callConditions, callConditions, callConditions,
    Call.conditions, if_pos hwheres, Predicate.conditions, Comparison.text_equality, hlimit]
  rfl

theorem callsRegular_lookup (column : String) (value : Value) :
    callsRegular Clause.wheres (lookupCalls column value) := by
  simp only [lookupCalls, callsRegular, Call.Regular, Predicate.Regular, implies_true, and_self]

/-- **The conditions of a look-up read as those before it and its own**, tied on by AND. -/
theorem Builder.lookup_reads (hregular : callsRegular Clause.wheres calls)
    (hreads : ∀ text ∈ leafTexts (callConditions t .wheres calls), (Reading.ofText? text).isSome)
    {column : String} {value : Value} {s : Reading}
    (hs : Reading.ofText? (lookupText t.dialect column value) = some s) :
    ∃ text r,
      (((new t).calls calls).lookup column value).query.clause? .wheres = some ("WHERE " ++ text) ∧
      Reading.ofText? text = some r ∧
      Reading.joinAll (readings (callConditions t .wheres calls) ++ [(.and, s)]) = some r := by
  have hlookup : ((new t).calls calls).lookup column value =
      ofEdits t (callEdits t (calls ++ lookupCalls column value)) := by
    rw [lookup, Builder.calls, Builder.calls, ← List.foldl_append]
    exact calls_eq_edits (new t) (calls ++ lookupCalls column value)
  have hregular' : callsRegular Clause.wheres (calls ++ lookupCalls column value) :=
    callsRegular_append.mpr ⟨hregular, callsRegular_lookup column value⟩
  have htree : callConditions t .wheres (calls ++ lookupCalls column value) =
      callConditions t .wheres calls ++ [.structured .and (lookupText t.dialect column value)] :=
    callConditions_lookup ..
  have hown : leafTexts [.structured .and (lookupText t.dialect column value)] =
      [lookupText t.dialect column value] := by
    rw [leafTexts, leafTexts, Condition.texts, List.append_nil]
  have hall : ∀ text ∈ leafTexts (callConditions t .wheres (calls ++ lookupCalls column value)),
      (Reading.ofText? text).isSome := by
    rw [htree, leafTexts_append, hown, List.forall_mem_append, List.forall_mem_singleton, hs]
    exact ⟨hreads, rfl⟩
  have hreading := ofText?_renderConditions hall
  have hreadings : readings (callConditions t .wheres (calls ++ lookupCalls column value)) =
      readings (callConditions t .wheres calls) ++ [(.and, s)] := by
    have hread : (Condition.structured .and (lookupText t.dialect column value)).reading? =
        some (.and, s) := by
      rw [Condition.reading?, hs]
      rfl
    rw [htree, readings_append, readings, hread, readings_nil]
    rfl
  obtain ⟨r, hr, -⟩ := Reading.joinAll_concat (readings (callConditions t .wheres calls)) (.and, s)
  rw [hreadings, hr, Option.map_some] at hreading
  obtain ⟨text, htext, hread⟩ := Option.map_eq_some_iff.mp hreading
  have hclause := Query.clause?_zone
    (ofEdits t (callEdits t (calls ++ lookupCalls column value))).query .wheres
  rw [← (callsDenote t .wheres (calls ++ lookupCalls column value) hregular').render t,
    Zone.clause, htext] at hclause
  have hwhere : (((new t).calls calls).lookup column value).query.clause? .wheres =
      some ("WHERE " ++ text) := by
    rw [hlookup, hclause]
    rfl
  exact ⟨text, r, hwhere, hread, hr⟩

/-- A look-up records no error. -/
theorem Builder.error_lookup (b : Builder) (column : String) (value : Value) :
    (b.lookup column value).error = b.error := by
  have hcondition : ((Call.whereEq column value).edits b.target).findSome? Edit.error? = none := by
    have hedits : (Call.whereEq column value).edits b.target = if value.isNull
        then [.nullCondition b.target .wheres .and false column]
        else [.condition .wheres .and (b.target.dialect.quoteColumn column ++ " " ++ "=" ++ " ?")
          [value]] := rfl
    rw [hedits]
    cases value.isNull <;> rfl
  have hlookup : b.lookup column value =
      (b.call (.whereEq column value)).call (.limit 1) := rfl
  rw [hlookup, call, call, error_edits, error_edits, hcondition]
  simp [Call.edits, Edit.limit, Edit.error?]

end

namespace Database

variable {σ : Type}

/-- **A look-up runs the statement of its builder**, if the builder has recorded no error. -/
theorem findBy_eq (db : Database σ) {b : Builder} (h : b.error = none) (column : String)
    (value : Value) :
    db.findBy b column value = do
      let found := b.lookup column value
      let row := (← db.run ⟨found.query.select, found.query.bindings⟩ found.debug).fetchFirst.1
      guardFound found row.isSome
      return row := by
  let found := b.lookup column value
  have hcompile : found.compile = .ok ⟨found.query.select, found.query.bindings⟩ := by
    rw [Builder.compile_eq, Builder.error_lookup, h]
  have hrun : db.runBuilt found found.compile =
      db.run ⟨found.query.select, found.query.bindings⟩ found.debug := by
    rw [runBuilt, hcompile]
    rfl
  exact congrArg (fun result => do
    let row := (← result).fetchFirst.1
    guardFound found row.isSome
    return row) hrun

/-- **The rows of a look-up have the value just when the conditions before it are no choice.**  The
statement it runs reads as the conditions before and its own, tied on by AND.  Over all truth values
of the predicates, its own holds where the whole does if and only if none of the conditions before has
an OR outside parentheses, and none but the first is tied on by OR. -/
theorem findBy_restricts_iff (db : Database σ) {t : Target} {calls : List Call}
    (hregular : callsRegular Clause.wheres calls)
    (herror : ((Builder.new t).calls calls).error = none)
    (hreads : ∀ text ∈ leafTexts (callConditions t .wheres calls), (Reading.ofText? text).isSome)
    (hquote : Reader.opensQuote t.dialect.quote = true) {column : String}
    (hcolumn : ∀ s ∈ Dialect.pieces column.toList, t.dialect.Whole s) (value : Value) :
    let b := ((Builder.new t).calls calls).lookup column value
    let p := lookupText t.dialect column value
    let before := readings (callConditions t .wheres calls)
    db.findBy ((Builder.new t).calls calls) column value = (do
        let row := (← db.run ⟨b.query.select, b.query.bindings⟩ b.debug).fetchFirst.1
        guardFound b row.isSome
        return row) ∧
      ∃ text r others,
        b.query.clause? .wheres = some ("WHERE " ++ text) ∧
        Reading.ofText? text = some r ∧
        Reading.joinAll (before ++ [(.and, { final := .predicate p })]) = some r ∧
        r.formula.predicates = others ++ [p] ∧
        ((∀ v : Nat → Bool, r.formula.holds v 0 = true → v others.length = true) ↔
          (∀ x ∈ before, x.2.Conjunctive) ∧ ∀ x ∈ before.tail, x.1 = .and) := by
  intro b p before
  obtain ⟨text, r, hclause, hread, hr⟩ :=
    Builder.lookup_reads hregular hreads (ofText?_lookupText hquote hcolumn value)
  have hfinal : r.final = .predicate p := by
    obtain ⟨r', hr', hfinal⟩ := Reading.joinAll_concat before (.and, { final := .predicate p })
    obtain rfl : r' = r := Option.some.inj (hr'.symm.trans hr)
    exact hfinal
  have hconjunctive : r.Conjunctive ↔
      (∀ x ∈ before, x.2.Conjunctive) ∧ ∀ x ∈ before.tail, x.1 = .and :=
    Reading.conjunctive_iff_of_joinAll_concat (s := { final := .predicate p }) rfl hr
  refine ⟨db.findBy_eq herror column value, text, r, r.past.predicates, hclause, hread, hr, ?_,
    (Reading.implied_iff hfinal).trans hconjunctive⟩
  rw [Reading.predicates_formula, hfinal]
  rfl

/-- A first condition tied on by OR, a group with an OR of its own, and a literal condition with an AND
that ties nothing: none of them is a choice, so the row looked up has its name. -/
theorem findBy_restricts_grouped :
    let db : Database Script := ⟨Script.connection none, .mysql⟩
    let calls : List Call :=
      [.table "t", .orWhereEq "a" (.int 1),
        .whereGroup [.whereEq "b" (.int 2), .orWhereEq "c" (.int 3)],
        .condition .wheres .and (.raw ⟨"d between 1 and 2", none⟩ [])]
    let b := ((Builder.new db.target).calls calls).lookup "u.name" .null
    (callsRegular Clause.wheres calls ∧ ((Builder.new db.target).calls calls).error = none ∧
      (∀ text ∈ leafTexts (callConditions db.target .wheres calls),
        (Reading.ofText? text).isSome) ∧
      Reader.opensQuote db.dialect.quote = true ∧
      ∀ s ∈ Dialect.pieces "u.name".toList, db.dialect.Whole s) ∧
    b.query.clause? .wheres = some
      "WHERE `a` = ? AND (`b` = ? OR `c` = ?) and d between 1 and 2 AND `u`.`name` IS NULL" ∧
    ∃ text r others, b.query.clause? .wheres = some ("WHERE " ++ text) ∧
      Reading.ofText? text = some r ∧
      r.formula.predicates = others ++ ["`u`.`name` IS NULL"] ∧
      ∀ v : Nat → Bool, r.formula.holds v 0 = true → v others.length = true := by
  intro db calls b
  have hregular : callsRegular Clause.wheres calls := by
    simp only [calls, callsRegular, Call.Regular, Predicate.Regular]
    decide
  have herror : ((Builder.new db.target).calls calls).error = none := by decide +kernel
  have hreads : ∀ text ∈ leafTexts (callConditions db.target .wheres calls),
      (Reading.ofText? text).isSome := by decide +kernel
  have hcolumn : ∀ s ∈ Dialect.pieces "u.name".toList, db.dialect.Whole s := by decide +kernel
  have htext : lookupText db.dialect "u.name" .null = "`u`.`name` IS NULL" := by decide +kernel
  obtain ⟨-, text, r, others, hclause, hread, -, hpredicates, himplied⟩ :=
    db.findBy_restricts_iff hregular herror hreads rfl hcolumn .null
  rw [show db.target.dialect = db.dialect from rfl, htext] at hpredicates
  exact ⟨⟨hregular, herror, hreads, rfl, hcolumn⟩, by decide +kernel, text, r, others, hclause, hread,
    hpredicates, himplied.mpr (by decide +kernel)⟩

/-- **A condition tied on by OR lets other rows in**: the statement reads as `a` or else both `b` and
the key, and holds with another key where `a` does. -/
theorem findBy_admits_other :
    let db : Database Script := ⟨Script.connection none, .mysql⟩
    let b := (Builder.new db.target).calls
      [.table "t", .whereEq "a" (.int 1), .orWhereEq "b" (.int 2)]
    let text := "`a` = ? OR `b` = ? AND `id` = ?"
    b.error = none ∧
      ((db.findBy b "id" (.int 5)).play { link := {} }).2.link.executed =
        [⟨⟨"SELECT * FROM `t` WHERE " ++ text ++ " LIMIT ?", [.int 1, .int 2, .int 5, .int 1]⟩,
          false⟩] ∧
      ∃ r, Reading.ofText? text = some r ∧
        r.formula.predicates = ["`a` = ?", "`b` = ?", "`id` = ?"] ∧
        ∃ v : Nat → Bool, r.formula.holds v 0 = true ∧ v 2 = false := by
  intro db b text
  refine ⟨by decide +kernel, by decide +kernel,
    ⟨⟨[.predicate "`a` = ?"], [.predicate "`b` = ?"]⟩, .predicate "`id` = ?"⟩, by decide +kernel, rfl,
    (· == 0), rfl, rfl⟩

end Database

end FluentSql
