import FluentSql.Builder.Fluent
import FluentSql.Proofs.Values

/-!
# Proofs/Condition/Null — what a comparison with NULL becomes

NULL compares with nothing, so a column compared with it is tested instead: equality becomes `IS NULL`,
its negations `IS NOT NULL`, and any other operator is an error (`Edit.nullComparison`).  The clause then
has one test more and no value more, or nothing but the error is changed (`Builder.NullTested`).  That is
so for a column, alone, in a batch or in a join; a sub-query compared with NULL and the value of a join
pass the same check of the operator, and then the NULL is bound (`Builder.null_compared`).
-/

namespace FluentSql

namespace Operator

/-- **What an operator tests before NULL**: equality that a value is NULL, its negations that it is
not, any other operator nothing. -/
def nullTest? (operator : String) : Option Bool :=
  if Text.trim operator = "=" then some false
  else if Text.trim operator = "<>" ∨ Text.trim operator = "!=" then some true
  else none

/-- The error for an operator that tests nothing before NULL. -/
def nullError (operator : String) : BuildError :=
  if isKnown (Text.trim operator) then .illegalOperatorAndValue (Text.trim operator)
  else .invalidOperator (Text.trim operator)

/-- An operator that tests is equality or one of its negations, and which of them tells the test. -/
theorem trim_of_nullTest? {operator : String} {negated : Bool}
    (h : nullTest? operator = some negated) :
    isKnown (Text.trim operator) = true ∧ (Text.trim operator != "=") = negated := by
  rw [nullTest?] at h
  split at h
  · next heq =>
    cases h
    rw [heq]
    decide
  split at h
  · next heq =>
    cases h
    rcases heq with heq | heq <;> rw [heq] <;> decide
  · cases h

/-- Operators are rejected before NULL just when they test nothing. -/
theorem rejects_null (operator : String) :
    rejects (Text.trim operator) .null = (nullTest? operator).isNone := by
  rw [rejects, testsNull, trim_trim, nullTest?]
  by_cases heq : Text.trim operator = "="
  · simp [heq, Value.isNull]
  · by_cases hne : Text.trim operator = "<>" ∨ Text.trim operator = "!="
    · rcases hne with hne | hne <;> simp [hne, Value.isNull]
    · simp [heq, Value.isNull, not_or.mp hne]

/-- **The operator of a comparison with NULL** is accepted just when it tests. -/
theorem prepare_null (operator : String) :
    prepare (some operator) .null = match nullTest? operator with
      | some _ => .ok (Text.trim operator)
      | none => .error (nullError operator) := by
  have hrejects := rejects_null operator
  cases htest : nullTest? operator with
  | some negated =>
    rw [htest] at hrejects
    simp [prepare, (trim_of_nullTest? htest).1, hrejects]
  | none =>
    rw [htest] at hrejects
    cases hknown : isKnown (Text.trim operator) <;> simp [prepare, nullError, hknown, hrejects]

end Operator

/-- **A column compared with NULL** behind a connective: a test without a value, or an error and
nothing else. -/
def Edit.nullComparison (t : Target) (clause : Clause) (link : Connective) (column operator : String) :
    Edit :=
  match Operator.nullTest? operator with
  | some negated => .condition clause link (t.dialect.quoteColumn column ++ " " ++ nullTest negated) []
  | none => .fail (Operator.nullError operator)

/-- **A builder before and after a column is tested for NULL**: the clause has one test more and no
value more, or the error is recorded and the rest is as it was. -/
def Builder.NullTested (t : Target) (clause : Clause) (link : Connective) (column operator : String)
    (b b' : Builder) : Prop :=
  match Operator.nullTest? operator with
  | some negated => b.Gains b' clause
      (.text (link.keyword ++ " " ++ (t.dialect.quoteColumn column ++ " " ++
        (if negated then "IS NOT NULL" else "IS NULL")))) []
  | none => b' = { b with error := b.error.or (some (Operator.nullError operator)) }

/-- **A comparison with NULL is such a test.** -/
theorem Builder.nullTested_edit (t : Target) (clause : Clause) (link : Connective)
    (column operator : String) (b : Builder) :
    NullTested t clause link column operator b
      (b.edit (.nullComparison t clause link column operator)) := by
  rw [NullTested, Edit.nullComparison]
  cases Operator.nullTest? operator with
  | some negated => exact b.gains_edit clause _ []
  | none => rfl

/-- **A column is not compared with NULL but tested.** -/
theorem Comparison.edits_null (t : Target) (clause : Clause) (link : Connective) (column : String)
    (operator : Option String) :
    edits t clause link ⟨column, operator, .null⟩ =
      [.nullComparison t clause link column (operator.getD "=")] := by
  cases operator with
  | none => rfl
  | some operator =>
    rw [edits, Operator.prepare_null, Edit.nullComparison, Option.getD_some]
    cases htest : Operator.nullTest? operator with
    | some negated =>
      obtain ⟨-, rfl⟩ := Operator.trim_of_nullTest? htest
      rfl
    | none => rfl

/-! ## Joins -/

/-- The builder in which a join collects its conditions. -/
def Builder.joinConditions (t : Target) (steps : List JoinStep) : Builder :=
  ofEdits t (steps.flatMap (JoinStep.edits t))

/-- A join with the conditions that a builder has collected. -/
def Builder.joinEdits (nested : Builder) (kind : JoinKind) (table : String) (values : List Value) :
    List Edit :=
  let part := nested.query.part .joins
  Edit.failure nested.error ++
    [if part.isEmpty then .join kind table "" values
      else .join kind table (" ON " ++ Connective.dropLeadingText (Fragment.join " " part.fragments))
        (values ++ part.bindings)]

theorem JoinCondition.edits_steps (t : Target) (kind : JoinKind) (table : String)
    (values : List Value) (list : List JoinStep) :
    (steps list).edits t kind table values =
      (Builder.joinConditions t list).joinEdits kind table values := rfl

/-- **A column compared with NULL in a join** is tested between the steps before and after. -/
theorem Builder.joinConditions_null (t : Target) (link : Connective) (column : String)
    (operator : Option String) (before after : List JoinStep) :
    joinConditions t (before ++ .compare link ⟨column, operator, .null⟩ :: after) =
      ((joinConditions t before).edit
        (.nullComparison t .joins link column (operator.getD "="))).edits
        (after.flatMap (JoinStep.edits t)) := by
  have hstep : JoinStep.edits t (.compare link ⟨column, operator, .null⟩) =
      [.nullComparison t .joins link column (operator.getD "=")] :=
    Comparison.edits_null t .joins link column operator
  rw [joinConditions, joinConditions, ofEdits, ofEdits, List.flatMap_append, List.flatMap_cons,
    hstep, edits_append, List.singleton_append, edits_cons]

/-! ## Values that are bound -/

/-- **A sub-query compared with NULL** is an error if the operator tests nothing, and else has the NULL
bound behind it. -/
theorem Builder.call_sourceCompare_null (b : Builder) (zone : Zone) (link : Connective)
    (source : Source) (operator : String) :
    b.call (.condition zone link (.sourceCompare source operator .null)) =
      match Operator.nullTest? operator with
      | some _ => b.edits (Edit.after (source.evaluate b.target).statement fun s =>
          [.condition zone.clause link ("(" ++ s.sql ++ ") " ++ Text.trim operator ++ " ?")
            (s.bindings ++ [.null])])
      | none => b.edit (.fail (Operator.nullError operator)) := by
  rw [call, Call.edits, Predicate.edits, Operator.prepare_null]
  cases Operator.nullTest? operator <;> rfl

/-- So does the value of a join. -/
theorem Builder.call_join_null (b : Builder) (kind : JoinKind) (table column operator : String) :
    b.call (.join kind table (.value column operator .null)) =
      match Operator.nullTest? operator with
      | some _ => b.edit (.join kind (b.target.dialect.quoteColumn table)
          (" WHERE " ++ b.target.dialect.quoteColumn column ++ " " ++ Text.trim operator ++ " ?") [.null])
      | none => b.edit (.fail (Operator.nullError operator)) := by
  rw [call, Call.edits, JoinCondition.edits, Operator.prepare_null]
  cases Operator.nullTest? operator <;> rfl

/-! ## Every comparison -/

/-- **NULL before an operator**, for any builder.  A column becomes one test without a value, or one
error: on its own, as a member of a batch, as a step of a join, where those before and those after it
do what they do without it.  The test is one fragment in the clause and no value, the error leaves the
query as it was, whatever builder they come to.  A sub-query and the value of a join are errors with the
same operators; with the others, `=` and its negations, the operator stays and the NULL is bound.  Over a
whole chain of calls nothing is bound but what the calls give, and a NULL that a column is compared with
is not among it. -/
theorem Builder.null_compared (b : Builder) (zone : Zone) (link : Connective) (column : String)
    (operator : Option String) :
    let t := b.target
    let op := operator.getD "="
    (b.call (.condition zone link (.compare ⟨column, operator, .null⟩)) =
        b.edit (.nullComparison t zone.clause link column op) ∧
      ∀ (b' : Builder) clause,
        NullTested t clause link column op b' (b'.edit (.nullComparison t clause link column op))) ∧
      (∀ before after,
        b.call (.compareMany zone link (before ++ ⟨column, operator, .null⟩ :: after)) =
          ((b.call (.compareMany zone link before)).edit
            (.nullComparison t zone.clause link column op)).call (.compareMany zone link after)) ∧
      (∀ kind table values before after,
        JoinCondition.edits t kind table values
            (.steps (before ++ .compare link ⟨column, operator, .null⟩ :: after)) =
          (((joinConditions t before).edit (.nullComparison t .joins link column op)).edits
            (after.flatMap (JoinStep.edits t))).joinEdits kind table values) ∧
      (∀ source,
        b.call (.condition zone link (.sourceCompare source op .null)) =
          match Operator.nullTest? op with
          | some _ => b.edits (Edit.after (source.evaluate t).statement fun s =>
              [.condition zone.clause link ("(" ++ s.sql ++ ") " ++ Text.trim op ++ " ?")
                (s.bindings ++ [.null])])
          | none => b.edit (.fail (Operator.nullError op))) ∧
      (∀ kind table,
        b.call (.join kind table (.value column op .null)) =
          match Operator.nullTest? op with
          | some _ => b.edit (.join kind (t.dialect.quoteColumn table)
              (" WHERE " ++ t.dialect.quoteColumn column ++ " " ++ Text.trim op ++ " ?") [.null])
          | none => b.edit (.fail (Operator.nullError op))) ∧
      (match Operator.nullTest? op with
        | some _ =>
          (∀ source s, (source.evaluate t).statement = .ok s →
            b.Gains (b.call (.condition zone link (.sourceCompare source op .null))) zone.clause
              (.text (link.keyword ++ " " ++ ("(" ++ s.sql ++ ") " ++ Text.trim op ++ " ?")))
              (s.bindings ++ [.null])) ∧
          ∀ kind table,
            b.Gains (b.call (.join kind table (.value column op .null))) .joins
              (.text (kind.keyword ++ " " ++ t.dialect.quoteColumn table ++
                (" WHERE " ++ t.dialect.quoteColumn column ++ " " ++ Text.trim op ++ " ?"))) [.null]
        | none =>
          (∀ source, b.call (.condition zone link (.sourceCompare source op .null)) =
            { b with error := b.error.or (some (Operator.nullError op)) }) ∧
          ∀ kind table, b.call (.join kind table (.value column op .null)) =
            { b with error := b.error.or (some (Operator.nullError op)) }) ∧
      ∀ calls, ((new t).calls calls).query.bindings ⊆ callsGiven calls := by
  intro t op
  have hnull : Comparison.edits t zone.clause link ⟨column, operator, .null⟩ =
      [.nullComparison t zone.clause link column op] :=
    Comparison.edits_null t zone.clause link column operator
  refine ⟨⟨?_, fun b' clause => nullTested_edit t clause link column op b'⟩,
    fun before after => ?_, fun kind table values before after => ?_, fun source => ?_,
    fun kind table => ?_, ?_, bindings_subset_given t⟩
  · rw [call, Call.edits, Predicate.edits, hnull, edits_cons, edits_nil]
  · -- no call moves the builder, so the edits before, the test and the edits after share one target
    have hbatch (b' : Builder) (ht : b'.target = t) (cs : List Comparison) :
        b'.call (.compareMany zone link cs) =
          b'.edits (cs.flatMap (Comparison.edits t zone.clause link)) := by
      rw [call, ht, Call.edits, Comparison.batch_eq]
    rw [hbatch b rfl, hbatch _ ((target_edit _ _).trans (target_call b _)), hbatch b rfl,
      List.flatMap_append, List.flatMap_cons, hnull, edits_append, List.singleton_append, edits_cons]
  · rw [JoinCondition.edits_steps, joinConditions_null]
  · rw [call_sourceCompare_null]
  · rw [call_join_null]
  · simp only [call_sourceCompare_null, call_join_null]
    cases Operator.nullTest? op with
    | some negated =>
      refine ⟨fun source s hs => ?_, fun kind table => b.gains_edit .joins _ _⟩
      rw [hs]
      exact b.gains_edit zone.clause _ _
    | none => exact ⟨fun _ => rfl, fun _ _ => rfl⟩

/-- A batch with all three outcomes: a test, its contrary, and an error that leaves both in place. -/
theorem Builder.null_compared_batch :
    let b := (new ⟨.mysql, none⟩).calls [.table "t", .whereEq "x" (.int 1)]
    let first : List Comparison := [⟨"a", none, .null⟩]
    let last : List Comparison := [⟨"u.c", some "<", .null⟩]
    let batch := b.call (.compareMany .havings .or (first ++ ⟨"b", some " <> ", .null⟩ :: last))
    batch = ((b.edit (.entry .havings "OR `a` IS NULL" [])).edit
        (.entry .havings "OR `b` IS NOT NULL" [])).edit (.fail (.illegalOperatorAndValue "<")) ∧
      batch.query.part .havings = ⟨[.text "OR `a` IS NULL", .text "OR `b` IS NOT NULL"], []⟩ ∧
      batch.error = some (.illegalOperatorAndValue "<") ∧
      (⟨batch.query.select, batch.query.bindings⟩ : Statement) =
        ⟨"SELECT * FROM `t` WHERE `x` = ? HAVING `a` IS NULL OR `b` IS NOT NULL", [.int 1]⟩ := by
  intro b first last batch
  have hbatch := (b.null_compared .havings .or "b" (some " <> ")).2.1 first last
  have hedits : ((b.call (.compareMany .havings .or first)).edit (.nullComparison b.target
        Zone.havings.clause .or "b" " <> ")).call (.compareMany .havings .or last) =
      ((b.edit (.entry .havings "OR `a` IS NULL" [])).edit
        (.entry .havings "OR `b` IS NOT NULL" [])).edit (.fail (.illegalOperatorAndValue "<")) := by
    decide +kernel
  have hwritten : batch = _ := hbatch.trans hedits
  refine ⟨hwritten, ?_⟩
  rw [hwritten]
  decide +kernel

/-- **NULL is bound behind an operator** by a comparison of a sub-query and by the value of a join:
both are equations that hold for no row. -/
theorem Builder.null_bound :
    let t : Target := ⟨.mysql, none⟩
    let source : Source := .closure [.table "u", .select ["x"]]
    let compared := (new t).calls
      [.table "t", .condition .wheres .and (.sourceCompare source "=" .null)]
    let joined := (new t).calls [.table "t", .join .inner "u" (.value "u.x" "=" .null)]
    (compared.error = none ∧
      (⟨compared.query.select, compared.query.bindings⟩ : Statement) =
        ⟨"SELECT * FROM `t` WHERE (SELECT `x` FROM `u`) = ?", [.null]⟩) ∧
    joined.error = none ∧
      (⟨joined.query.select, joined.query.bindings⟩ : Statement) =
        ⟨"SELECT * FROM `t` INNER JOIN `u` WHERE `u`.`x` = ?", [.null]⟩ := by
  decide +kernel

end FluentSql
