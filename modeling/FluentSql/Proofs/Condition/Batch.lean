import FluentSql.Proofs.Condition.Null

/-!
# Proofs/Condition/Batch — a batch of comparisons is its members, one call each

The operator of a member of a batch is settled before the member is added, and once more when it is
added.  What is settled stays settled (`Operator.prepare_of_prepare`), and a member whose operator
cannot be settled leaves the error that it leaves on its own, so that a batch is a chain of single calls
(`Builder.call_compareMany`).  Single calls agree among themselves: without an operator they compare by
equality, and before NULL they test.
-/

namespace FluentSql

/-- **The call of one comparison.** -/
def Comparison.call (zone : Zone) (link : Connective) (c : Comparison) : Call :=
  .condition zone link (.compare c)

namespace Comparison

variable (t : Target) (zone : Zone) (link : Connective)

@[simp] theorem edits_call (c : Comparison) :
    (c.call zone link).edits t = c.edits t zone.clause link := by
  rw [call, Call.edits, Predicate.edits]

/-- **No operator is equality.** -/
theorem edits_equality (clause : Clause) (column : String) (value : Value) :
    edits t clause link ⟨column, none, value⟩ = edits t clause link ⟨column, some "=", value⟩ := by
  have hdefault : Operator.prepare none value = .ok "=" := rfl
  rw [edits, edits, hdefault, Operator.prepare_of_prepare hdefault]

/-- **An operator that tests for NULL** adds the test before NULL. -/
theorem edits_of_nullTest? {operator : Option String} {negated : Bool}
    (h : Operator.nullTest? (operator.getD "=") = some negated) (clause : Clause) (column : String) :
    edits t clause link ⟨column, operator, .null⟩ =
      [.nullCondition t clause link negated column] := by
  rw [edits_null, Edit.nullComparison, h]
  rfl

end Comparison

namespace Builder

variable (b : Builder) (zone : Zone) (link : Connective)

/-- The first member of a batch is a call before the others. -/
theorem call_compareMany_cons (c : Comparison) (cs : List Comparison) :
    b.call (.compareMany zone link (c :: cs)) =
      (b.call (c.call zone link)).call (.compareMany zone link cs) := by
  simp only [call, Comparison.edits_call, Call.edits, Comparison.batch_eq, target_edits,
    List.flatMap_cons, edits_append]

/-- **A batch is its members, one call each.** -/
theorem call_compareMany (cs : List Comparison) :
    b.call (.compareMany zone link cs) = b.calls (cs.map (Comparison.call zone link)) := by
  induction cs generalizing b with
  | nil => rfl
  | cons c cs ih =>
    rw [call_compareMany_cons, ih]
    rfl

/-- A comparison with NULL whose operator tests is the call of the test. -/
theorem call_of_nullTest? (column : String) (operator : Option String) {negated : Bool}
    (h : Operator.nullTest? (operator.getD "=") = some negated) :
    b.call (Comparison.call zone link ⟨column, operator, .null⟩) =
      b.call (.condition zone link (.null negated column)) := by
  rw [call, Comparison.edits_call, Comparison.edits_of_nullTest? _ _ h, call, Call.edits,
    Predicate.edits]

/-- **A batch does what its members do one call after the other**, whatever the builder holds already:
the same entries and values in every clause and the same recorded error, whatever operators and values
the members have and wherever one of them fails.  One member without an operator is one compared by
equality; before NULL that is the test for NULL, and either negation of equality is the test for the
contrary. -/
theorem batch_as_single_calls :
    (∀ cs, b.call (.compareMany zone link cs) = b.calls (cs.map (Comparison.call zone link))) ∧
      ∀ column,
        (∀ value,
          b.call (Comparison.call zone link ⟨column, none, value⟩) =
            b.call (Comparison.call zone link ⟨column, some "=", value⟩)) ∧
        b.call (Comparison.call zone link ⟨column, none, .null⟩) =
            b.call (.condition zone link (.null false column)) ∧
        b.call (Comparison.call zone link ⟨column, some "<>", .null⟩) =
            b.call (.condition zone link (.null true column)) ∧
        b.call (Comparison.call zone link ⟨column, some "!=", .null⟩) =
            b.call (.condition zone link (.null true column)) := by
  refine ⟨b.call_compareMany zone link, fun column => ⟨fun value => ?_, ?_, ?_, ?_⟩⟩
  · rw [call, call, Comparison.edits_call, Comparison.edits_call, Comparison.edits_equality]
  · exact b.call_of_nullTest? zone link column none (by decide)
  · exact b.call_of_nullTest? zone link column (some "<>") (by decide)
  · exact b.call_of_nullTest? zone link column (some "!=") (by decide)

example :
    let b := (new ⟨.mysql, none⟩).call (.compareMany .wheres .or
      [⟨"a", none, .null⟩, ⟨"b", some "===", .int 1⟩, ⟨"c", some " LIKE ", .text "x%"⟩])
    b.error = some (.invalidOperator "===") ∧
      b.sql = "SELECT * WHERE `a` IS NULL OR `c` LIKE ?" := by decide +kernel

end Builder

end FluentSql
