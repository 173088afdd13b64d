import FluentSql.Dialect.Template
import FluentSql.Proofs.Condition.Tree

/-!
# Proofs/Clauses — a SELECT as its clauses one behind the other

    SELECT columns │ FROM … │ JOIN … │ … │ LIMIT … │ OFFSET … │ lock │ unions

The text of a clause depends on the clause alone (`Query.clause?_congr`), and there is none exactly if
the clause has no entry (`Query.clause?_eq_none_iff`).  A statement is joined from the clauses that
have one.  Read the other way, each clause brings its own space or nothing at all
(`Query.select_eq`), so a statement can be cut in front of any clause and behind it.
-/

namespace FluentSql.Query

/-! ## One clause -/

/-- The text of a clause depends on the clause alone. -/
theorem clause?_congr {q q' : Query} {c : Clause} (h : q.part c = q'.part c) :
    q.clause? c = q'.clause? c := by
  cases c <;> simp only [clause?, conditions?, list?, fragments?, h]

/-- A clause is left out when it has no entry. -/
theorem clause?_eq_none_iff {q : Query} {c : Clause} :
    q.clause? c = none ↔ (q.part c).fragments = [] := by
  have hnone : q.fragments? c = none ↔ (q.part c).fragments = [] := by
    unfold fragments?
    split
    · next heq => exact ⟨fun _ => heq, fun _ => rfl⟩
    · next heq => exact ⟨nofun, fun h => by rw [heq] at h; cases h⟩
  cases c with
  | offset => simp [clause?]
  | columns | froms | joins | wheres | groups | havings | orders | limits | unions =>
    rw [← hnone]
    simp [clause?, conditions?, list?]

/-! ## Clauses behind one another -/

/-- **Clauses one behind the other**, each behind a space; an empty one is nothing. -/
def trail (q : Query) (clauses : List Clause) : String :=
  String.join (clauses.map fun c => spaced (q.clause? c))

@[simp] theorem trail_nil (q : Query) : q.trail [] = "" := rfl

@[simp] theorem trail_cons (q : Query) (c : Clause) (clauses : List Clause) :
    q.trail (c :: clauses) = spaced (q.clause? c) ++ q.trail clauses := String.join_cons

theorem trail_append (q : Query) (clauses more : List Clause) :
    q.trail (clauses ++ more) = q.trail clauses ++ q.trail more := by
  rw [trail, List.map_append, String.join_append, trail, trail]

/-- The clauses that hold something, behind a space each. -/
theorem join_clauses (q : Query) (clauses : List Clause) :
    String.join ((clauses.filterMap q.clause?).map (" " ++ ·)) = q.trail clauses := by
  induction clauses with
  | nil => rfl
  | cons c clauses ih =>
    rw [trail_cons, ← ih, List.filterMap_cons]
    cases q.clause? c with
    | none => exact String.empty_append.symm
    | some sql => exact String.join_cons

/-- **A SELECT cut at its clauses.** -/
theorem select_eq (q : Query) :
    q.select = "SELECT " ++ (q.clause? .columns).getD "*" ++ q.trail middle ++ spaced q.lock ++
      spaced (q.clause? .unions) := by
  have hlock : String.join (q.lock.toList.map (" " ++ ·)) = spaced q.lock := by
    cases q.lock with
    | none => rfl
    | some sql => exact String.join_cons.trans String.append_empty
  have hbody : Text.joinWith " " q.body =
      (q.clause? .columns).getD "*" ++ (q.trail middle ++ spaced q.lock) := by
    rw [body, joinWith_cons, List.map_append, String.join_append, join_clauses, hlock]
  have hselect : q.select = "SELECT " ++ Text.joinWith " " q.body ++ spaced (q.clause? .unions) := by
    rw [select]
    cases q.clause? .unions with
    | none => exact String.append_empty.symm
    | some unions => exact String.append_assoc ..
  rw [hselect, hbody]
  simp only [String.append_assoc]

end FluentSql.Query
