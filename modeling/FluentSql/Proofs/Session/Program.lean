import FluentSql.Proofs.Session.Play
import FluentSql.Session.Action

/-!
# Proofs/Session/Program — whatever a caller does with a database

A `Program` is a caller that picks each call by the outcomes so far; the body of a transaction is a
program again, and may go on after a failure or fail for reasons of its own.  Its `session` is what
it does, its `passages` are the calls it makes on the way, those that open and end a transaction
included.  The passages lead from the first state to the last without a gap (`Program.leads`), so
what one call preserves holds throughout.
-/

namespace FluentSql

variable {σ α β : Type}

/-- **A caller of a database**, which answers or fails in the end. -/
inductive Program (σ : Type) : Type → Type 1
  | done {α : Type} (outcome : Except QueryError α) : Program σ α
  | call {α : Type} (operation : Operation σ) (next : Except QueryError Reply → Program σ α) :
    Program σ α
  | transaction {α β : Type} (body : Program σ β) (next : Except QueryError β → Program σ α) :
    Program σ α

/-- **What a program does.** -/
def Program.session (db : Database σ) : {α : Type} → Program σ α → Session σ α
  | _, .done outcome => Session.ofFun fun s => (outcome, s)
  | _, .call operation next => do
    (next (← Session.observe (operation.session db))).session db
  | _, .transaction body next => do
    (next (← Session.observe (db.transaction (body.session db)))).session db

/-! ## The calls on the way -/

/-- **One call of a run**, with the states around it. -/
structure Passage (σ : Type) where
  before : SessionState σ
  operation : Operation σ
  outcome : Except QueryError Reply
  after : SessionState σ

/-- The call of an operation in a state. -/
def Database.pass (db : Database σ) (operation : Operation σ) (s : SessionState σ) : Passage σ :=
  { before := s, operation
    outcome := ((operation.session db).play s).1
    after := ((operation.session db).play s).2 }

/-- The call that ends a transaction with an outcome. -/
def closing : Except QueryError α → Operation σ
  | .ok _ => .commit
  | .error _ => .rollback

/-- The outcome of a transaction whose body had an outcome: that one, unless the end fails. -/
def Passage.settled (closed : Passage σ) (outcome : Except QueryError α) : Except QueryError α :=
  match closed.outcome with
  | .ok _ => outcome
  | .error e => .error e

/-- **The calls of a run, in order.** -/
def Program.passages (db : Database σ) :
    {α : Type} → Program σ α → SessionState σ → List (Passage σ)
  | _, .done _, _ => []
  | _, .call operation next, s =>
    let x := db.pass operation s
    x :: (next x.outcome).passages db x.after
  | _, .transaction body next, s =>
    let opened := db.pass .openTransaction s
    match opened.outcome with
    | .error e => opened :: (next (.error e)).passages db opened.after
    | .ok _ =>
      let inner := (body.session db).play opened.after
      let closed := db.pass (closing inner.1) inner.2
      opened :: (body.passages db opened.after ++
        closed :: (next (closed.settled inner.1)).passages db closed.after)

/-- **Calls lead from one state to another**: each starts where the one before it ended. -/
inductive Leads (db : Database σ) : SessionState σ → List (Passage σ) → SessionState σ → Prop
  | nil (s : SessionState σ) : Leads db s [] s
  | cons (operation : Operation σ) {s last : SessionState σ} {xs : List (Passage σ)}
    (rest : Leads db (db.pass operation s).after xs last) :
    Leads db s (db.pass operation s :: xs) last

namespace Leads

variable {db : Database σ} {s mid last : SessionState σ} {xs ys : List (Passage σ)}

theorem append (h : Leads db s xs mid) (h' : Leads db mid ys last) :
    Leads db s (xs ++ ys) last := by
  induction h with
  | nil s => exact h'
  | cons operation rest ih => exact .cons operation (ih h')

/-- Calls can be told apart anywhere. -/
theorem split (h : Leads db s (xs ++ ys) last) :
    ∃ mid, Leads db s xs mid ∧ Leads db mid ys last := by
  induction xs generalizing s with
  | nil => exact ⟨s, .nil s, h⟩
  | cons x xs ih =>
    cases h with
    | cons operation rest =>
      obtain ⟨mid, hxs, hys⟩ := ih rest
      exact ⟨mid, .cons operation hxs, hys⟩

/-- **What every call preserves holds after every call**, and in the end. -/
theorem invariant {I : SessionState σ → Prop} (h : Leads db s xs last) (hs : I s)
    (hstep : ∀ x ∈ xs, x = db.pass x.operation x.before → I x.before → I x.after) :
    (∀ x ∈ xs, x = db.pass x.operation x.before ∧ I x.before ∧ I x.after) ∧ I last := by
  induction h with
  | nil s => exact ⟨fun x hx => absurd hx List.not_mem_nil, hs⟩
  | @cons operation s last xs rest ih =>
    have hfirst : I (db.pass operation s).after :=
      hstep _ List.mem_cons_self rfl hs
    obtain ⟨hrest, hlast⟩ := ih hfirst fun x hx => hstep x (List.mem_cons_of_mem _ hx)
    refine ⟨fun x hx => ?_, hlast⟩
    rcases List.mem_cons.mp hx with rfl | hx
    · exact ⟨rfl, hs, hfirst⟩
    · exact hrest x hx

end Leads

/-! ## A run is its calls -/

/-- **A transaction ends by the call its outcome asks for.** -/
theorem Database.play_settle (db : Database σ) (outcome : Except QueryError α)
    (s : SessionState σ) :
    (db.settle outcome).play s =
      ((db.pass (closing outcome) s).settled outcome, (db.pass (closing outcome) s).after) := by
  cases outcome with
  | ok a =>
    rw [settle, Session.play_bind, Passage.settled]
    simp only [pass, closing, Operation.session, Session.play_map]
    rcases db.commit.play s with ⟨_ | _, after⟩ <;> rfl
  | error e =>
    rw [settle, Session.play_bind, Passage.settled]
    simp only [pass, closing, Operation.session, Session.play_map]
    rcases db.rollback.play s with ⟨_ | _, after⟩ <;> rfl

/-- **A transaction opens, runs its body and ends.** -/
theorem Database.play_transaction (db : Database σ) (body : Session σ α) (s : SessionState σ) :
    (db.transaction body).play s =
      let opened := db.pass .openTransaction s
      match opened.outcome with
      | .error e => (.error e, opened.after)
      | .ok _ =>
        let inner := body.play opened.after
        let closed := db.pass (closing inner.1) inner.2
        (closed.settled inner.1, closed.after) := by
  rw [transaction, Session.play_bind]
  simp only [pass, Operation.session, Session.play_map]
  rcases db.openTransaction.play s with ⟨e | u, after⟩
  · rfl
  · exact (Session.play_bind ..).trans (db.play_settle ..)

namespace Program

variable (db : Database σ)

theorem play_call (operation : Operation σ) (next : Except QueryError Reply → Program σ α)
    (s : SessionState σ) :
    ((call operation next).session db).play s =
      ((next (db.pass operation s).outcome).session db).play (db.pass operation s).after := by
  rw [session, Session.play_bind]
  rfl

theorem play_transaction (body : Program σ β) (next : Except QueryError β → Program σ α)
    (s : SessionState σ) :
    ((transaction body next).session db).play s =
      ((next ((db.transaction (body.session db)).play s).1).session db).play
        ((db.transaction (body.session db)).play s).2 := by
  rw [session, Session.play_bind]
  rfl

/-- **The calls of a run lead from its first state to its last.** -/
theorem leads (p : Program σ α) (s : SessionState σ) :
    Leads db s (p.passages db s) ((p.session db).play s).2 := by
  induction p generalizing s with
  | done outcome => exact .nil s
  | call operation next ih =>
    rw [passages, play_call]
    exact .cons operation (ih _ _)
  | transaction body next ihbody ihnext =>
    rw [passages, play_transaction, db.play_transaction]
    cases hopened : (db.pass .openTransaction s).outcome with
    | error e =>
      simp only [hopened]
      exact .cons .openTransaction (ihnext _ _)
    | ok r =>
      simp only [hopened]
      refine .cons .openTransaction ((ihbody _).append ?_)
      exact .cons _ (ihnext _ _)

end Program

end FluentSql
