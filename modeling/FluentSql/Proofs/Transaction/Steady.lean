import FluentSql.Proofs.Session.Routine
import FluentSql.Proofs.Transaction.Turn

/-!
# Proofs/Transaction/Steady — what leaves the number of open transactions alone

A session is `Steady` when the level after it is the level before it, whatever becomes of the
connection.  Statements and requests for keys are steady, and steady sessions put together are, so
every read and every write is.
-/

namespace FluentSql

variable {σ α β : Type}

/-- **The level after a session is the level before it.** -/
def Session.Steady (x : Session σ α) : Prop := ∀ s, (x.play s).2.level = s.level

namespace Session.Steady

theorem pure (a : α) : Steady (Pure.pure a : Session σ α) := fun _ => rfl

theorem ask (operation : Operates σ α) : Steady (ask operation) := fun _ => rfl

theorem change {f : SessionState σ → SessionState σ} (hf : ∀ s, (f s).level = s.level) :
    Steady (change f) := hf

/-- **Steady sessions one after the other are steady.** -/
theorem bind {x : Session σ α} {f : α → Session σ β} (hx : x.Steady) (hf : ∀ a, (f a).Steady) :
    (x >>= f).Steady := by
  intro s
  rw [play_bind]
  have hfirst := hx s
  revert hfirst
  rcases x.play s with ⟨_ | a, after⟩
  · exact id
  · exact (hf a after).trans

theorem map {x : Session σ α} (f : α → β) (hx : x.Steady) : (f <$> x).Steady := fun s => by
  rw [play_map]
  exact hx s

theorem discard {x : Session σ α} (hx : x.Steady) : (Functor.discard x).Steady := hx.map _

end Session.Steady

namespace Database

variable (db : Database σ)

open Session

theorem steady_exec (st : Statement) (debug : Bool) : (db.exec st debug).Steady :=
  (Steady.ask _).bind fun _ => Steady.ask _

theorem steady_run (st : Statement) (debug : Bool) : (db.run st debug).Steady :=
  (db.steady_exec st debug).bind fun result =>
    (Steady.change fun _ => rfl).bind fun _ => Steady.pure result

end Database

/-- **Sessions made of statements are steady.** -/
theorem Routine.steady {db : Database σ} {x : Session σ α} (h : Routine db x) : x.Steady := by
  induction h with
  | done r => exact fun _ => rfl
  | run st debug => exact db.steady_run st debug
  | key sequence => exact .ask _
  | bind _ _ ihx ihf => exact ihx.bind ihf

/-- **Only the calls that open and end transactions move the level.** -/
theorem Operation.steady (db : Database σ) {operation : Operation σ}
    (h : operation.turn? = none) : (operation.session db).Steady := by
  cases operation with
  | exec st => exact (db.steady_exec st false).map _
  | openTransaction | commit | rollback => cases h
  | setLogging on | flushLog | arrange f =>
    exact (Session.Steady.change fun _ => rfl).bind fun _ => Session.Steady.pure Reply.done
  | _ => exact (Operation.routine db rfl).steady

end FluentSql
