import FluentSql.Proofs.Transaction.Depth

/-!
# Proofs/Transaction/Closing — when a transaction leaves its level open

A transaction around a body that keeps the level puts the level back, with one exception: its
opening succeeded and the call that should end it fails.  Then the level stays one higher
(`Database.level_transaction`), and the transactions after it are savepoints inside one that nobody
ends (`Database.transaction_leaks`).
-/

namespace FluentSql

variable {σ α : Type}

namespace Database

variable (db : Database σ)

theorem Turned.level {t : Turn} {s after : SessionState σ} {r : Except QueryError Unit}
    (h : db.Turned t s r after) :
    after.level = if r.isOk then t.levelAfter s.level else s.level := by
  cases h <;> rfl

/-- **The level after a turn** follows its outcome. -/
theorem level_turn (operation : Operation σ) {t : Turn} (h : operation.turn? = some t)
    (s : SessionState σ) :
    (db.pass operation s).after.level =
      if (db.pass operation s).outcome.isOk then t.levelAfter s.level else s.level := by
  obtain ⟨r, hr, hturned⟩ := db.pass_turned h s
  rw [hr, hturned.level]
  cases r <;> rfl

/-- The level after the end of a transaction, by commit or by rollback. -/
theorem level_closing (outcome : Except QueryError α) (s : SessionState σ) :
    (db.pass (closing outcome) s).after.level =
      if (db.pass (closing outcome) s).outcome.isOk then s.level - 1 else s.level := by
  cases outcome with
  | ok a => exact db.level_turn .commit rfl s
  | error e => exact db.level_turn .rollback rfl s

/-- **A transaction puts the level back unless it was opened and its end fails**, whatever its body
answers and does, as long as the body puts back the level it finds. -/
theorem level_transaction (body : Session σ α) (s : SessionState σ)
    (hbody : (body.play (db.pass .openTransaction s).after).2.level =
      (db.pass .openTransaction s).after.level) :
    let opened := db.pass .openTransaction s
    let inner := body.play opened.after
    let closed := db.pass (closing inner.1) inner.2
    ((db.transaction body).play s).2.level =
      if opened.outcome.isOk ∧ ¬ closed.outcome.isOk then s.level + 1 else s.level := by
  intro opened inner closed
  have hopened : opened.after.level = if opened.outcome.isOk then s.level + 1 else s.level :=
    db.level_turn .openTransaction rfl s
  have hinner : inner.2.level = opened.after.level := hbody
  have hclosed : closed.after.level =
      if closed.outcome.isOk then inner.2.level - 1 else inner.2.level := db.level_closing _ _
  have hplay : ((db.transaction body).play s).2.level =
      if opened.outcome.isOk then closed.after.level else opened.after.level := by
    rw [db.play_transaction]
    cases ho : (db.pass .openTransaction s).outcome with
    | error e => simp only [opened, ho]; rfl
    | ok r => simp only [opened, ho]; rfl
  rw [hplay, hclosed, hinner, hopened]
  by_cases ho : opened.outcome.isOk = true
  · by_cases hc : closed.outcome.isOk = true
    · simp [ho, hc]
    · simp [ho, hc]
  · simp [ho]

/-- A body that fails between a savepoint and a rollback that fails as well: the level stays at
two. -/
theorem level_transaction_failing_rollback :
    let db : Database Script := ⟨Script.connection none, .mysql⟩
    let body : Session Script Unit := throw (.notFound "no such user")
    let s : SessionState Script :=
      { link := { outcomes := [.ok {}, .error "connection lost"], inTransaction := true }
        level := 1 }
    (body.play (db.pass .openTransaction s).after).2.level =
        (db.pass .openTransaction s).after.level ∧
      ((db.transaction body).play s).2.level = 2 :=
  ⟨rfl, (level_transaction ⟨Script.connection none, .mysql⟩ _ _ rfl).trans (by decide +kernel)⟩

/-- **A commit that fails leaves the level open**, though the body keeps it.  The next transaction
succeeds, but opens and ends a savepoint: it is not committed, and the first one is still open. -/
theorem transaction_leaks :
    let db : Database Script := ⟨Script.connection none, .mysql⟩
    let s : SessionState Script := { link := { failures := [(.commit, "disk full")] } }
    let first := (db.transaction (db.command "UPDATE t SET a = 1")).play s
    let second := (db.transaction (db.command "UPDATE t SET a = 2")).play first.2
    (db.command "UPDATE t SET a = 1").Steady ∧ s.level = 0 ∧ first.2.level = 1 ∧
      second.1.isOk = true ∧ second.2.level = 1 ∧
      second.2.link.executed.map (·.statement.sql) =
        ["UPDATE t SET a = 1", "SAVEPOINT trans2", "UPDATE t SET a = 2"] ∧
      second.2.link.events = [.opened] ∧ second.2.link.inTransaction = true :=
  ⟨((steady_run _ _ _).bind fun _ => Session.Steady.pure _).discard, rfl, by decide +kernel⟩

end Database

end FluentSql
