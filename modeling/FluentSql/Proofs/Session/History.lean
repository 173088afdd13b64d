import FluentSql.Connection.Script
import FluentSql.Proofs.Session.Program
import FluentSql.Proofs.Session.Routine
import Mathlib.Data.List.DropRight

/-!
# Proofs/Session/History — the log is the history of what completed

A connection is watched by listing each statement that reaches its execution, with whether it
completed; what it answers is not changed by that (`Connection.watched`).  During one operation the
log grows by the statements that completed, if logging is on, and by nothing else
(`Session.Logs`).  So at every point of a run the log lists what completed since the last flush while
logging was on (`Program.log_tells`).
-/

namespace FluentSql

variable {σ α β : Type}

/-! ## Watched connections -/

/-- **A statement that was executed**, and whether it completed. -/
structure Execution where
  statement : Statement
  completed : Bool
  deriving DecidableEq, Repr

/-- The state of a connection with the executions it has seen. -/
structure Watched (σ : Type) where
  link : σ
  executions : List Execution := []

/-- An operation of a watched connection that executes nothing. -/
def Operates.watched (run : Operates σ α) : Operates (Watched σ) α := fun w =>
  ((run w.link).1, { w with link := (run w.link).2 })

/-- **A connection whose executions are listed.** -/
def Connection.watched (c : Connection σ) : Connection (Watched σ) where
  database := c.database
  prepare sql := Operates.watched (c.prepare sql)
  execute r w :=
    ((c.execute r w.link).1,
      { link := (c.execute r w.link).2
        executions := w.executions ++ [⟨r.statement, (c.execute r w.link).1.isOk⟩] })
  openTransaction := Operates.watched c.openTransaction
  commit := Operates.watched c.commit
  rollback := Operates.watched c.rollback
  inTransaction w := c.inTransaction w.link
  lastInsertId sequence := Operates.watched (c.lastInsertId sequence)
  elapsed w := c.elapsed w.link

/-- A database behind a watched connection. -/
def Database.watched (db : Database σ) : Database (Watched σ) := ⟨db.connection.watched, db.dialect⟩

/-- **The statements that completed**, in the order they were executed. -/
def completed (es : List Execution) : List Statement :=
  (es.filter (·.completed)).map (·.statement)

@[simp] theorem completed_append (es fs : List Execution) :
    completed (es ++ fs) = completed es ++ completed fs := by
  rw [completed, List.filter_append, List.map_append, completed, completed]

/-! ## Logs as statements -/

namespace QueryLog

/-- The statements of a log. -/
def statements (log : QueryLog) : List Statement := log.entries.map fun e => ⟨e.query, e.bindings⟩

theorem statements_record (log : QueryLog) (e : LogEntry) :
    (log.record e).statements =
      log.statements ++ if log.enabled then [⟨e.query, e.bindings⟩] else [] := by
  rw [record]
  split
  · exact List.map_append
  · exact (List.append_nil _).symm

@[simp] theorem enabled_record (log : QueryLog) (e : LogEntry) :
    (log.record e).enabled = log.enabled := by
  rw [record]
  split <;> rfl

end QueryLog

/-- **A statement with its values in place.** -/
def Statement.parsed (s : Statement) : String :=
  String.ofList (substitute s.sql.toList s.bindings)

/-! ## One session -/

/-- **A session logs what completes in it**, if logging is on, and leaves the rest of the log as it
is. -/
def Session.Logs (x : Session (Watched σ) α) : Prop :=
  ∀ s, ∃ ran, (x.play s).2.link.executions = s.link.executions ++ ran ∧
    (x.play s).2.log.enabled = s.log.enabled ∧
    (x.play s).2.log.statements =
      s.log.statements ++ if s.log.enabled then completed ran else []

namespace Session.Logs

/-- A session that executes nothing and keeps away from the log. -/
theorem quiet {x : Session (Watched σ) α}
    (hrun : ∀ s, (x.play s).2.link.executions = s.link.executions)
    (hlog : ∀ s, (x.play s).2.log = s.log) : x.Logs := fun s =>
  ⟨[], by rw [hrun, List.append_nil], by rw [hlog], by
    rw [hlog]
    split <;> exact (List.append_nil _).symm⟩

theorem pure (a : α) : Logs (Pure.pure a : Session (Watched σ) α) :=
  quiet (fun _ => rfl) fun _ => rfl

theorem throw (e : QueryError) : Logs (MonadExcept.throw e : Session (Watched σ) α) :=
  quiet (fun _ => rfl) fun _ => rfl

theorem ask (operation : Operates σ α) : Logs (ask (Operates.watched operation)) :=
  quiet (fun _ => rfl) fun _ => rfl

/-- **Sessions that log, one after the other, log.** -/
theorem bind {x : Session (Watched σ) α} {f : α → Session (Watched σ) β} (hx : x.Logs)
    (hf : ∀ a, (f a).Logs) : (x >>= f).Logs := by
  intro s
  rw [play_bind]
  have hfirst := hx s
  revert hfirst
  rcases x.play s with ⟨_ | a, after⟩
  · exact id
  · rintro ⟨ran, hran, henabled, hstatements⟩
    obtain ⟨ran', hran', henabled', hstatements'⟩ := hf a after
    refine ⟨ran ++ ran', ?_, henabled'.trans henabled, ?_⟩
    · rw [hran', hran, List.append_assoc]
    · rw [hstatements', hstatements, henabled, completed_append]
      split
      · exact List.append_assoc ..
      · rw [List.append_nil]

theorem map {x : Session (Watched σ) α} (f : α → β) (hx : x.Logs) : (f <$> x).Logs := fun s => by
  rw [play_map]
  exact hx s

/-- **A statement that is run is logged when it completes**: a failure to prepare it is no execution,
and one that fails is none that completed. -/
theorem run (db : Database σ) (st : Statement) (debug : Bool) : (db.watched.run st debug).Logs := by
  intro s
  rw [Database.play_run]
  simp only [Connection.perform, Database.watched, Connection.watched, Operates.watched]
  rcases db.connection.prepare st.sql s.link.link with ⟨_ | _, link⟩
  · exact ⟨[], (List.append_nil _).symm, rfl, by simp [completed]⟩
  · rcases hexecute : db.connection.execute ⟨st, debug⟩ link with ⟨_ | _, after⟩
    · refine ⟨[⟨st, false⟩], ?_, ?_, ?_⟩ <;> simp [hexecute, completed, Except.isOk, Except.toBool]
    · refine ⟨[⟨st, true⟩], ?_, ?_, ?_⟩ <;>
        simp [hexecute, completed, Except.isOk, Except.toBool, QueryLog.statements_record]

end Session.Logs

/-- **Reads and writes log what completes in them.** -/
theorem Routine.logs {db : Database σ} {x : Session (Watched σ) α} (h : Routine db.watched x) :
    x.Logs := by
  induction h with
  | done r => exact .quiet (fun _ => rfl) fun _ => rfl
  | run st debug => exact .run db st debug
  | key sequence => exact .ask _
  | bind _ _ ihx ihf => exact ihx.bind ihf

namespace Database

variable (db : Database σ)

open Session

theorem logs_level : (level : Session (Watched σ) Nat).Logs := .quiet (fun _ => rfl) fun _ => rfl

theorem logs_setLevel (n : Nat) : (setLevel n : Session (Watched σ) Unit).Logs :=
  .quiet (fun _ => rfl) fun _ => rfl

theorem logs_requireSavepoints (action : String) : (db.watched.requireSavepoints action).Logs := by
  rw [requireSavepoints]
  split
  · exact .pure ()
  · exact .throw _

theorem logs_command (sql : String) : (db.watched.command sql).Logs :=
  (db.watched.routine_command sql).logs

theorem logs_openTransaction : db.watched.openTransaction.Logs := by
  refine logs_level.bind fun n => ?_
  simp only
  split
  · exact (Logs.ask _).bind fun _ => logs_setLevel _
  · exact (db.logs_requireSavepoints _).bind fun _ =>
      (db.logs_command _).bind fun _ => logs_setLevel _

theorem logs_commit : db.watched.commit.Logs := by
  refine logs_level.bind fun n => ?_
  simp only
  split
  · exact .throw _
  · split
    · exact (Logs.ask _).bind fun _ => logs_setLevel _
    · exact logs_setLevel _

theorem logs_rollback : db.watched.rollback.Logs := by
  refine logs_level.bind fun n => ?_
  simp only
  split
  · exact .throw _
  · split
    · exact (Logs.ask _).bind fun _ => logs_setLevel _
    · exact (db.logs_requireSavepoints _).bind fun _ =>
        (db.logs_command _).bind fun _ => logs_setLevel _

end Database

/-! ## One call -/

/-- What a call sets logging to, if it does. -/
def Operation.toggle? : Operation σ → Option Bool
  | setLogging on => some on
  | _ => none

/-- Whether a call drops the log. -/
def Operation.flushes : Operation σ → Bool
  | flushLog => true
  | _ => false

namespace Passage

/-- **The statements that completed during a call.**  What is executed past the log is not among
them. -/
def completed (x : Passage (Watched σ)) : List Statement :=
  match x.operation with
  | .exec _ => []
  | .arrange _ => []
  | _ => FluentSql.completed (x.after.link.executions.drop x.before.link.executions.length)

/-- Those that completed while logging was on. -/
def recorded (x : Passage (Watched σ)) : List Statement :=
  if x.before.log.enabled then x.completed else []

/-- **What a call does to the log**: it may turn it on or off or drop it, and else adds what completed
while it was on. -/
structure Records (x : Passage (Watched σ)) : Prop where
  enabled : x.after.log.enabled = x.operation.toggle?.getD x.before.log.enabled
  statements : x.after.log.statements =
    if x.operation.flushes then [] else x.before.log.statements ++ x.recorded

end Passage

/-- An operation that logs what completes in it does no more to the log. -/
theorem Session.Logs.records {db : Database σ} {operation : Operation (Watched σ)}
    (h : (operation.session db.watched).Logs) (htoggle : operation.toggle? = none)
    (hflush : operation.flushes = false) {s : SessionState (Watched σ)}
    (hcompleted : (db.watched.pass operation s).completed =
      FluentSql.completed (((operation.session db.watched).play s).2.link.executions.drop
        s.link.executions.length)) : (db.watched.pass operation s).Records := by
  obtain ⟨ran, hran, henabled, hstatements⟩ := h s
  rw [hran, List.drop_left] at hcompleted
  refine ⟨?_, ?_⟩
  · change _ = operation.toggle?.getD s.log.enabled
    rw [htoggle]
    exact henabled
  · change _ = if operation.flushes then [] else s.log.statements ++ _
    rw [hflush, Passage.recorded, hcompleted]
    exact hstatements

/-- A call that completes nothing adds nothing. -/
theorem Passage.append_recorded {x : Passage (Watched σ)} (h : x.completed = [])
    (l : List Statement) : l ++ x.recorded = l := by
  rw [recorded, h, ite_self, List.append_nil]

/-- **Every call does to the log what it should.** -/
theorem Database.records_pass (db : Database σ) (operation : Operation (Watched σ))
    (s : SessionState (Watched σ)) : (db.watched.pass operation s).Records := by
  cases operation with
  | exec st =>
    have hlog : (db.watched.pass (.exec st) s).after.log = s.log := by
      rw [pass, Operation.session, Session.play_map, play_exec]
    exact ⟨congrArg _ hlog, (congrArg _ hlog).trans (Passage.append_recorded rfl _).symm⟩
  | setLogging on =>
    have hnone : (db.watched.pass (.setLogging on) s).completed = [] :=
      congrArg FluentSql.completed List.drop_length
    exact ⟨rfl, (Passage.append_recorded hnone _).symm⟩
  | flushLog => exact ⟨rfl, rfl⟩
  | arrange f => exact ⟨rfl, (Passage.append_recorded rfl _).symm⟩
  | openTransaction => exact (db.logs_openTransaction.map _).records rfl rfl rfl
  | commit => exact (db.logs_commit.map _).records rfl rfl rfl
  | rollback => exact (db.logs_rollback.map _).records rfl rfl rfl
  | _ => exact (Operation.routine db.watched rfl).logs.records rfl rfl rfl

/-! ## Whole runs -/

/-- Whether logging is on after calls: as the last of them set it that did. -/
def loggingAfter (initial : Bool) (past : List (Passage (Watched σ))) : Bool :=
  (past.filterMap (·.operation.toggle?)).getLast?.getD initial

/-- **A log that lists what completed while logging was on**, call after call since the last flush, or
since its beginning if there was none. -/
structure QueryLog.Tells (log : QueryLog) (beginning : QueryLog)
    (past : List (Passage (Watched σ))) : Prop where
  enabled : log.enabled = loggingAfter beginning.enabled past
  statements : log.statements =
    (if past.any (·.operation.flushes) then [] else beginning.statements) ++
      (past.rtakeWhile (!·.operation.flushes)).flatMap Passage.recorded

namespace QueryLog.Tells

variable {log beginning : QueryLog} {past : List (Passage (Watched σ))}

theorem nil (beginning : QueryLog) : beginning.Tells beginning ([] : List (Passage (Watched σ))) :=
  ⟨rfl, (List.append_nil _).symm⟩

/-- **One more call.** -/
theorem concat {x : Passage (Watched σ)} (h : x.before.log.Tells beginning past) (hx : x.Records) :
    x.after.log.Tells beginning (past ++ [x]) := by
  refine ⟨?_, ?_⟩
  · rw [hx.enabled, h.enabled, loggingAfter, loggingAfter, List.filterMap_append]
    cases htoggle : x.operation.toggle? <;> simp [htoggle]
  · rw [hx.statements, h.statements, List.rtakeWhile_concat, List.any_append]
    cases hflush : x.operation.flushes with
    | true => simp [hflush]
    | false => simp [hflush]

end QueryLog.Tells

/-- **What a log tells on the way of a run.** -/
theorem Leads.tells {db : Database σ} {s last : SessionState (Watched σ)}
    {past : List (Passage (Watched σ))} (h : Leads db.watched s past last) :
    last.log.Tells s.log past := by
  induction past using List.reverseRecOn generalizing last with
  | nil =>
    cases h
    exact .nil _
  | append_singleton past x ih =>
    obtain ⟨mid, hpast, hx⟩ := h.split
    cases hx with
    | cons operation rest =>
      cases rest
      exact (ih hpast).concat (db.records_pass operation mid)

/-- **The log is the history of the statements that completed.**  At every point of a run of any
program, on any connection and whatever fails, logging is as it was set last, and the log lists the
statements that completed while it was on since the last flush, as they reached the connection, once
each and in order; its texts are those statements with their values in place. -/
theorem Program.log_tells (db : Database σ) (p : Program (Watched σ) α)
    (s : SessionState (Watched σ)) (past future : List (Passage (Watched σ)))
    (hsplit : p.passages db.watched s = past ++ future) :
    ∃ now, Leads db.watched s past now ∧
      Leads db.watched now future ((p.session db.watched).play s).2 ∧
      now.log.Tells s.log past ∧ now.log.parsed = now.log.statements.map Statement.parsed := by
  have hleads := p.leads db.watched s
  rw [hsplit] at hleads
  obtain ⟨now, hpast, hfuture⟩ := hleads.split
  refine ⟨now, hpast, hfuture, hpast.tells, ?_⟩
  rw [QueryLog.parsed, QueryLog.statements, List.map_map]
  rfl

/-- Logging is on from the start.  After a flush come a transaction with one inside it, a statement that
fails, one that cannot be prepared, one past the log and one that is not built; then logging is turned
off.  What is left is what completed between the two, savepoints included. -/
theorem Program.log_tells_failures :
    let db : Database Script := ⟨Script.connection none, .mysql⟩
    let sql (s : String) : Operation (Watched Script) := .statement ⟨s, [.int 1]⟩
    let unbuilt : Builder := (Builder.new db.target).call (.rowLock .shared) |>.call
      (.condition .wheres .and (.compare ⟨"a", some "=>", .int 1⟩))
    let unprepared : Operation (Watched Script) :=
      .arrange fun w => { w with link := w.link.planFailure .prepare "no such table" }
    let inner : Program (Watched Script) Unit :=
      .call (sql "UPDATE b") fun _ => .call (sql "UPDATE c") fun _ =>
        .call (.exec ⟨"UPDATE d", []⟩) fun _ => .done (.error (.notFound "none"))
    let outer : Program (Watched Script) Unit :=
      .call (.delete unbuilt) fun _ => .transaction inner fun _ => .call unprepared fun _ =>
        .call (sql "UPDATE e") fun _ => .call (sql "UPDATE f") fun _ => .done (.ok ())
    let p : Program (Watched Script) Unit :=
      .call (sql "UPDATE a") fun _ => .call .flushLog fun _ => .transaction outer fun _ =>
        .call (.setLogging false) fun _ => .call (sql "UPDATE g") fun _ => .done (.ok ())
    let s : SessionState (Watched Script) :=
      { link :=
          { link :=
              { outcomes := [.ok {}, .ok {}, .error "disk full"]
                failures := [(.commit, "connection lost")] } }
        log := { enabled := true } }
    p.passages db.watched s = p.passages db.watched s ++ [] ∧
      ∃ now, Leads db.watched s (p.passages db.watched s) now ∧ now.log.enabled = false ∧
        now.link.executions.map (·.statement.sql) = ["UPDATE a", "SAVEPOINT trans2", "UPDATE b",
          "UPDATE c", "UPDATE d", "ROLLBACK TO SAVEPOINT trans2", "UPDATE f", "UPDATE g"] ∧
        now.log.statements = [⟨"SAVEPOINT trans2", []⟩, ⟨"UPDATE c", [.int 1]⟩,
          ⟨"ROLLBACK TO SAVEPOINT trans2", []⟩, ⟨"UPDATE f", [.int 1]⟩] := by
  intro db sql unbuilt unprepared inner outer p s
  have hsplit : p.passages db.watched s = p.passages db.watched s ++ [] :=
    (List.append_nil _).symm
  obtain ⟨now, hpast, hfuture, htells, -⟩ := p.log_tells db s _ _ hsplit
  have hnow : now = ((p.session db.watched).play s).2 := by
    cases hfuture
    rfl
  refine ⟨hsplit, now, hpast, ?_, ?_, ?_⟩
  · rw [htells.enabled]
    decide +kernel
  · rw [hnow]
    decide +kernel
  · rw [htells.statements]
    decide +kernel

end FluentSql
