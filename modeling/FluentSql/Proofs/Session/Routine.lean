import FluentSql.Proofs.Session.Play
import FluentSql.Session.Action

/-!
# Proofs/Session/Routine — reads and writes are made of statements

Whatever a caller reads or writes comes down to statements that are run, perhaps a key that is asked
for, and answers or failures in between (`Operation.routine`).  So a property of sessions that these
have, and that passes from two sessions to one after the other, is one of every read and write.
-/

namespace FluentSql

variable {σ α β : Type}

/-- **A session made of statements**, requests for keys, and what is answered or fails at once. -/
inductive Routine (db : Database σ) : {α : Type} → Session σ α → Prop
  | done {α : Type} (r : Except QueryError α) : Routine db (Session.ofFun fun s => (r, s))
  | run (st : Statement) (debug : Bool) : Routine db (db.run st debug)
  | key (sequence : Option String) :
    Routine db (Session.ask (db.connection.lastInsertId sequence))
  | bind {α β : Type} {x : Session σ α} {f : α → Session σ β} (hx : Routine db x)
    (hf : ∀ a, Routine db (f a)) : Routine db (x >>= f)

namespace Routine

variable {db : Database σ}

theorem pure (a : α) : Routine db (Pure.pure a : Session σ α) := .done (.ok a)

theorem throw (e : QueryError) : Routine db (MonadExcept.throw e : Session σ α) := .done (.error e)

theorem built (r : Except BuildError α) : Routine db (Session.built r : Session σ α) :=
  .done (r.mapError .build)

theorem map {x : Session σ α} (f : α → β) (hx : Routine db x) : Routine db (f <$> x) := by
  rw [map_eq_pure_bind]
  exact hx.bind fun a => pure (f a)

end Routine

namespace Database

variable (db : Database σ)

theorem routine_runBuilt (b : Builder) (st : Except BuildError Statement) :
    Routine db (db.runBuilt b st) := (Routine.built st).bind fun _ => .run _ _

theorem routine_guardFound (b : Builder) (found : Bool) :
    Routine db (guardFound b found : Session σ Unit) := by
  rw [guardFound]
  split
  · split
    · exact .pure ()
    · exact .throw _
  · exact .pure ()

theorem routine_get (b : Builder) : Routine db (db.get b) :=
  (db.routine_runBuilt _ _).bind fun _ => (db.routine_guardFound _ _).bind fun _ => .pure _

theorem routine_first (b : Builder) : Routine db (db.first b) :=
  (db.routine_runBuilt _ _).bind fun _ => (db.routine_guardFound _ _).bind fun _ => .pure _

theorem routine_count (b : Builder) : Routine db (db.count b) :=
  (db.routine_runBuilt _ _).bind fun _ => .pure _

theorem routine_getPage (b : Builder) : Routine db (db.getPage b) :=
  (db.routine_get _).bind fun _ => (db.routine_count _).bind fun _ => .pure _

theorem routine_write (b : Builder) (st : Except BuildError Statement) :
    Routine db (db.write b st) := (db.routine_runBuilt _ _).bind fun _ => .pure _

theorem routine_insertGetId (b : Builder) (row : Record Assignment) (sequence : Option String) :
    Routine db (db.insertGetId b row sequence) :=
  ((db.routine_write _ _).map _).bind fun _ => (Routine.key sequence).bind fun _ => .pure _

theorem routine_softDeleteColumn (b : Builder) (time : DateTime) (column format : String) :
    Routine db (db.softDeleteColumn b time column format) :=
  (Routine.built _).bind fun _ => db.routine_write _ _

theorem routine_command (sql : String) : Routine db (db.command sql) :=
  ((Routine.run _ _).bind fun _ => .pure _).map _

end Database

/-- **An operation that only runs statements of its own**, by way of the log. -/
def Operation.isRoutine : Operation σ → Bool
  | exec _ => false
  | openTransaction => false
  | commit => false
  | rollback => false
  | setLogging _ => false
  | flushLog => false
  | arrange _ => false
  | _ => true

/-- **Reads and writes are made of statements.** -/
theorem Operation.routine (db : Database σ) {operation : Operation σ}
    (h : operation.isRoutine = true) : Routine db (operation.session db) := by
  cases operation with
  | get b => exact (db.routine_get b).map _
  | first b => exact (db.routine_first b).map _
  | find b id => exact (db.routine_first _).map _
  | findBy b column v => exact (db.routine_first _).map _
  | value b column => exact ((db.routine_first _).bind fun _ => .pure _).map _
  | existsRow b => exact ((db.routine_runBuilt _ _).bind fun _ => .pure _).map _
  | count b => exact (db.routine_count b).map _
  | getPage b => exact (db.routine_getPage b).map _
  | insertMany b rows => exact (db.routine_write b _).map _
  | insertGetId b row sequence => exact (db.routine_insertGetId b row sequence).map _
  | insertSource b columns source => exact (db.routine_write b _).map _
  | update b values => exact (db.routine_write b _).map _
  | increment b column amount extra => exact (db.routine_write b _).map _
  | decrement b column amount extra => exact (db.routine_write b _).map _
  | delete b => exact (db.routine_write b _).map _
  | softDelete b time => exact (db.routine_softDeleteColumn b time _ _).map _
  | softDeleteColumn b time column format =>
    exact (db.routine_softDeleteColumn b time column format).map _
  | restore b => exact (db.routine_write b _).map _
  | restoreColumn b column => exact (db.routine_write b _).map _
  | select st => exact ((Routine.run st false).bind fun _ => .pure _).map _
  | statement st => exact ((Routine.run st false).bind fun _ => .pure _).map _
  | exec _ | openTransaction | commit | rollback | setLogging _ | flushLog | arrange _ => cases h

end FluentSql
