import FluentSql.Connection.Script
import FluentSql.Proofs.Failure.Statement
import FluentSql.Proofs.Session.Play
import FluentSql.Session.Action

/-!
# Proofs/Failure/Terminal — a builder that failed sends nothing

A recorded error stays (`Builder.error_calls_of_error`), and it ends every call that would send a
statement before the connection hears of it (`Operation.blocked`).  Together with what is recorded
and what is compiled this is the whole way of an error, `Builder.first_error`.
-/

namespace FluentSql

variable {σ α β : Type}

/-! ## Errors that stay -/

namespace Builder

variable {b : Builder} {e : BuildError}

/-- **No call clears or changes a recorded error.** -/
theorem error_calls_of_error (h : b.error = some e) (calls : List Call) :
    (b.calls calls).error = some e := by
  rw [error_calls, h, Option.some_or]

theorem error_call_of_error (h : b.error = some e) (c : Call) : (b.call c).error = some e :=
  error_calls_of_error h [c]

end Builder

/-! ## Sessions that fail at once -/

/-- **A session that fails before it does anything.** -/
def Session.Blocked (x : Session σ α) (e : QueryError) : Prop := ∀ s, x.play s = (.error e, s)

namespace Session.Blocked

variable {x : Session σ α} {e : QueryError}

theorem bind (h : x.Blocked e) (f : α → Session σ β) : (x >>= f).Blocked e := fun s => by
  rw [play_bind, h s]

theorem map (h : x.Blocked e) (f : α → β) : (f <$> x).Blocked e := fun s => by
  rw [play_map, h s]
  rfl

end Session.Blocked

namespace Database

variable (db : Database σ) {b : Builder} {e : BuildError}

open Session (Blocked)

theorem blocked_runBuilt (h : b.error = some e) (c : Compilation) (b' : Builder) :
    (db.runBuilt b' (b.compilation c)).Blocked (.build e) := by
  rw [b.compilation_of_error h]
  exact fun s => rfl

theorem blocked_get (h : b.error = some e) : (db.get b).Blocked (.build e) :=
  (db.blocked_runBuilt h .select b).bind _

theorem blocked_first (h : b.error = some e) : (db.first b).Blocked (.build e) :=
  (db.blocked_runBuilt (Builder.error_call_of_error h (.limit 1)) .select _).bind _

theorem blocked_findBy (h : b.error = some e) (column : String) (value : Value) :
    (db.findBy b column value).Blocked (.build e) :=
  db.blocked_first (Builder.error_call_of_error h _)

theorem blocked_value (h : b.error = some e) (column : String) :
    (db.value b column).Blocked (.build e) :=
  (db.blocked_first (Builder.error_call_of_error (b := { b with query := b.query.reset .columns }) h
    (.select [column]))).bind _

theorem blocked_getPage (h : b.error = some e) : (db.getPage b).Blocked (.build e) :=
  (db.blocked_get (Builder.error_call_of_error h _)).bind _

theorem blocked_write (h : b.error = some e) (c : Compilation) :
    (db.write b (b.compilation c)).Blocked (.build e) :=
  (db.blocked_runBuilt h c b).bind _

theorem blocked_insertGetId (h : b.error = some e) (row : Record Assignment)
    (sequence : Option String) : (db.insertGetId b row sequence).Blocked (.build e) :=
  ((db.blocked_write h (.insert [row])).map _).bind _

/-- The format of the mark of deletion is a valid one. -/
theorem stamp_deletedFormat (time : DateTime) : ∃ v, stamp time deletedFormat = .ok v :=
  ⟨_, rfl⟩

theorem blocked_softDelete (h : b.error = some e) (time : DateTime) :
    (db.softDelete b time).Blocked (.build e) := by
  obtain ⟨v, hv⟩ := stamp_deletedFormat time
  rw [softDelete, softDeleteColumn, hv]
  exact db.blocked_write h (.update _)

end Database

/-! ## Terminal calls -/

/-- The builder that a terminal call is made on.  Stamping a column in a format of the caller's is
not among them: it looks at the format first. -/
def Operation.terminal? : Operation σ → Option Builder
  | get b => some b
  | first b => some b
  | find b _ => some b
  | findBy b _ _ => some b
  | value b _ => some b
  | existsRow b => some b
  | count b => some b
  | getPage b => some b
  | insertMany b _ => some b
  | insertGetId b _ _ => some b
  | insertSource b _ _ => some b
  | update b _ => some b
  | increment b _ _ _ => some b
  | decrement b _ _ _ => some b
  | delete b => some b
  | softDelete b _ => some b
  | restore b => some b
  | restoreColumn b _ => some b
  | _ => none

/-- **A terminal call on a builder that failed answers with its error and leaves everything
alone.** -/
theorem Operation.blocked (db : Database σ) {b : Builder} {e : BuildError} (h : b.error = some e)
    {operation : Operation σ} (hb : operation.terminal? = some b) :
    (operation.session db).Blocked (.build e) := by
  cases operation with
  | get _ => cases hb; exact (db.blocked_get h).map _
  | first _ => cases hb; exact (db.blocked_first h).map _
  | find _ id => cases hb; exact (db.blocked_findBy h "id" id).map _
  | findBy _ column value => cases hb; exact (db.blocked_findBy h column value).map _
  | value _ column => cases hb; exact (db.blocked_value h column).map _
  | existsRow _ => cases hb; exact ((db.blocked_runBuilt h .existence b).bind _).map _
  | count _ => cases hb; exact ((db.blocked_runBuilt h .count b).bind _).map _
  | getPage _ => cases hb; exact (db.blocked_getPage h).map _
  | insertMany _ rows => cases hb; exact (db.blocked_write h (.insert rows)).map _
  | insertGetId _ row sequence => cases hb; exact (db.blocked_insertGetId h row sequence).map _
  | insertSource _ columns source =>
    cases hb
    exact (db.blocked_write h (.insertSource columns source)).map _
  | update _ values => cases hb; exact (db.blocked_write h (.update values)).map _
  | increment _ column amount extra => cases hb; exact (db.blocked_write h (.update _)).map _
  | decrement _ column amount extra => cases hb; exact (db.blocked_write h (.update _)).map _
  | delete _ => cases hb; exact (db.blocked_write h .delete).map _
  | softDelete _ time => cases hb; exact (db.blocked_softDelete h time).map _
  | restore _ => cases hb; exact (db.blocked_write h (.update _)).map _
  | restoreColumn _ column => cases hb; exact (db.blocked_write h (.update _)).map _
  | _ => cases hb

/-! ## The way of an error -/

/-- **A builder that failed**: whatever is asked of it is answered with its error, for good, and no
connection hears of it. -/
structure Builder.Failed (b : Builder) (e : BuildError) : Prop where
  /-- Further calls leave the error as it is. -/
  sticky : ∀ calls, (b.calls calls).error = some e
  /-- There is no statement. -/
  compilation : ∀ c, b.compilation c = .error e
  /-- No terminal call does anything. -/
  terminal : ∀ {σ : Type} (db : Database σ) (operation : Operation σ) (s : SessionState σ),
    operation.terminal? = some b → (operation.session db).play s = (.error (.build e), s)

theorem Builder.failed_of_error {b : Builder} {e : BuildError} (h : b.error = some e) :
    b.Failed e where
  sticky := error_calls_of_error h
  compilation := compilation_of_error h
  terminal db _ s hb := Operation.blocked db h hb s

/-- **The first error of a chain of calls is recorded, stays, and keeps everything from the
connection.** The builder records how the first call fails that does, unless it had failed before.
It has failed if any builder made on the way has, to any depth.  Once it has failed it stays so, has
no statement, and its terminal calls answer with the error and do nothing.  Whenever a statement is
made of it, neither it nor any builder made for the rows has failed. -/
theorem Builder.first_error (b : Builder) (calls : List Call) :
    (b.calls calls).error = b.error.or (calls.findSome? (Call.error? b.target)) ∧
      (∀ n ∈ callsNested b.target calls, n.error.isSome → (b.calls calls).error.isSome) ∧
      (∀ e, (b.calls calls).error = some e → (b.calls calls).Failed e) ∧
      (∀ c s, (b.calls calls).compilation c = .ok s →
        (b.calls calls).error = none ∧ ∀ n ∈ c.nested b.target, n.error = none) := by
  refine ⟨b.error_calls calls, fun n hn hfailed => ?_, fun e he => failed_of_error he,
    fun c s hs => ?_⟩
  · rw [error_calls, ← callsError?_eq]
    exact isSome_or_of_right (callsError?_isSome hfailed calls hn)
  · rw [← target_calls b calls]
    exact error_of_compilation hs

/-- A join inside a group inside a sub-query compares with an operator that no dialect knows;
another operator fails later on.  The error of the join is the one that counts, and a deletion does
nothing. -/
theorem Builder.first_error_nested_join :
    let join : Call := .join .left "posts" (.steps [.on .and "a" "=>" "b"])
    let calls : List Call :=
      [.tables ["users"],
        .condition .wheres .and
          (.existence false (.closure [.condition .wheres .and (.group [join])])),
        .condition .wheres .and (.compare ⟨"name", some "~~~", .text "x"⟩)]
    let b := (Builder.new ⟨.mysql, none⟩).calls calls
    let db : Database Script := ⟨Script.connection none, .mysql⟩
    b.error = some (.invalidOperator "=>") ∧ b.Failed (.invalidOperator "=>") ∧
      ((Operation.delete b).session db).play { link := {} } =
        (.error (.build (.invalidOperator "=>")), { link := {} }) := by
  intro join calls b db
  obtain ⟨hfirst, -, hfailed, -⟩ := first_error (Builder.new ⟨.mysql, none⟩) calls
  have herror : b.error = some (.invalidOperator "=>") := hfirst.trans (by decide +kernel)
  have hb := hfailed _ herror
  exact ⟨herror, hb, hb.terminal db (.delete b) _ rfl⟩

end FluentSql
