import FluentSql.Proofs.Session.Program

/-!
# Proofs/Transaction/Turn — the calls that open and end a transaction

Each of the three calls asks the connection for at most one thing, which depends on the level alone
(`Database.request`), and then goes one level up or down.  `Database.turned` says all that such a
call can do: it is refused, it fails at the connection, or it succeeds.
-/

namespace FluentSql

variable {σ : Type}

/-- **A call that opens or ends a transaction.** -/
inductive Turn
  | start
  | commit
  | rollback
  deriving DecidableEq, Repr

/-- What a turn does. -/
def Turn.session (db : Database σ) : Turn → Session σ Unit
  | start => db.openTransaction
  | commit => db.commit
  | rollback => db.rollback

/-- The level a turn leads to. -/
def Turn.levelAfter : Turn → Nat → Nat
  | start, n => n + 1
  | commit, n => n - 1
  | rollback, n => n - 1

/-- **A turn moves the level by one**, up or down. -/
def Turn.Moves : Turn → Nat → Nat → Prop
  | start, n, after => after = n + 1
  | commit, n, after => n = after + 1
  | rollback, n, after => n = after + 1

/-- The turn an operation is, if it is one. -/
def Operation.turn? : Operation σ → Option Turn
  | openTransaction => some .start
  | commit => some .commit
  | rollback => some .rollback
  | _ => none

theorem Operation.session_of_turn? {db : Database σ} {operation : Operation σ} {t : Turn}
    (h : operation.turn? = some t) :
    operation.session db = (fun _ => .done) <$> t.session db := by
  cases operation <;> cases h <;> rfl

namespace Database

variable (db : Database σ)

/-! ## What a turn asks for -/

/-- **What a turn asks of the connection at a level**, or why it is refused.  The end of an inner
transaction that succeeded asks for nothing. -/
def request : Turn → Nat → Except QueryError (Operates σ Unit)
  | .start, 0 => .ok db.connection.openTransaction
  | .start, n + 1 =>
    if db.dialect.savepoints then
      .ok (db.connection.send (Dialect.savepoint (savepointName (n + 2))))
    else .error (.transaction ("nested begin needs savepoints, which the " ++ db.dialect.name ++
      " grammar does not support"))
  | .commit, 0 => .error (.transaction "commit without an active transaction")
  | .commit, 1 => .ok db.connection.commit
  | .commit, _ + 2 => .ok fun link => (.ok (), link)
  | .rollback, 0 => .error (.transaction "rollback without an active transaction")
  | .rollback, 1 => .ok db.connection.rollback
  | .rollback, n + 2 =>
    if db.dialect.savepoints then
      .ok (db.connection.send (Dialect.savepointRollback (savepointName (n + 2))))
    else .error (.transaction ("nested rollback needs savepoints, which the " ++ db.dialect.name ++
      " grammar does not support"))

/-- **All that a turn can do**, with its outcome and the state it leaves. -/
inductive Turned (t : Turn) (s : SessionState σ) :
    Except QueryError Unit → SessionState σ → Prop
  /-- It is refused, and nothing is asked for. -/
  | refused {e : QueryError} (hrequest : db.request t s.level = .error e) :
    Turned t s (.error e) s
  /-- The connection fails. -/
  | failed {ask : Operates σ Unit} {e : QueryError} {link : σ} (log : QueryLog)
    (hrequest : db.request t s.level = .ok ask) (hask : ask s.link = (.error e, link)) :
    Turned t s (.error e) { s with link, log }
  /-- The connection does what it is asked for, and the level moves. -/
  | succeeded {ask : Operates σ Unit} {link : σ} (log : QueryLog)
    (hrequest : db.request t s.level = .ok ask) (hask : ask s.link = (.ok (), link)) :
    Turned t s (.ok ()) { s with link, log, level := t.levelAfter s.level }

/-- A step that hands a request on and then moves the level. -/
theorem turned_of_ask {t : Turn} {s : SessionState σ} {x : Session σ Unit} {ask : Operates σ Unit}
    (hrequest : db.request t s.level = .ok ask)
    (hx : ∃ log, x.play s = ((ask s.link).1, { s with link := (ask s.link).2, log })) :
    let r := (do x; setLevel (t.levelAfter s.level) : Session σ Unit).play s
    db.Turned t s r.1 r.2 := by
  obtain ⟨log, hx⟩ := hx
  rcases hask : ask s.link with ⟨e | u, link⟩
  · rw [hask] at hx
    rw [Session.play_bind, hx]
    exact .failed log hrequest hask
  · rw [hask] at hx
    rw [Session.play_bind, hx]
    exact .succeeded log hrequest hask

/-- **A turn is refused, fails or succeeds.** -/
theorem turned (t : Turn) (s : SessionState σ) :
    db.Turned t s ((t.session db).play s).1 ((t.session db).play s).2 := by
  obtain ⟨link, n, log⟩ := s
  have hlevel (f : Nat → Session σ Unit) :
      Session.play (level >>= f) ⟨link, n, log⟩ = (f n).play ⟨link, n, log⟩ := rfl
  cases t with
  | start =>
    rw [Turn.session, openTransaction, hlevel]
    rcases n with - | n
    · exact db.turned_of_ask (t := .start) rfl ⟨log, rfl⟩
    · simp only [Nat.add_eq_zero_iff, Nat.one_ne_zero, and_false, if_false]
      cases hsavepoints : db.dialect.savepoints with
      | false =>
        have hrequest : db.request .start (n + 1) = .error _ := if_neg (by simp [hsavepoints])
        rw [requireSavepoints, hsavepoints]
        exact .refused hrequest
      | true =>
        have hrequest : db.request .start (n + 1) = .ok _ := if_pos hsavepoints
        rw [requireSavepoints, hsavepoints]
        exact db.turned_of_ask hrequest (db.play_command ..)
  | commit =>
    rw [Turn.session, commit, hlevel]
    rcases n with - | - | n
    · exact .refused rfl
    · exact db.turned_of_ask (t := .commit) rfl ⟨log, rfl⟩
    · exact db.turned_of_ask (t := .commit) (x := pure ()) rfl ⟨log, rfl⟩
  | rollback =>
    rw [Turn.session, rollback, hlevel]
    rcases n with - | - | n
    · exact .refused rfl
    · exact db.turned_of_ask (t := .rollback) rfl ⟨log, rfl⟩
    · cases hsavepoints : db.dialect.savepoints with
      | false =>
        have hrequest : db.request .rollback (n + 2) = .error _ := if_neg (by simp [hsavepoints])
        rw [requireSavepoints, hsavepoints]
        exact .refused hrequest
      | true =>
        have hrequest : db.request .rollback (n + 2) = .ok _ := if_pos hsavepoints
        rw [requireSavepoints, hsavepoints]
        exact db.turned_of_ask hrequest (db.play_command ..)

/-- The call of a turn. -/
theorem pass_turned {operation : Operation σ} {t : Turn} (h : operation.turn? = some t)
    (s : SessionState σ) :
    ∃ r, (db.pass operation s).outcome = r.map (fun _ => .done) ∧
      db.Turned t s r (db.pass operation s).after := by
  have hplay : (operation.session db).play s =
      (((t.session db).play s).1.map fun _ => .done, ((t.session db).play s).2) := by
    rw [Operation.session_of_turn? h, Session.play_map]
  exact ⟨((t.session db).play s).1, congrArg Prod.fst hplay,
    (congrArg (db.Turned t s _) (congrArg Prod.snd hplay)).mpr (db.turned t s)⟩

end Database

end FluentSql
