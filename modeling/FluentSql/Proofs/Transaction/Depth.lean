import FluentSql.Connection.Script
import FluentSql.Proofs.Transaction.Steady

/-!
# Proofs/Transaction/Depth — the level and the connection agree, whatever fails

The level counts on one side of a call that may fail, the connection's flag moves on the other.
They are **balanced** when the level is positive exactly inside a transaction.  Every turn keeps
them so and moves the level by one if it succeeds, by nothing if it fails
(`Database.Turned.balanced`); a run of any program is made of such calls (`Program.depth_balanced`).
-/

namespace FluentSql

variable {σ τ α : Type}

/-! ## Connections whose transactions can be relied on -/

/-- **What an attempt comes to**: a success has its effect, a failure changes nothing in view. -/
def Attempt (view : σ → τ) (link : σ) (effect : σ → Prop) : Except QueryError Unit × σ → Prop
  | (.ok _, after) => effect after
  | (.error _, after) => view after = view link

theorem Attempt.mono {view : σ → τ} {link : σ} {effect effect' : σ → Prop}
    {r : Except QueryError Unit × σ} (h : Attempt view link effect r)
    (himp : ∀ after, effect after → effect' after) : Attempt view link effect' r := by
  rcases r with ⟨_ | _, after⟩
  · exact h
  · exact himp after h

/-- **A connection that opens and ends transactions when it says so**, and otherwise changes nothing
in view; savepoints come and go inside a transaction. -/
structure Connection.Reliable (c : Connection σ) (view : σ → τ) : Prop where
  /-- Whether a transaction is open can be seen. -/
  shown : ∀ link link', view link = view link' → c.inTransaction link = c.inTransaction link'
  opens : ∀ link, c.inTransaction link = false →
    Attempt view link (c.inTransaction · = true) (c.openTransaction link)
  commits : ∀ link, c.inTransaction link = true →
    Attempt view link (c.inTransaction · = false) (c.commit link)
  rollsBack : ∀ link, c.inTransaction link = true →
    Attempt view link (c.inTransaction · = false) (c.rollback link)
  saves : ∀ name link, c.inTransaction link = true →
    Attempt view link (c.inTransaction · = true) (c.send (Dialect.savepoint name) link)
  rewinds : ∀ name link, c.inTransaction link = true →
    Attempt view link (c.inTransaction · = true) (c.send (Dialect.savepointRollback name) link)

namespace Database

variable {db : Database σ} {view : σ → τ} {s after : SessionState σ} {t : Turn}

/-! ## One turn -/

/-- **The level is positive exactly inside a transaction.** -/
def Balanced (db : Database σ) (s : SessionState σ) : Prop :=
  0 < s.level ↔ db.connection.inTransaction s.link = true

theorem Balanced.eq_decide (hs : db.Balanced s) :
    db.connection.inTransaction s.link = decide (0 < s.level) :=
  Bool.eq_iff_iff.mpr (hs.symm.trans decide_eq_true_iff.symm)

theorem balanced_of_eq_decide (h : db.connection.inTransaction s.link = decide (0 < s.level)) :
    db.Balanced s := by
  rw [Balanced, h, decide_eq_true_iff]

/-- **What is asked of the connection puts it where the level goes.** -/
theorem attempt_request (hc : db.connection.Reliable view) (hs : db.Balanced s)
    {ask : Operates σ Unit} (hrequest : db.request t s.level = .ok ask) :
    Attempt view s.link
      (db.connection.inTransaction · = decide (0 < t.levelAfter s.level)) (ask s.link) := by
  obtain ⟨link, n, log⟩ := s
  have hflag : db.connection.inTransaction link = decide (0 < n) := hs.eq_decide
  revert hrequest
  -- the cases are those of the request: which call it is, and how deep
  fun_cases db.request t n <;> intro hrequest <;> cases hrequest
  · exact hc.opens link hflag
  · exact hc.saves _ link hflag
  · exact hc.commits link hflag
  · exact hflag
  · exact hc.rollsBack link hflag
  · exact hc.rewinds _ link hflag

/-- A request that is granted moves the level by one. -/
theorem moves_of_request {n : Nat} {ask : Operates σ Unit} (hrequest : db.request t n = .ok ask) :
    t.Moves n (t.levelAfter n) := by
  cases t with
  | start => rfl
  | commit | rollback =>
    rcases n with - | n
    · cases hrequest
    · rfl

/-- **A turn keeps level and flag balanced**: a success moves the level by one, a failure changes
neither the level nor what is in view of the connection. -/
theorem Turned.balanced (hc : db.connection.Reliable view) (hs : db.Balanced s)
    {r : Except QueryError Unit} (h : db.Turned t s r after) :
    db.Balanced after ∧
      match r with
      | .ok _ => t.Moves s.level after.level
      | .error _ => after.level = s.level ∧ view after.link = view s.link := by
  cases h with
  | refused hrequest => exact ⟨hs, rfl, rfl⟩
  | failed log hrequest hask =>
    have hkept := attempt_request hc hs hrequest
    rw [hask] at hkept
    exact ⟨balanced_of_eq_decide ((hc.shown _ _ hkept).trans hs.eq_decide), rfl, hkept⟩
  | succeeded log hrequest hask =>
    have heffect := attempt_request hc hs hrequest
    rw [hask] at heffect
    exact ⟨balanced_of_eq_decide heffect, moves_of_request hrequest⟩

/-! ## Dialects without savepoints -/

/-- A database whose connection prepares and executes statements in other ways. -/
def withStatements (db : Database σ) (prepare : String → Operates σ Unit)
    (execute : Request → Operates σ ResultSet) : Database σ :=
  { db with connection := { db.connection with prepare, execute } }

/-- **Without savepoints a turn sends no statement**: it is the same whatever would come of one. -/
theorem play_withStatements (hflat : db.dialect.savepoints = false)
    (prepare : String → Operates σ Unit) (execute : Request → Operates σ ResultSet) :
    (t.session (db.withStatements prepare execute)).play s = (t.session db).play s := by
  obtain ⟨link, n, log⟩ := s
  have hrequire (d : Database σ) (hd : d.dialect.savepoints = false) (action : String) :
      d.requireSavepoints action = throw (.transaction (action ++ " needs savepoints, which the " ++
        d.dialect.name ++ " grammar does not support")) := by
    rw [requireSavepoints, hd]
    rfl
  cases t with
  | start =>
    simp only [Turn.session, openTransaction, hrequire db hflat,
      hrequire (db.withStatements prepare execute) hflat]
    rcases n with - | n <;> rfl
  | commit => rfl
  | rollback =>
    simp only [Turn.session, rollback, hrequire db hflat,
      hrequire (db.withStatements prepare execute) hflat]
    rcases n with - | - | n <;> rfl

/-- Without savepoints transactions do not nest. -/
theorem Turned.level_le_one (hflat : db.dialect.savepoints = false) (hs : s.level ≤ 1)
    {r : Except QueryError Unit} (h : db.Turned t s r after) : after.level ≤ 1 := by
  cases h with
  | refused hrequest => exact hs
  | failed log hrequest hask => exact hs
  | succeeded log hrequest hask =>
    obtain ⟨link, n, oldLog⟩ := s
    cases t with
    | start =>
      rcases n with - | n
      · exact Nat.le_refl 1
      · rw [request, hflat] at hrequest
        cases hrequest
    | commit | rollback => exact Nat.le_trans (Nat.sub_le n 1) hs

end Database

/-! ## Whole runs -/

/-- **A call that keeps level and connection balanced**, and moves the level as its outcome
tells. -/
structure Passage.Balances (db : Database σ) (view : σ → τ) (x : Passage σ) : Prop where
  before : db.Balanced x.before
  after : db.Balanced x.after
  /-- What succeeds moves the level by one. -/
  moves : ∀ t r, x.operation.turn? = some t → x.outcome = .ok r →
    t.Moves x.before.level x.after.level
  /-- What fails changes nothing. -/
  keeps : ∀ t e, x.operation.turn? = some t → x.outcome = .error e →
    x.after.level = x.before.level ∧ view x.after.link = view x.before.link
  /-- The other calls have no part in it. -/
  stays : x.operation.turn? = none → x.after.level = x.before.level

/-- **A call of a dialect without savepoints**: the level is zero or one, and opening or ending a
transaction is the same whatever would come of a statement. -/
structure Passage.Flat (db : Database σ) (x : Passage σ) : Prop where
  before : x.before.level ≤ 1
  after : x.after.level ≤ 1
  silent : x.operation.turn? ≠ none → ∀ prepare execute,
    (db.withStatements prepare execute).pass x.operation x.before = x

namespace Database

variable {db : Database σ} {view : σ → τ}

/-- **One call keeps the balance**, if it is a turn or leaves the connection's flag alone. -/
theorem balances_pass (hc : db.connection.Reliable view) {operation : Operation σ}
    {s : SessionState σ} (hs : db.Balanced s)
    (hother : operation.turn? = none →
      db.connection.inTransaction (db.pass operation s).after.link =
        db.connection.inTransaction s.link) :
    (db.pass operation s).Balances db view := by
  cases hturn : operation.turn? with
  | none =>
    have hlevel : (db.pass operation s).after.level = s.level := operation.steady db hturn s
    have hafter : db.Balanced (db.pass operation s).after := by
      rw [Balanced, hlevel, hother hturn]
      exact hs
    exact ⟨hs, hafter, fun t _ ht => absurd (hturn.symm.trans ht) (by simp),
      fun t _ ht => absurd (hturn.symm.trans ht) (by simp), fun _ => hlevel⟩
  | some t =>
    obtain ⟨r, hr, hturned⟩ := db.pass_turned hturn s
    obtain ⟨hafter, hmoved⟩ := hturned.balanced hc hs
    refine ⟨hs, hafter, fun t' r' ht hok => ?_, fun t' e ht herror => ?_,
      fun hnone => absurd (hturn.symm.trans hnone) (by simp)⟩
    · obtain rfl : t = t' := Option.some.inj (hturn.symm.trans ht)
      cases r with
      | error e => cases hr.symm.trans hok
      | ok u => exact hmoved
    · cases r with
      | error e => exact hmoved
      | ok u => cases hr.symm.trans herror

/-- **Without savepoints one call keeps the level at most one**, and sends nothing if it is a
turn. -/
theorem flat_pass (hflat : db.dialect.savepoints = false) (operation : Operation σ)
    {s : SessionState σ} (hs : s.level ≤ 1) : (db.pass operation s).Flat db := by
  refine ⟨hs, ?_, fun hturn prepare execute => ?_⟩
  · cases hturn : operation.turn? with
    | none => exact Nat.le_trans (Nat.le_of_eq (operation.steady db hturn s)) hs
    | some t =>
      obtain ⟨r, -, hturned⟩ := db.pass_turned hturn s
      exact hturned.level_le_one hflat hs
  · obtain ⟨t, ht⟩ := Option.ne_none_iff_exists'.mp hturn
    have hoperation : operation.turn? = some t := ht
    have hplay : (operation.session (db.withStatements prepare execute)).play s =
        (operation.session db).play s := by
      rw [Operation.session_of_turn? hoperation, Operation.session_of_turn? hoperation,
        Session.play_map, Session.play_map, play_withStatements hflat]
    change (db.withStatements prepare execute).pass operation s = db.pass operation s
    rw [pass, pass, hplay]

end Database

/-- **The level of a session is positive exactly while its connection is in a transaction**, through
every call of every program and whatever fails on the way: an opening that succeeds takes the level
up by one, a commit or rollback that succeeds down by one, and a failure changes neither the level
nor what is in view of the connection.  Without savepoints the level is at most one throughout, and
opening and ending transactions send no statement. -/
theorem Program.depth_balanced (db : Database σ) (view : σ → τ)
    (hc : db.connection.Reliable view) (p : Program σ α) (s : SessionState σ) (hs : db.Balanced s)
    (hother : ∀ x ∈ p.passages db s, x.operation.turn? = none →
      db.connection.inTransaction x.after.link = db.connection.inTransaction x.before.link) :
    (∀ x ∈ p.passages db s, x.Balances db view) ∧ db.Balanced ((p.session db).play s).2 ∧
      (db.dialect.savepoints = false → s.level ≤ 1 →
        (∀ x ∈ p.passages db s, x.Flat db) ∧ ((p.session db).play s).2.level ≤ 1) := by
  have hbalances (x : Passage σ) (hx : x ∈ p.passages db s)
      (heq : x = db.pass x.operation x.before) (hbefore : db.Balanced x.before) :
      x.Balances db view := by
    have hothers := hother x hx
    rw [heq] at hothers ⊢
    exact Database.balances_pass hc hbefore hothers
  obtain ⟨hrun, hend⟩ := (p.leads db s).invariant hs fun x hx heq hbefore =>
    (hbalances x hx heq hbefore).after
  refine ⟨fun x hx => hbalances x hx (hrun x hx).1 (hrun x hx).2.1, hend, fun hflat hlevel => ?_⟩
  have hflats (x : Passage σ) (heq : x = db.pass x.operation x.before)
      (hbefore : x.before.level ≤ 1) : x.Flat db := by
    rw [heq]
    exact Database.flat_pass hflat _ hbefore
  obtain ⟨hrun, hend⟩ := (p.leads db s).invariant (I := fun s => s.level ≤ 1) hlevel
    fun x _ heq hbefore => (hflats x heq hbefore).after
  exact ⟨fun x hx => hflats x (hrun x hx).1 (hrun x hx).2.1, hend⟩

/-! ## Scripts

The flag of a scripted connection and the events it remembers move together. -/

namespace Script

/-- What a script shows of its transactions. -/
def transactions (s : Script) : Bool × List Event := (s.inTransaction, s.events)

theorem attempt_turn (w : Weakness) (e : Event) (flag : Bool) (s : Script) :
    Attempt transactions s (fun after => after.inTransaction = flag)
      (attempt w (turn e flag) s) := by
  rw [attempt]
  split
  · rfl
  · rfl

theorem transactions_prepare (database : Option String) (sql : String) (s : Script) :
    ((connection database).prepare sql s).2.transactions = s.transactions := by
  simp only [connection, attempt]
  split <;> rfl

theorem transactions_execute (r : Request) (s : Script) :
    (execute r s).2.transactions = s.transactions := by
  obtain ⟨outcomes, failures, lastInsertId, inTransaction, executed, events⟩ := s
  rcases outcomes with - | ⟨_ | _, rest⟩ <;> rfl

/-- **A statement is no turn of a script**, whatever it says. -/
theorem transactions_send (database : Option String) (sql : String) (s : Script) :
    ((connection database).send sql s).2.transactions = s.transactions := by
  have hprepare := transactions_prepare database sql s
  rw [Connection.send, Connection.perform]
  revert hprepare
  rcases (connection database).prepare sql s with ⟨_ | _, prepared⟩
  · exact id
  · exact (transactions_execute _ prepared).trans

theorem attempt_send (database : Option String) (sql : String) (s : Script) :
    Attempt transactions s (fun after => after.inTransaction = s.inTransaction)
      ((connection database).send sql s) := by
  have hsend := transactions_send database sql s
  revert hsend
  rcases (connection database).send sql s with ⟨_ | _, after⟩
  · exact id
  · exact congrArg Prod.fst

/-- **A scripted connection can be relied on**, whatever fails. -/
theorem connection_reliable (database : Option String) :
    (connection database).Reliable transactions where
  shown _ _ h := congrArg Prod.fst h
  opens s _ := attempt_turn .openTransaction .opened true s
  commits s _ := attempt_turn .commit .committed false s
  rollsBack s _ := attempt_turn .rollback .rolledBack false s
  saves name s h := h ▸ attempt_send database (Dialect.savepoint name) s
  rewinds name s h := h ▸ attempt_send database (Dialect.savepointRollback name) s

end Script

/-- The outermost of two transactions in one another, on a connection whose commit fails once: the
inner one is refused, the commit is not heard of, and the rollback after it ends the outer one. -/
theorem Program.depth_balanced_failing_commit :
    let db : Database Script := ⟨Script.connection none, .flat⟩
    let p : Program Script Unit :=
      .transaction (.call .openTransaction fun _ => .done (.ok ())) fun _ =>
        .call .rollback fun _ => .done (.ok ())
    let s : SessionState Script := { link := { failures := [(.commit, "disk full")] } }
    (p.passages db s).map (fun x => (x.operation.turn?, x.after.level)) =
        [(some .start, 1), (some .start, 1), (some .commit, 1), (some .rollback, 0)] ∧
      (∀ x ∈ p.passages db s, x.Balances db Script.transactions) ∧
      ∀ x ∈ p.passages db s, x.Flat db := by
  intro db p s
  have hturns : (p.passages db s).all (·.operation.turn?.isSome) = true := by
    decide +kernel
  have hother (x : Passage Script) (hx : x ∈ p.passages db s) (hnone : x.operation.turn? = none) :
      db.connection.inTransaction x.after.link = db.connection.inTransaction x.before.link := by
    have hsome := List.all_eq_true.mp hturns x hx
    rw [hnone] at hsome
    cases hsome
  obtain ⟨hbalances, -, hflat⟩ := p.depth_balanced db Script.transactions
    (Script.connection_reliable none) s ⟨fun h => absurd h (by decide), fun h => nomatch h⟩ hother
  exact ⟨by decide +kernel, hbalances, (hflat rfl (by decide)).1⟩

end FluentSql
