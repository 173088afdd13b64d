import FluentSql.Proofs.Transaction.Depth
import FluentSql.Proofs.Transaction.Snapshot

/-!
# Proofs/Transaction/Nesting — nested transactions keep a stack of snapshots

On a connection that follows an `Engine`, every call moves a stack of snapshots as its outcome
tells, and the engine shows that stack before and after it (`Leads.shows_around`).  So a rollback
brings back the data its level was opened on (`Program.refines_snapshots`).
-/

namespace FluentSql

open Database (savepointName)

variable {σ δ α : Type}

/-- **A connection that follows an engine**: what succeeds does to the engine in view what it says,
and what fails does nothing. -/
structure Connection.Follows (c : Connection σ) (view : σ → Engine δ) : Prop where
  opens : ∀ link, (view link).start = none →
    Attempt view link (view · = (view link).opened) (c.openTransaction link)
  commits : ∀ link, (view link).start ≠ none →
    Attempt view link (view · = (view link).committed) (c.commit link)
  rollsBack : ∀ link, (view link).start ≠ none →
    Attempt view link (view · = (view link).rolledBack) (c.rollback link)
  saves : ∀ name link, (view link).start ≠ none →
    Attempt view link (view · = (view link).saved name) (c.send (Dialect.savepoint name) link)
  rewinds : ∀ name link e, (view link).rewound? name = some e →
    Attempt view link (view · = e) (c.send (Dialect.savepointRollback name) link)

/-! ## One call -/

/-- **What a turn comes to**, by its outcome. -/
def Turn.move : Turn → Except QueryError α → Move δ
  | _, .error _ => .fail
  | start, .ok _ => .start
  | commit, .ok _ => .commit
  | rollback, .ok _ => .rollback

theorem Turn.move_map {β : Type} (t : Turn) (f : α → β) (r : Except QueryError α) :
    (t.move (r.map f) : Move δ) = t.move r := by
  cases r <;> cases t <;> rfl

/-- **What a call came to**: a turn moves the stack unless it failed, any other call writes data. -/
def Passage.move (view : σ → Engine δ) (x : Passage σ) : Move δ :=
  match x.operation.turn? with
  | none => .write (view x.after.link).data
  | some t => t.move x.outcome

/-- What opened a level was an opening that succeeded. -/
theorem Passage.of_move_eq_start {view : σ → Engine δ} {x : Passage σ} (h : x.move view = .start) :
    x.operation.turn? = some .start ∧ x.outcome.isOk = true := by
  rw [move] at h
  cases hturn : x.operation.turn? with
  | none => simp only [hturn] at h; cases h
  | some t =>
    simp only [hturn] at h
    cases houtcome : x.outcome with
    | error e => rw [houtcome] at h; cases h
    | ok r =>
      rw [houtcome] at h
      cases t with
      | start => exact ⟨rfl, rfl⟩
      | commit | rollback => cases h

/-- The transaction of an engine is not touched by a call. -/
def Passage.Leaves (view : σ → Engine δ) (x : Passage σ) : Prop :=
  (view x.after.link).start = (view x.before.link).start ∧
    (view x.after.link).savepoints = (view x.before.link).savepoints

namespace Database

variable {db : Database σ} {view : σ → Engine δ} {s after : SessionState σ} {t : Turn}
  {a : Snapshots δ}

/-- **What is asked of the connection moves the stack.** -/
theorem shows_request (hc : db.connection.Follows view) (hs : (view s.link).Shows s.level a)
    {ask : Operates σ Unit} (hrequest : db.request t s.level = .ok ask) :
    Attempt view s.link
      (fun link => (view link).Shows (t.levelAfter s.level) (a.step (t.move (.ok ()))))
      (ask s.link) := by
  obtain ⟨link, n, log⟩ := s
  revert hrequest hs
  -- the cases are those of the request: which call it is, and how deep
  fun_cases db.request t n <;> intro hs hrequest <;> cases hrequest
  · exact (hc.opens link hs.start_eq_none).mono fun l hl => hl ▸ hs.opened
  · exact (hc.saves _ link hs.start_ne_none).mono fun l hl => hl ▸ hs.saved
  · exact (hc.commits link hs.start_ne_none).mono fun l hl => hl ▸ hs.committed
  · exact hs.committed_nested
  · exact (hc.rollsBack link hs.start_ne_none).mono fun l hl => hl ▸ hs.rolledBack
  · obtain ⟨e, he, hshows⟩ := hs.rewound
    exact (hc.rewinds _ link e he).mono fun l hl => hl ▸ hshows

/-- **A turn moves the stack if it succeeds**, and leaves everything as it was if it fails. -/
theorem Turned.shows (hc : db.connection.Follows view) (hs : (view s.link).Shows s.level a)
    {r : Except QueryError Unit} (h : db.Turned t s r after) :
    (view after.link).Shows after.level (a.step (t.move r)) := by
  cases h with
  | refused hrequest => exact hs
  | failed log hrequest hask =>
    have hkept := shows_request hc hs hrequest
    rw [hask] at hkept
    change view _ = view s.link at hkept
    exact hkept ▸ hs
  | succeeded log hrequest hask =>
    have hmoved := shows_request hc hs hrequest
    rw [hask] at hmoved
    exact hmoved

/-- The commit of an inner level asks nothing of the connection. -/
theorem Turned.link_of_commit {r : Except QueryError Unit} (h : db.Turned .commit s r after)
    (hs : 2 ≤ s.level) : after.link = s.link := by
  obtain ⟨link, n, log⟩ := s
  obtain ⟨n, rfl⟩ := Nat.exists_eq_add_of_le' hs
  cases h with
  | refused hrequest => rfl
  | failed log hrequest hask =>
    cases hrequest
    cases hask
  | succeeded log hrequest hask =>
    cases hrequest
    cases hask
    rfl

/-- What is rolled back was opened. -/
theorem Turned.level_pos_of_rollback {u : Unit} (h : db.Turned .rollback s (.ok u) after) :
    0 < s.level := by
  cases h with
  | succeeded log hrequest hask =>
    exact Nat.lt_of_lt_of_eq (Nat.succ_pos _) (moves_of_request hrequest).symm

/-- **Every call moves the stack as its outcome tells.** -/
theorem shows_pass (hc : db.connection.Follows view) (hs : (view s.link).Shows s.level a)
    (operation : Operation σ)
    (hother : operation.turn? = none → (db.pass operation s).Leaves view) :
    (view (db.pass operation s).after.link).Shows (db.pass operation s).after.level
      (a.step ((db.pass operation s).move view)) := by
  cases hturn : operation.turn? with
  | none =>
    have hmove : (db.pass operation s).move view =
        .write (view (db.pass operation s).after.link).data := by
      rw [Passage.move, show (db.pass operation s).operation.turn? = none from hturn]
    have hlevel : (db.pass operation s).after.level = s.level := operation.steady db hturn s
    obtain ⟨hstart, hsavepoints⟩ := hother hturn
    rw [hmove, hlevel]
    exact hs.write hstart hsavepoints
  | some t =>
    obtain ⟨r, hr, hturned⟩ := db.pass_turned hturn s
    have hmove : (db.pass operation s).move view = t.move r := by
      rw [Passage.move, show (db.pass operation s).operation.turn? = some t from hturn, hr]
      exact t.move_map _ r
    rw [hmove]
    exact hturned.shows hc hs

end Database

/-! ## Whole runs -/

namespace Leads

variable {db : Database σ} {view : σ → Engine δ} {s last : SessionState σ} {a : Snapshots δ}
  {xs past future : List (Passage σ)} {x : Passage σ}

/-- **The engine shows the stack that the calls moved.** -/
theorem shows (h : Leads db s xs last) (hc : db.connection.Follows view)
    (hs : (view s.link).Shows s.level a)
    (hother : ∀ x ∈ xs, x.operation.turn? = none → x.Leaves view) :
    (view last.link).Shows last.level (a.run (xs.map (Passage.move view))) := by
  induction h generalizing a with
  | nil s => exact hs
  | @cons operation s last xs rest ih =>
    exact ih (Database.shows_pass hc hs operation (hother _ List.mem_cons_self))
      fun x hx => hother x (List.mem_cons_of_mem _ hx)

/-- **Around every call the engine shows the stack of the calls so far.** -/
theorem shows_around (h : Leads db s (past ++ x :: future) last) (hc : db.connection.Follows view)
    (hs : (view s.link).Shows s.level a)
    (hother : ∀ y ∈ past ++ x :: future, y.operation.turn? = none → y.Leaves view) :
    x = db.pass x.operation x.before ∧
      (view x.before.link).Shows x.before.level (a.run (past.map (Passage.move view))) ∧
      (view x.after.link).Shows x.after.level (a.run ((past ++ [x]).map (Passage.move view))) := by
  obtain ⟨mid, hpast, hrest⟩ := h.split
  have hbefore := hpast.shows hc hs fun y hy => hother y (List.mem_append_left _ hy)
  cases hrest with
  | cons operation rest =>
    have hx := Database.shows_pass hc hbefore operation (hother (db.pass operation mid) (by simp))
    rw [← Snapshots.run_concat] at hx
    rw [List.map_append]
    exact ⟨rfl, hbefore, hx⟩

end Leads

/-- The stack of snapshots after calls that started outside of transactions. -/
def snapshots (view : σ → Engine δ) (data : δ) (past : List (Passage σ)) : Snapshots δ :=
  Snapshots.run ⟨data, []⟩ (past.map (Passage.move view))

/-- **An opening and the level it opened**: the call succeeded, and no later one has gone below. -/
structure Passage.Opens (b : Passage σ) (later : List (Passage σ)) (n : Nat) : Prop where
  turn : b.operation.turn? = some .start
  succeeded : b.outcome.isOk = true
  level : b.after.level = n
  since : ∀ y ∈ later, n ≤ y.after.level

namespace Leads

variable {db : Database σ} {view : σ → Engine δ} {s last : SessionState σ} {data d : δ}
  {rest : List δ} {past future : List (Passage σ)} {x : Passage σ}

/-- **The innermost snapshot is the data that its level was opened on.** -/
theorem exists_opening (h : Leads db s (past ++ x :: future) last)
    (hc : db.connection.Follows view) (hs : (view s.link).Shows s.level ⟨data, []⟩)
    (hother : ∀ y ∈ past ++ x :: future, y.operation.turn? = none → y.Leaves view)
    (hsaved : (snapshots view data past).saved = d :: rest) :
    ∃ earlier b later, past = earlier ++ b :: later ∧ b.Opens later x.before.level ∧
      (view b.before.link).data = d := by
  obtain ⟨-, hbefore, -⟩ := h.shows_around hc hs hother
  have hlevel : x.before.level = rest.length + 1 :=
    hbefore.level.trans (congrArg List.length hsaved)
  have hsuffix : d :: rest <:+ (snapshots view data past).saved :=
    hsaved.symm ▸ List.suffix_refl (d :: rest)
  obtain ⟨earlierMoves, laterMoves, hmoves, hearlier, hsince⟩ := Snapshots.exists_start hsuffix
  obtain ⟨earlier, fromB, rfl, rfl, hfromB⟩ := List.map_eq_append_iff.mp hmoves
  obtain ⟨b, later, rfl, hb, rfl⟩ := List.map_eq_cons_iff.mp hfromB
  obtain ⟨hturn, hok⟩ := Passage.of_move_eq_start hb
  refine ⟨earlier, b, later, rfl, ⟨hturn, hok, ?_, fun y hy => ?_⟩, ?_⟩
  · have hrun : Leads db s (earlier ++ b :: (later ++ x :: future)) last := by simpa using h
    obtain ⟨-, -, hafter⟩ := hrun.shows_around hc hs (by simpa using hother)
    rw [hafter.level, List.map_append, List.map_singleton, Snapshots.run_concat, hearlier, hb,
      hlevel]
    rfl
  · obtain ⟨first, second, rfl⟩ := List.append_of_mem hy
    have hrun : Leads db s ((earlier ++ b :: first) ++ y :: (second ++ x :: future)) last := by
      simpa using h
    obtain ⟨-, -, hafter⟩ := hrun.shows_around hc hs (by simpa using hother)
    have hkept := hsince ((first ++ [y]).map (Passage.move view))
      ⟨second.map (Passage.move view), by simp⟩
    rw [hlevel, hafter.level]
    simpa [hb] using hkept.length_le
  · have hrun : Leads db s (earlier ++ b :: (later ++ x :: future)) last := by simpa using h
    obtain ⟨-, hopen, -⟩ := hrun.shows_around hc hs (by simpa using hother)
    rw [hopen.data, hearlier]

end Leads

/-- **A call refines the stack of snapshots** of the calls before it. -/
structure Passage.Refines (view : σ → Engine δ) (data : δ) (past : List (Passage σ))
    (x : Passage σ) : Prop where
  /-- The level is the depth of the stack. -/
  level_before : x.before.level = (snapshots view data past).saved.length
  level_after : x.after.level = (snapshots view data (past ++ [x])).saved.length
  data_before : (view x.before.link).data = (snapshots view data past).data
  data_after : (view x.after.link).data = (snapshots view data (past ++ [x])).data
  /-- The savepoint that the rollback of an inner level names is there. -/
  savepoint : x.operation.turn? = some .rollback → 2 ≤ x.before.level →
    ((view x.before.link).rewound? (savepointName x.before.level)).isSome
  /-- The commit of an inner level leaves the engine as it is. -/
  inner : x.operation.turn? = some .commit → 2 ≤ x.before.level →
    view x.after.link = view x.before.link
  /-- A rollback restores the data on which its level was opened. -/
  restores : x.operation.turn? = some .rollback → x.outcome.isOk = true →
    ∃ earlier b later, past = earlier ++ b :: later ∧ b.Opens later x.before.level ∧
      (view x.after.link).data = (view b.before.link).data

theorem Leads.refines {db : Database σ} {view : σ → Engine δ} {s last : SessionState σ} {data : δ}
    {past future : List (Passage σ)} {x : Passage σ} (h : Leads db s (past ++ x :: future) last)
    (hc : db.connection.Follows view) (hs : (view s.link).Shows s.level ⟨data, []⟩)
    (hother : ∀ y ∈ past ++ x :: future, y.operation.turn? = none → y.Leaves view) :
    x.Refines view data past := by
  obtain ⟨hx, hbefore, hafter⟩ := h.shows_around hc hs hother
  have hturned {t : Turn} (ht : x.operation.turn? = some t) :
      ∃ r, x.outcome = r.map (fun _ => .done) ∧ db.Turned t x.before r x.after := by
    rw [hx]
    exact db.pass_turned ht x.before
  refine ⟨hbefore.level, hafter.level, hbefore.data, hafter.data, fun hturn hn => ?_,
    fun hturn hn => ?_, fun hturn hok => ?_⟩
  · obtain ⟨n, hlevel⟩ := Nat.exists_eq_add_of_le' hn
    rw [hlevel] at hbefore ⊢
    obtain ⟨e, he, -⟩ := hbefore.rewound
    rw [he]
    rfl
  · obtain ⟨r, -, hcommit⟩ := hturned hturn
    exact congrArg view (hcommit.link_of_commit hn)
  · obtain ⟨r, hr, hrollback⟩ := hturned hturn
    cases r with
    | error e => rw [hr] at hok; cases hok
    | ok u =>
      have hmove : x.move view = .rollback := by
        rw [Passage.move, hturn, hr]
        rfl
      obtain ⟨d, rest, hsaved⟩ : ∃ d rest, (snapshots view data past).saved = d :: rest := by
        refine List.exists_cons_of_length_pos ?_
        exact Nat.lt_of_lt_of_eq hrollback.level_pos_of_rollback hbefore.level
      obtain ⟨earlier, b, later, hpast, hb, hdata⟩ := h.exists_opening hc hs hother hsaved
      refine ⟨earlier, b, later, hpast, hb, ?_⟩
      rw [hafter.data, hdata, List.map_append, List.map_singleton, Snapshots.run_concat, hmove]
      change (snapshots view data past).saved.headD _ = d
      rw [hsaved, List.headD_cons]

/-- **Nested transactions refine a stack of snapshots.** On a connection that follows an engine, in
a run of any program that starts outside of transactions, and whatever fails on the way: around
every call the level is the depth of the stack and the data its data, the savepoint that a rollback
names is there, the commit of an inner level leaves the engine alone, and a rollback restores the
data on which its level was opened.  All that is asked of the other calls is that they leave the
transaction and its savepoints alone. -/
theorem Program.refines_snapshots (db : Database σ) (view : σ → Engine δ)
    (hc : db.connection.Follows view) (p : Program σ α) (s : SessionState σ) (hlevel : s.level = 0)
    (hclosed : (view s.link).start = none)
    (hother : ∀ x ∈ p.passages db s, x.operation.turn? = none → x.Leaves view)
    (past : List (Passage σ)) (x : Passage σ) (future : List (Passage σ))
    (hsplit : p.passages db s = past ++ x :: future) :
    x.Refines view (view s.link).data past := by
  have hleads := p.leads db s
  rw [hsplit] at hleads hother
  refine hleads.refines hc ⟨rfl, hlevel, ?_⟩ hother
  rw [hclosed]
  exact .closed _

/-! ## An engine behind a connection

Its data is the list of statements that took effect.  A list of flags says which of the coming
requests are lost on the way. -/

namespace Engine

/-- What follows a word at the start of a text. -/
def after? (word sql : String) : Option String :=
  if word.toList.isPrefixOf sql.toList then
    some (String.ofList (sql.toList.drop word.toList.length))
  else none

/-- **What a statement does**, unless it goes back to a savepoint that is not there. -/
def obey (sql : String) (e : Engine (List String)) : Option (Engine (List String)) :=
  match after? "SAVEPOINT " sql with
  | some name => some (e.saved name)
  | none =>
    match after? "ROLLBACK TO SAVEPOINT " sql with
    | some name => e.rewound? name
    | none => some { e with data := e.data ++ [sql] }

/-- Executes a statement. -/
def execute (r : Request) : Operates (Engine (List String)) ResultSet := fun e =>
  match e.obey r.statement.sql with
  | some e' => (.ok {}, e')
  | none => (.error (.database "no such savepoint"), e)

/-- A request that is lost when the first flag is set. -/
def lossy {β : Type} (run : Operates (Engine δ) β) : Operates (List Bool × Engine δ) β
  | (true :: lost, e) => (.error (.database "connection lost"), (lost, e))
  | (lost, e) => ((run e).1, (lost.tail, (run e).2))

/-- **A connection that follows an engine** and loses requests. -/
def connection : Connection (List Bool × Engine (List String)) where
  database := none
  prepare _ link := (.ok (), link)
  execute r := lossy (execute r)
  openTransaction := lossy fun e => (.ok (), e.opened)
  commit := lossy fun e => (.ok (), e.committed)
  rollback := lossy fun e => (.ok (), e.rolledBack)
  inTransaction link := link.2.start.isSome
  lastInsertId _ link := (.ok (.int 0), link)
  elapsed _ := .zero false

theorem after?_append (word name : String) : after? word (word ++ name) = some name := by
  simp [after?]

theorem obey_savepoint (name : String) (e : Engine (List String)) :
    e.obey (Dialect.savepoint name) = some (e.saved name) := by
  rewrite [obey, Dialect.savepoint, after?_append]
  rfl

theorem obey_savepointRollback (name : String) (e : Engine (List String)) :
    e.obey (Dialect.savepointRollback name) = e.rewound? name := by
  have hother : after? "SAVEPOINT " ("ROLLBACK TO SAVEPOINT " ++ name) = none := by
    simp [after?, List.isPrefixOf]
  have hname := after?_append "ROLLBACK TO SAVEPOINT " name
  unfold obey Dialect.savepointRollback
  rewrite [hother, hname]
  rfl

theorem attempt_lossy (f : Engine δ → Engine δ) (link : List Bool × Engine δ) :
    Attempt Prod.snd link (fun after => after.2 = f link.2)
      (lossy (fun e => (.ok (), f e)) link) := by
  obtain ⟨_ | ⟨_ | _, lost⟩, e⟩ := link <;> rfl

theorem attempt_send {sql : String} {lost : List Bool} {e e' : Engine (List String)}
    (h : e.obey sql = some e') :
    Attempt Prod.snd (lost, e) (fun after => after.2 = e') (connection.send sql (lost, e)) := by
  rcases lost with - | ⟨- | -, lost⟩
  all_goals
    simp only [Connection.send, Connection.perform, connection, lossy, execute, h]
    rfl

theorem connection_follows : connection.Follows Prod.snd where
  opens link _ := attempt_lossy opened link
  commits link _ := attempt_lossy committed link
  rollsBack link _ := attempt_lossy rolledBack link
  saves name link _ := attempt_send (obey_savepoint name link.2)
  rewinds name link _ h := attempt_send ((obey_savepointRollback name link.2).trans h)

end Engine

/-- Three transactions in one another; the rollback of the second is lost on the way and made
again.  The savepoint of the third is still there by then, and the data is what the second was
opened on. -/
theorem Program.refines_snapshots_lost_rollback :
    let db : Database (List Bool × Engine (List String)) := ⟨Engine.connection, .mysql⟩
    let add (sql : String) := Operation.statement (σ := List Bool × Engine (List String)) ⟨sql, []⟩
    let third : Program (List Bool × Engine (List String)) Unit :=
      .call (add "INSERT 3") fun _ => .done (.ok ())
    let second : Program (List Bool × Engine (List String)) Unit :=
      .call (add "INSERT 2") fun _ => .transaction third fun _ => .done (.error (.notFound "none"))
    let first : Program (List Bool × Engine (List String)) Unit :=
      .call (add "INSERT 1") fun _ => .transaction second fun _ => .call .rollback fun _ =>
        .done (.ok ())
    let p : Program (List Bool × Engine (List String)) Unit :=
      .transaction first fun r => .done r
    let s : SessionState (List Bool × Engine (List String)) :=
      { link := ([false, false, false, false, false, false, true], { data := [] }) }
    (p.passages db s).map (·.after.level) = [1, 1, 2, 2, 3, 3, 2, 2, 1, 0] ∧
      ((p.session db).play s).2.link.2 = { data := ["INSERT 1"] } ∧
      ∀ past x future, p.passages db s = past ++ x :: future → x.Refines Prod.snd [] past := by
  intro db add third second first p s
  have hleaves : (p.passages db s).all (fun x => x.operation.turn?.isSome ||
      (decide (x.after.link.2.start = x.before.link.2.start) &&
        decide (x.after.link.2.savepoints = x.before.link.2.savepoints))) = true := by
    decide +kernel
  have hother (x : Passage (List Bool × Engine (List String))) (hx : x ∈ p.passages db s)
      (hnone : x.operation.turn? = none) : x.Leaves Prod.snd := by
    have hall := List.all_eq_true.mp hleaves x hx
    rw [hnone] at hall
    simpa [Passage.Leaves] using hall
  exact ⟨by decide +kernel, by decide +kernel,
    p.refines_snapshots db Prod.snd Engine.connection_follows s rfl rfl hother⟩

end FluentSql
