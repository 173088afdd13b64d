import FluentSql.Session.Transaction

/-!
# Proofs/Session/Play — a session read as a function of the state

`Session.play` turns each way of putting sessions together into an equation.  A statement without
values touches the connection in one go (`Connection.send`), and the level not at all
(`Database.play_command`).
-/

namespace FluentSql

variable {σ α β : Type}

namespace Session

/-! ## Putting sessions together -/

theorem play_ask (operation : Operates σ α) (s : SessionState σ) :
    play (ask operation) s = ((operation s.link).1, { s with link := (operation s.link).2 }) := rfl

/-- **A failure ends a session, with the state it has reached.** -/
theorem play_bind (x : Session σ α) (f : α → Session σ β) (s : SessionState σ) :
    play (x >>= f) s =
      match x.play s with
      | (.ok a, after) => (f a).play after
      | (.error e, after) => (.error e, after) := by
  have hbind : play (x >>= f) s = ExceptT.bindCont f (x.play s).1 (x.play s).2 := rfl
  rw [hbind]
  rcases x.play s with ⟨_ | _, after⟩ <;> rfl

/-- **A function of the answer leaves the state alone.** -/
theorem play_map (f : α → β) (x : Session σ α) (s : SessionState σ) :
    play (f <$> x) s = ((x.play s).1.map f, (x.play s).2) := by
  rw [map_eq_pure_bind, play_bind]
  rcases x.play s with ⟨_ | _, after⟩ <;> rfl

theorem play_discard (x : Session σ α) (s : SessionState σ) :
    play (discard x) s = ((x.play s).1.map fun _ => (), (x.play s).2) := play_map ..

end Session

/-! ## Statements -/

/-- **Prepares a statement and executes it**, as one operation of the connection. -/
def Connection.perform (c : Connection σ) (r : Request) : Operates σ ResultSet := fun link =>
  match c.prepare r.statement.sql link with
  | (.error e, link) => (.error e, link)
  | (.ok (), link) => c.execute r link

/-- A statement without values; whether it succeeds is all that counts. -/
def Connection.send (c : Connection σ) (sql : String) : Operates σ Unit := fun link =>
  ((c.perform ⟨⟨sql, []⟩, false⟩ link).1.map fun _ => (), (c.perform ⟨⟨sql, []⟩, false⟩ link).2)

namespace Database

variable (db : Database σ) (s : SessionState σ)

/-- Past the log a statement is what the connection makes of it. -/
theorem play_exec (st : Statement) (debug : Bool) :
    (db.exec st debug).play s =
      ((db.connection.perform ⟨st, debug⟩ s.link).1,
        { s with link := (db.connection.perform ⟨st, debug⟩ s.link).2 }) := by
  rw [exec, Session.play_bind, Session.play_ask, Connection.perform]
  rcases db.connection.prepare st.sql s.link with ⟨_ | _, link⟩ <;> rfl

/-- **A statement that succeeds goes to the log, and a failure leaves the log alone.** -/
theorem play_run (st : Statement) (debug : Bool) :
    (db.run st debug).play s =
      match db.connection.perform ⟨st, debug⟩ s.link with
      | (.ok result, link) =>
        (.ok result,
          { s with link, log := s.log.record ⟨st.sql, st.bindings, db.connection.elapsed link⟩ })
      | (.error e, link) => (.error e, { s with link }) := by
  rw [run, Session.play_bind, play_exec]
  rcases db.connection.perform ⟨st, debug⟩ s.link with ⟨_ | _, link⟩ <;> rfl

/-- **A statement without values acts on the connection and perhaps on the log.** -/
theorem play_command (sql : String) :
    ∃ log, (db.command sql).play s =
      ((db.connection.send sql s.link).1,
        { s with link := (db.connection.send sql s.link).2, log }) := by
  rw [command, Session.play_discard, statement, Session.play_bind, play_run, Connection.send]
  rcases db.connection.perform ⟨⟨sql, []⟩, false⟩ s.link with ⟨_ | _, link⟩
  · exact ⟨s.log, rfl⟩
  · exact ⟨_, rfl⟩

end Database

end FluentSql
