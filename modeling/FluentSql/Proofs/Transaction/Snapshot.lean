import FluentSql.Proofs.Decimal
import FluentSql.Session.Transaction
import Mathlib.Data.List.Induction

/-!
# Proofs/Transaction/Snapshot — a stack of snapshots, kept in savepoints

`Snapshots` is what nested transactions mean: the data, and for each open level the data it was
opened on.  An `Engine` has one snapshot for its transaction and a pile of savepoints under names
that repeat, where old ones are left behind by inner commits and by going back.  `Held` finds the
stack in the pile: the newest savepoint named for a level is the one that opened it, since nothing
above it bears the name of that level or of one further out.
-/

namespace FluentSql

open Database (savepointName)

variable {δ : Type}

/-! ## What nested transactions mean -/

/-- **The data, and the snapshots of the open levels**, innermost first. -/
structure Snapshots (δ : Type) where
  data : δ
  saved : List δ := []

/-- **What a call comes to.** -/
inductive Move (δ : Type)
  | start
  | commit
  | rollback
  /-- The data is left in a new state. -/
  | write (data : δ)
  /-- A transaction call that fails. -/
  | fail

namespace Snapshots

/-- **Opening saves the data, a commit forgets the last snapshot, a rollback goes back to it.** -/
def step (a : Snapshots δ) : Move δ → Snapshots δ
  | .start => { a with saved := a.data :: a.saved }
  | .commit => { a with saved := a.saved.tail }
  | .rollback => { data := a.saved.headD a.data, saved := a.saved.tail }
  | .write data => { a with data }
  | .fail => a

/-- Moves one after the other. -/
def run (a : Snapshots δ) (moves : List (Move δ)) : Snapshots δ := moves.foldl step a

theorem run_concat (a : Snapshots δ) (moves : List (Move δ)) (m : Move δ) :
    a.run (moves ++ [m]) = (a.run moves).step m := List.foldl_append ..

/-- A move other than an opening puts nothing on the stack. -/
theorem suffix_of_step {a : Snapshots δ} {m : Move δ} {saved : List δ} (hm : m ≠ .start)
    (h : saved <:+ (a.step m).saved) : saved <:+ a.saved := by
  cases m with
  | start => exact absurd rfl hm
  | commit | rollback => exact h.trans (List.tail_suffix a.saved)
  | write data => exact h
  | fail => exact h

/-- **Every snapshot was taken by an opening that found the data and the stack under it**, and has
been on the stack since. -/
theorem exists_start {data d : δ} {rest : List δ} {moves : List (Move δ)}
    (h : d :: rest <:+ (run ⟨data, []⟩ moves).saved) :
    ∃ earlier later, moves = earlier ++ .start :: later ∧ run ⟨data, []⟩ earlier = ⟨d, rest⟩ ∧
      ∀ between, between <+: later →
        d :: rest <:+ (run ⟨data, []⟩ (earlier ++ .start :: between)).saved := by
  induction moves using List.reverseRecOn with
  | nil => exact absurd (List.suffix_nil.mp h) (List.cons_ne_nil d rest)
  | append_singleton moves m ih =>
    -- the last move took the snapshot, or it was on the stack before
    have hlast (hbefore : d :: rest <:+ (run ⟨data, []⟩ moves).saved) :
        ∃ earlier later, moves ++ [m] = earlier ++ .start :: later ∧
          run ⟨data, []⟩ earlier = ⟨d, rest⟩ ∧ ∀ between, between <+: later →
            d :: rest <:+ (run ⟨data, []⟩ (earlier ++ .start :: between)).saved := by
      obtain ⟨earlier, later, rfl, hearlier, hlater⟩ := ih hbefore
      refine ⟨earlier, later ++ [m], by simp, hearlier, fun between hbetween => ?_⟩
      rcases List.prefix_concat_iff.mp hbetween with rfl | hbetween
      · simpa using h
      · exact hlater between hbetween
    rw [run_concat] at h
    by_cases hm : m = .start
    · subst hm
      rcases List.suffix_cons_iff.mp h with heq | hbefore
      · obtain ⟨rfl, rfl⟩ := List.cons.inj heq
        refine ⟨moves, [], rfl, rfl, fun between hbetween => ?_⟩
        rw [List.prefix_nil.mp hbetween, run_concat]
        exact List.suffix_refl _
      · exact hlast hbefore
    · exact hlast (suffix_of_step hm h)

end Snapshots

/-! ## What a database does -/

/-- **A database engine with savepoints**, the newest first. -/
structure Engine (δ : Type) where
  data : δ
  /-- The data on which the transaction was opened, if one is open. -/
  start : Option δ := none
  savepoints : List (String × δ) := []
  deriving DecidableEq, Repr

namespace Engine

/-- A transaction is opened. -/
def opened (e : Engine δ) : Engine δ := { e with start := some e.data, savepoints := [] }

/-- The transaction is committed, and its savepoints are forgotten. -/
def committed (e : Engine δ) : Engine δ := { e with start := none, savepoints := [] }

/-- The transaction is rolled back, and its savepoints are forgotten. -/
def rolledBack (e : Engine δ) : Engine δ := { data := e.start.getD e.data }

/-- The data is saved under a name. -/
def saved (e : Engine δ) (name : String) : Engine δ :=
  { e with savepoints := (name, e.data) :: e.savepoints }

/-- **The newest savepoint of a name is gone back to and kept**; later ones are forgotten. -/
def rewound? (e : Engine δ) (name : String) : Option (Engine δ) :=
  match e.savepoints.dropWhile (·.1 != name) with
  | [] => none
  | point :: earlier => some { e with data := point.2, savepoints := point :: earlier }

end Engine

/-! ## The stack in the pile -/

theorem savepointName_injective {m n : Nat} (h : savepointName m = savepointName n) : m = n :=
  Text.ofNat_injective (String.append_right_inj _ |>.mp h)

/-- **A pile of savepoints holds a stack**: the snapshot of the outermost level is the engine's,
that of a deeper level stands under its name with no savepoint of that level or of one further out
above it. -/
inductive Held : Option δ → List (String × δ) → List δ → Prop
  | closed (pile : List (String × δ)) : Held none pile []
  | outermost (d : δ) (pile : List (String × δ)) : Held (some d) pile [d]
  | nested {start : Option δ} {earlier later : List (String × δ)} {d : δ} {rest : List δ}
    (hlater : ∀ p ∈ later, ∀ n ≤ rest.length + 1, p.1 ≠ savepointName n) (hrest : rest ≠ [])
    (hheld : Held start earlier rest) :
    Held start (later ++ (savepointName (rest.length + 1), d) :: earlier) (d :: rest)

namespace Held

variable {start : Option δ} {pile : List (String × δ)} {stack rest : List δ} {d : δ}

/-- **Savepoints of deeper levels may pile up.** -/
theorem under (h : Held start pile stack) {more : List (String × δ)}
    (hmore : ∀ p ∈ more, ∀ n ≤ stack.length, p.1 ≠ savepointName n) :
    Held start (more ++ pile) stack := by
  cases h with
  | closed => exact .closed _
  | outermost => exact .outermost _ _
  | @nested _ earlier later d rest hlater hrest hheld =>
    rw [← List.append_assoc]
    refine .nested (fun p hp => ?_) hrest hheld
    rcases List.mem_append.mp hp with hp | hp
    · exact hmore p hp
    · exact hlater p hp

theorem start_eq_none (h : Held start pile []) : start = none := by
  cases h
  rfl

theorem start_eq_some (h : Held start pile [d]) : start = some d := by
  cases h with
  | outermost => rfl
  | nested _ hrest _ => exact absurd rfl hrest

theorem start_ne_none (h : Held start pile stack) (hstack : stack ≠ []) : start ≠ none := by
  induction h with
  | closed => exact absurd rfl hstack
  | outermost => exact Option.some_ne_none _
  | nested _ hrest _ ih => exact ih hrest

/-- **The savepoint of the innermost level is the newest of its name**, and under it the rest of the
stack is held. -/
theorem exists_newest (h : Held start pile (d :: rest)) (hrest : rest ≠ []) :
    ∃ earlier, pile.dropWhile (·.1 != savepointName (rest.length + 1)) =
        (savepointName (rest.length + 1), d) :: earlier ∧ Held start earlier rest := by
  cases h with
  | outermost => exact absurd rfl hrest
  | @nested _ earlier later _ _ hlater _ hheld =>
    refine ⟨earlier, ?_, hheld⟩
    rw [List.dropWhile_append_of_pos fun p hp => by
      simpa using hlater p hp (rest.length + 1) (Nat.le_refl _)]
    exact List.dropWhile_cons_of_neg (by simp)

/-- A savepoint of the next level may stay behind. -/
theorem left_behind (h : Held start pile rest) (d : δ) :
    Held start ((savepointName (rest.length + 1), d) :: pile) rest := by
  have hdeeper : ∀ p ∈ [(savepointName (rest.length + 1), d)], ∀ n ≤ rest.length,
      p.1 ≠ savepointName n := by
    intro p hp n hn heq
    rw [List.mem_singleton.mp hp] at heq
    have := savepointName_injective heq
    omega
  exact h.under hdeeper

/-- **The outer levels do not need the savepoint of an inner one.** -/
theorem tail (h : Held start pile (d :: rest)) (hrest : rest ≠ []) : Held start pile rest := by
  cases h with
  | outermost => exact absurd rfl hrest
  | nested hlater _ hheld =>
    exact (hheld.left_behind d).under fun p hp n hn => hlater p hp n (Nat.le_succ_of_le hn)

end Held

/-! ## Engines that show a stack -/

/-- **An engine shows a stack of snapshots at a level.** -/
structure Engine.Shows (e : Engine δ) (level : Nat) (a : Snapshots δ) : Prop where
  data : e.data = a.data
  level : level = a.saved.length
  held : Held e.start e.savepoints a.saved

namespace Engine.Shows

variable {e e' : Engine δ} {n : Nat} {a : Snapshots δ}

theorem start_eq_none (h : e.Shows 0 a) : e.start = none := by
  have hsaved : a.saved = [] := List.length_eq_zero_iff.mp h.level.symm
  exact (hsaved ▸ h.held).start_eq_none

theorem start_ne_none (h : e.Shows (n + 1) a) : e.start ≠ none :=
  h.held.start_ne_none (List.ne_nil_of_length_eq_add_one h.level.symm)

/-- The stack of the outermost level. -/
theorem saved_of_one (h : e.Shows 1 a) : ∃ d, a.saved = [d] ∧ e.start = some d := by
  obtain ⟨d, hsaved⟩ := List.length_eq_one_iff.mp h.level.symm
  exact ⟨d, hsaved, (hsaved ▸ h.held).start_eq_some⟩

/-- The stack of a deeper level. -/
theorem saved_of_nested (h : e.Shows (n + 2) a) :
    ∃ d rest, a.saved = d :: rest ∧ rest.length = n + 1 ∧ rest ≠ [] ∧
      Held e.start e.savepoints (d :: rest) := by
  obtain ⟨d, rest, hsaved⟩ := List.exists_cons_of_length_eq_add_one h.level.symm
  have hlength : rest.length = n + 1 := by
    have := h.level
    rw [hsaved, List.length_cons] at this
    omega
  exact ⟨d, rest, hsaved, hlength, List.ne_nil_of_length_eq_add_one hlength, hsaved ▸ h.held⟩

theorem opened (h : e.Shows 0 a) : e.opened.Shows 1 (a.step .start) := by
  have hsaved : a.saved = [] := List.length_eq_zero_iff.mp h.level.symm
  refine ⟨h.data, by simp [Snapshots.step, hsaved], ?_⟩
  rw [Snapshots.step, hsaved, ← h.data]
  exact .outermost _ _

/-- **A savepoint opens a level.** -/
theorem saved (h : e.Shows (n + 1) a) :
    (e.saved (savepointName (n + 2))).Shows (n + 2) (a.step .start) := by
  have hlevel : n + 1 = a.saved.length := h.level
  refine ⟨h.data, by simp [Snapshots.step, ← hlevel], ?_⟩
  have hnested : Held e.start ([] ++ (savepointName (a.saved.length + 1), e.data) :: e.savepoints)
      (e.data :: a.saved) :=
    .nested (by simp) (List.ne_nil_of_length_eq_add_one hlevel.symm) h.held
  rw [← hlevel, h.data] at hnested
  rw [Engine.saved, h.data]
  exact hnested

theorem committed (h : e.Shows 1 a) : e.committed.Shows 0 (a.step .commit) := by
  obtain ⟨d, hsaved, -⟩ := h.saved_of_one
  refine ⟨h.data, by simp [Snapshots.step, hsaved], ?_⟩
  rw [Snapshots.step, hsaved]
  exact .closed _

/-- **The commit of an inner level asks nothing of the engine.** -/
theorem committed_nested (h : e.Shows (n + 2) a) : e.Shows (n + 1) (a.step .commit) := by
  obtain ⟨d, rest, hsaved, hlength, hrest, hheld⟩ := h.saved_of_nested
  refine ⟨h.data, by simp [Snapshots.step, hsaved, hlength], ?_⟩
  rw [Snapshots.step, hsaved]
  exact hheld.tail hrest

theorem rolledBack (h : e.Shows 1 a) : e.rolledBack.Shows 0 (a.step .rollback) := by
  obtain ⟨d, hsaved, hstart⟩ := h.saved_of_one
  refine ⟨by simp [Engine.rolledBack, Snapshots.step, hsaved, hstart],
    by simp [Snapshots.step, hsaved], ?_⟩
  rw [Snapshots.step, hsaved]
  exact .closed _

/-- **The savepoint of an inner level is there, and going back to it undoes the level.** -/
theorem rewound (h : e.Shows (n + 2) a) :
    ∃ e', e.rewound? (savepointName (n + 2)) = some e' ∧ e'.Shows (n + 1) (a.step .rollback) := by
  obtain ⟨d, rest, hsaved, hlength, hrest, hheld⟩ := h.saved_of_nested
  obtain ⟨earlier, hdrop, hearlier⟩ := hheld.exists_newest hrest
  rw [hlength] at hdrop
  refine ⟨{ e with data := d, savepoints := (savepointName (n + 2), d) :: earlier },
    by rw [rewound?, hdrop], ?_, ?_, ?_⟩
  · rw [Snapshots.step, hsaved, List.headD_cons]
  · rw [Snapshots.step, hsaved, List.tail_cons, hlength]
  · rw [Snapshots.step, hsaved, List.tail_cons]
    have hbehind := hearlier.left_behind d
    rw [hlength] at hbehind
    exact hbehind

/-- Data may change inside a level. -/
theorem write (h : e.Shows n a) (hstart : e'.start = e.start)
    (hsavepoints : e'.savepoints = e.savepoints) : e'.Shows n (a.step (.write e'.data)) := by
  refine ⟨rfl, h.level, ?_⟩
  rw [hstart, hsavepoints]
  exact h.held

end Engine.Shows

end FluentSql
