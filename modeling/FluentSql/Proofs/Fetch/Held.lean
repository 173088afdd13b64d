import FluentSql.Proofs.Fetch

/-!
# Proofs/Fetch/Held — a result counts the rows it holds

    rows           r₀   r₁   r₂   r₃
    next, next     ──── ──▸│            4 rows held
    rows                   │ moved out  2 rows held

The counts of a result are those of the rows it holds, whatever it held before.  A fetch that only
moves the cursor over its share leaves them (`answer_of_not_moves`); one that moves its share out
leaves the rows that the cursor had passed by then (`answer_of_moves`), and there is nothing to fetch
behind them.  So the rows held after a run of fetches are those passed before the first that moves rows
out (`rows_answers`), and the counts are kept just when these are enough for them (`counts_kept_iff`).
-/

namespace FluentSql

/-! ## Fetches that move rows out -/

namespace Fetch

/-- Whether a fetch moves the rows out that it takes. -/
def moves : Fetch → Bool
  | next _ | all _ | first => false
  | rows | firstColumn => true

/-- The fetches before the first that moves rows out. -/
def beforeMove (fetches : List Fetch) : List Fetch := fetches.takeWhile (!·.moves)

end Fetch

namespace ResultSet

/-- **The rows that the cursor has passed** when the first of some fetches moves rows out, or in the
end if none does. -/
def passed (r : ResultSet) (fetches : List Fetch) : Nat :=
  r.cursor + (Fetch.shares (Fetch.beforeMove fetches) r.remaining).flatten.length

/-! ## One fetch -/

/-- **The next row takes the cursor over it**; without one the result stays as it is. -/
theorem getD_next (r : ResultSet) :
    (r.next.map Prod.snd).getD r =
      { r with cursor := r.cursor + (r.remaining.take 1).length } := by
  rcases Nat.lt_or_ge r.cursor r.rows.length with hlt | hge
  · have hone : (r.remaining.take 1).length = 1 := by
      rw [remaining, List.length_take, List.length_drop]
      omega
    rw [next, List.getElem?_eq_getElem hlt, hone]
    rfl
  · have hnone : r.remaining = [] := List.drop_of_length_le hge
    rw [next, List.getElem?_eq_none hge, hnone]
    rfl

theorem snd_fetch (mode : FetchMode) (r : ResultSet) :
    (r.fetch mode).2 = (r.next.map Prod.snd).getD r := by
  rw [fetch]
  cases r.next <;> rfl

theorem snd_fetchFirst (r : ResultSet) : r.fetchFirst.2 = (r.next.map Prod.snd).getD r := by
  rw [fetchFirst]
  cases r.next <;> rfl

/-- **A fetch that moves no rows out only moves the cursor**, past its share. -/
theorem answer_of_not_moves {f : Fetch} (hf : f.moves = false) (r : ResultSet) :
    (r.answer f).2 = { r with cursor := r.cursor + (f.share r.remaining).length } := by
  cases f with
  | next mode => exact (snd_fetch mode r).trans r.getD_next
  | first => exact r.snd_fetchFirst.trans r.getD_next
  | all mode =>
    have hshare : Fetch.share (.all mode) r.remaining = r.rows.drop r.cursor := rfl
    have hmax : max r.cursor r.rows.length = r.cursor + (r.rows.length - r.cursor) := by omega
    rw [hshare, List.length_drop, ← hmax]
    rfl
  | rows => cases hf
  | firstColumn => cases hf

/-- **A fetch that moves rows out leaves those that the cursor has passed**, and nothing to fetch
behind them. -/
theorem answer_of_moves {f : Fetch} (hf : f.moves = true) (r : ResultSet) :
    (r.answer f).2 =
      { r with rows := r.rows.take r.cursor, cursor := (r.rows.take r.cursor).length } := by
  cases f with
  | next mode => cases hf
  | all mode => cases hf
  | first => cases hf
  | rows => rfl
  | firstColumn => rfl

/-- A result whose cursor stands behind its rows stays as it is. -/
theorem answer_of_drained {r : ResultSet} (h : r.cursor = r.rows.length) (f : Fetch) :
    (r.answer f).2 = r := by
  have hnone : r.remaining = [] := List.drop_of_length_le (Nat.le_of_eq h.symm)
  cases hf : f.moves with
  | false =>
    rw [answer_of_not_moves hf, hnone, f.share_nil]
    rfl
  | true =>
    have htake : r.rows.take r.cursor = r.rows := List.take_of_length_le (Nat.le_of_eq h.symm)
    rw [answer_of_moves hf, htake, ← h]

/-! ## Runs of fetches -/

theorem answers_of_drained {r : ResultSet} (h : r.cursor = r.rows.length) (fetches : List Fetch) :
    (r.answers fetches).2 = r := by
  induction fetches with
  | nil => rfl
  | cons f fetches ih =>
    have hrest : (r.answers (f :: fetches)).2 = ((r.answer f).2.answers fetches).2 := rfl
    rw [hrest, answer_of_drained h, ih]

/-- **The rows held after some fetches** are those passed before the first that moves rows out, and
all of them if none does; the result counts as many changed rows as before. -/
theorem rows_answers (r : ResultSet) (fetches : List Fetch) :
    (r.answers fetches).2.rows =
      (if ∃ f ∈ fetches, f.moves then r.rows.take (r.passed fetches) else r.rows) ∧
    (r.answers fetches).2.affected = r.affected := by
  induction fetches generalizing r with
  | nil => exact ⟨(if_neg (by simp)).symm, rfl⟩
  | cons f fetches ih =>
    have hrest : (r.answers (f :: fetches)).2 = ((r.answer f).2.answers fetches).2 := rfl
    cases hf : f.moves with
    | true =>
      have hpassed : r.passed (f :: fetches) = r.cursor := by
        simp [passed, Fetch.beforeMove, hf, Fetch.shares]
      rw [hrest, answer_of_moves hf, answers_of_drained rfl, hpassed,
        if_pos ⟨f, List.mem_cons_self, hf⟩]
      exact ⟨rfl, rfl⟩
    | false =>
      have hmove : (∃ g ∈ f :: fetches, g.moves) ↔ ∃ g ∈ fetches, g.moves := by
        simp [hf]
      let r' : ResultSet := { r with cursor := r.cursor + (f.share r.remaining).length }
      have hremaining : r'.remaining = r.remaining.drop (f.share r.remaining).length :=
        List.drop_drop.symm
      have hpassed : r.passed (f :: fetches) = r'.passed fetches := by
        have hbefore : Fetch.beforeMove (f :: fetches) = f :: Fetch.beforeMove fetches :=
          List.takeWhile_cons_of_pos (by simp [hf])
        rw [passed, passed, hremaining, hbefore, Fetch.shares, List.flatten_cons,
          List.length_append, ← Nat.add_assoc]
      rw [hrest, answer_of_not_moves hf, hpassed]
      simpa only [hmove] using ih r'

/-! ## The counts -/

/-- The number of rows changed, if there are any, and else that of the rows held. -/
theorem rowCount_eq (r : ResultSet) :
    r.rowCount = if 0 < r.affected then r.affected else UInt64.ofNat r.rows.length := by
  rw [rowCount]
  by_cases haffected : 0 < r.affected
  · rw [if_pos (.inl haffected), if_pos haffected]
  · rw [if_neg haffected]
    split
    · next h =>
      have hzero : r.affected = 0 := by
        rw [← UInt64.toNat_inj]
        rw [UInt64.lt_iff_toNat_lt] at haffected
        simpa using haffected
      have hnil : r.rows = [] := List.isEmpty_iff.mp (h.resolve_left haffected)
      rw [hzero, hnil]
      rfl
    · rfl

/-- Fewer rows are counted as fewer, as long as a word can count them. -/
theorem rowCount_eq_iff {r r' : ResultSet} (haffected : r'.affected = r.affected)
    (hle : r'.rows.length ≤ r.rows.length) (hsize : r.rows.length < UInt64.size) :
    r'.rowCount = r.rowCount ↔ 0 < r.affected ∨ r'.rows.length = r.rows.length := by
  rw [rowCount_eq, rowCount_eq, haffected]
  split
  · next h => exact iff_of_true rfl (.inl h)
  · next h =>
    rw [← UInt64.toNat_inj, UInt64.toNat_ofNat_of_lt' (Nat.lt_of_le_of_lt hle hsize),
      UInt64.toNat_ofNat_of_lt' hsize]
    exact ⟨.inr, fun hor => hor.resolve_left h⟩

/-- The first row is held as long as any is. -/
theorem columnCount_take_iff {r r' : ResultSet} {n : Nat} (hrows : r'.rows = r.rows.take n) :
    r'.columnCount = r.columnCount ↔ 0 < n ∨ r.columnCount = 0 := by
  rw [columnCount, columnCount, hrows]
  cases n with
  | zero => simp [eq_comm]
  | succ n => cases r.rows <;> simp

/-- **Which counts a run of fetches keeps.**  The rows held in the end are those passed before the
first fetch that moves rows out.  So the row count is kept unless rows were left for that fetch and it
is rows held that are counted, and the column count unless the first row with its columns was left. -/
theorem counts_kept_iff (r : ResultSet) (hsize : r.rows.length < UInt64.size)
    (fetches : List Fetch) :
    let final := (r.answers fetches).2
    let moved := ∃ f ∈ fetches, f.moves
    (final.rows = if moved then r.rows.take (r.passed fetches) else r.rows) ∧
    (final.rowCount = r.rowCount ↔
      moved → 0 < r.affected ∨ r.rows.length ≤ r.passed fetches) ∧
    (final.columnCount = r.columnCount ↔
      moved → 0 < r.passed fetches ∨ r.columnCount = 0) := by
  intro final moved
  obtain ⟨hrows, haffected⟩ := r.rows_answers fetches
  refine ⟨hrows, ?_⟩
  by_cases hmoved : moved
  · have htake : final.rows = r.rows.take (r.passed fetches) := hrows.trans (if_pos hmoved)
    have hlength : final.rows.length = min (r.passed fetches) r.rows.length := by
      rw [htake, List.length_take]
    have hle : final.rows.length ≤ r.rows.length := hlength ▸ Nat.min_le_right _ _
    simp only [hmoved, forall_const]
    refine ⟨(rowCount_eq_iff haffected hle hsize).trans (or_congr_right ?_),
      columnCount_take_iff htake⟩
    rw [hlength]
    omega
  · have hall : final.rows = r.rows := hrows.trans (if_neg hmoved)
    refine ⟨iff_of_true ?_ fun h => absurd h hmoved, iff_of_true ?_ fun h => absurd h hmoved⟩
    · exact (rowCount_eq_iff haffected (Nat.le_of_eq (congrArg List.length hall)) hsize).mpr
        (.inr (congrArg List.length hall))
    · rw [columnCount, columnCount, hall]

/-- A row is fetched and the others are moved out: one row is counted in place of three, the columns
are those of that row. -/
theorem counts_kept_iff_mixed :
    let result : ResultSet :=
      { rows := [⟨[("a", .int 1), ("b", .null)]⟩, ⟨[("a", .int 2)]⟩, ⟨[]⟩] }
    let fetches : List Fetch := [.next .numeric, .firstColumn, .all .associative]
    let final := (result.answers fetches).2
    result.rows.length < UInt64.size ∧ result.passed fetches = 1 ∧
      final.rowCount ≠ result.rowCount ∧ final.columnCount = result.columnCount := by
  intro result fetches final
  have hsize : result.rows.length < UInt64.size := by decide
  obtain ⟨-, hcount, hcolumns⟩ := result.counts_kept_iff hsize fetches
  refine ⟨hsize, by decide, fun hkept => ?_, hcolumns.mpr fun _ => .inl (by decide)⟩
  exact absurd (hcount.mp hkept ⟨.firstColumn, by decide, rfl⟩) (by decide)

/-- **Rows moved out are counted no more**, while rows that a cursor passed over are. -/
theorem counts_moved_out :
    let result : ResultSet := { rows := [⟨[("a", .int 1)]⟩, ⟨[("a", .int 2)]⟩] }
    let moved := (result.answers [.rows]).2
    let passed := (result.answers [.all .associative]).2
    (result.rowCount = 2 ∧ result.columnCount = 1) ∧
      (moved.rowCount = 0 ∧ moved.columnCount = 0) ∧
      passed.rowCount = 2 ∧ passed.columnCount = 1 := by
  decide

end ResultSet

end FluentSql
