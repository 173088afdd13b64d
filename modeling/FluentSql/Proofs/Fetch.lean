import FluentSql.ResultSet

/-!
# Proofs/Fetch — every row of a result is fetched once, in order

    rows       r₀ │ r₁ │ r₂ r₃ r₄ │
    fetches   next first    all     next …

A result lets go of its rows in two ways: a cursor passes over rows that stay, and a fetch of all rows
may move them out, the cursor with them.  Either way what is left is the rows behind the cursor
(`ResultSet.Leaves`), and a fetch takes its share from the front of them (`Leaves.answer`).  So a run of
fetches deals the rows out, one share after the other (`ResultSet.fetched_once`).
-/

namespace FluentSql

/-! ## Fetches and their shares -/

/-- **A way to fetch.** -/
inductive Fetch
  /-- The next row in a shape. -/
  | next (mode : FetchMode)
  /-- Every remaining row in a shape. -/
  | all (mode : FetchMode)
  /-- The next row with its names. -/
  | first
  /-- Every remaining row with its names. -/
  | rows
  /-- The first value of every remaining row that has one. -/
  | firstColumn
  deriving DecidableEq, Repr

/-- **What a fetch answers with.** -/
inductive Answer
  | next (row : Option Fetched)
  | all (rows : List Fetched)
  | first (row : Option Row)
  | rows (rows : List Row)
  | firstColumn (values : List Value)
  deriving DecidableEq, Repr

namespace Fetch

/-- Whether a fetch takes every remaining row. -/
def drains : Fetch → Bool
  | next _ | first => false
  | all _ | rows | firstColumn => true

/-- **The rows a fetch takes** of those that are left: all, or the next one if there is one. -/
def share (f : Fetch) (left : List Row) : List Row := if f.drains then left else left.take 1

/-- **A row as a shape shows it**: whole, or what stands in its columns without their names. -/
def shown : FetchMode → Row → Fetched
  | .associative, row => .associative row
  | .numeric, row => .numeric (row.columns.map Prod.snd)

/-- **The rows a fetch took, as it shows them.**  A row without columns has no first one to show. -/
def view : Fetch → List Row → Answer
  | next mode, taken => .next (taken.head?.map (shown mode))
  | all mode, taken => .all (taken.map (shown mode))
  | first, taken => .first taken.head?
  | rows, taken => .rows taken
  | firstColumn, taken => .firstColumn (taken.filterMap fun row => row.columns.head?.map Prod.snd)

/-- **The rows that each of some fetches takes**, one behind the other. -/
def shares : List Fetch → List Row → List (List Row)
  | [], _ => []
  | f :: fs, left => f.share left :: shares fs (left.drop (f.share left).length)

/-- A fetched row is in the shape it was asked for in. -/
theorem view_eq_shown (mode : FetchMode) : mode.view = shown mode := by
  cases mode <;> rfl

/-- The value at the first position is that of the first column. -/
theorem at?_zero (row : Row) : row.at? 0 = row.columns.head?.map Prod.snd := by
  rw [Row.at?, List.head?_eq_getElem?]

theorem share_nil (f : Fetch) : f.share [] = [] := by
  rw [share]
  split <;> rfl

/-- A fetch takes its share from the front. -/
theorem prefix_share (f : Fetch) (left : List Row) : f.share left <+: left := by
  rw [share]
  split
  · exact List.prefix_refl left
  · exact List.take_prefix 1 left

/-- The share of a fetch and what it leaves. -/
theorem share_append_drop (f : Fetch) (left : List Row) :
    f.share left ++ left.drop (f.share left).length = left := by
  obtain ⟨rest, hrest⟩ := f.prefix_share left
  have hdrop : left.drop (f.share left).length = rest := by
    conv => enter [1, 2]; rw [← hrest]
    exact List.drop_left
  rw [hdrop, hrest]

theorem length_shares (fs : List Fetch) (left : List Row) :
    (shares fs left).length = fs.length := by
  induction fs generalizing left with
  | nil => rfl
  | cons f fs ih => rw [shares, List.length_cons, ih, List.length_cons]

/-- **The shares of fetches, one after the other, begin the rows.** -/
theorem prefix_flatten_shares (fs : List Fetch) (left : List Row) :
    (shares fs left).flatten <+: left := by
  induction fs generalizing left with
  | nil => exact List.nil_prefix
  | cons f fs ih =>
    have hrest := ih (left.drop (f.share left).length)
    have hprefix := (List.prefix_append_right_inj (f.share left)).mpr hrest
    rwa [f.share_append_drop] at hprefix

theorem shares_nil (fs : List Fetch) : (shares fs []).flatten = [] :=
  List.prefix_nil.mp (prefix_flatten_shares fs [])

/-- **Once a fetch drains the result the shares are all the rows.** -/
theorem flatten_shares_of_drains {fs : List Fetch} {f : Fetch} (hf : f ∈ fs) (hdrains : f.drains)
    (left : List Row) : (shares fs left).flatten = left := by
  induction fs generalizing left with
  | nil => exact absurd hf List.not_mem_nil
  | cons g fs ih =>
    rw [shares, List.flatten_cons]
    rcases List.mem_cons.mp hf with rfl | hf
    · have hshare : f.share left = left := if_pos hdrains
      rw [hshare, List.drop_length, shares_nil, List.append_nil]
    · rw [ih hf, g.share_append_drop]

end Fetch

/-! ## One fetch -/

namespace ResultSet

/-- **Fetches once**: the answer, and the result after it. -/
def answer (r : ResultSet) : Fetch → Answer × ResultSet
  | .next mode => Prod.map .next id (r.fetch mode)
  | .all mode => Prod.map .all id (r.fetchAll mode)
  | .first => Prod.map .first id r.fetchFirst
  | .rows => Prod.map .rows id r.takeRemaining
  | .firstColumn => Prod.map .firstColumn id r.takeFirstColumn

/-- **What is left of a result**: the rows behind its cursor, which is not beyond the rows held. -/
structure Leaves (r : ResultSet) (left : List Row) : Prop where
  remaining : r.remaining = left
  cursor_le : r.cursor ≤ r.rows.length

/-- When nothing is left there is no next row. -/
theorem Leaves.next_nil {r : ResultSet} (h : r.Leaves []) : r.next = none := by
  rw [next, List.getElem?_eq_none (List.drop_eq_nil_iff.mp h.remaining), Option.map_none]

/-- **The next row is the first that is left**, and behind it the others are left. -/
theorem Leaves.next_cons {r : ResultSet} {row : Row} {left : List Row}
    (h : r.Leaves (row :: left)) : ∃ r', r.next = some (row, r') ∧ r'.Leaves left := by
  have hget : r.rows[r.cursor]? = some row := by
    rw [← List.head?_drop]
    exact congrArg List.head? h.remaining
  have hrest : r.rows.drop (r.cursor + 1) = left :=
    List.drop_drop.symm.trans (congrArg (List.drop 1) h.remaining)
  refine ⟨{ r with cursor := r.cursor + 1 }, ?_, hrest, (List.getElem?_eq_some_iff.mp hget).1⟩
  rw [next, hget, Option.map_some]

/-- **Fetching every row is fetching the next one until there is none.** -/
theorem fetchAll_eq (mode : FetchMode) (r : ResultSet) :
    r.fetchAll mode = match r.next with
      | some (row, r') => (mode.view row :: (r'.fetchAll mode).1, (r'.fetchAll mode).2)
      | none => ([], r) := by
  rcases Nat.lt_or_ge r.cursor r.rows.length with hlt | hge
  · have hmax : max (r.cursor + 1) r.rows.length = max r.cursor r.rows.length := by omega
    have hdrop : r.remaining = r.rows[r.cursor] :: r.rows.drop (r.cursor + 1) :=
      List.drop_eq_getElem_cons hlt
    rw [next, List.getElem?_eq_getElem hlt]
    simp only [Option.map_some, fetchAll, hdrop, List.map_cons, hmax]
    rfl
  · have hdrop : r.remaining = [] := List.drop_of_length_le hge
    rw [next, List.getElem?_eq_none hge, fetchAll, hdrop, Nat.max_eq_left hge]
    rfl

/-- Moving every row out leaves none, and the cursor at the end of those that stay. -/
theorem leaves_takeRemaining (r : ResultSet) : Leaves r.takeRemaining.2 [] :=
  ⟨List.drop_length, Nat.le_refl _⟩

/-- **A fetch answers with its share of the rows that are left**, and leaves the others. -/
theorem Leaves.answer {r : ResultSet} {left : List Row} (h : r.Leaves left) (f : Fetch) :
    (r.answer f).1 = f.view (f.share left) ∧
      (r.answer f).2.Leaves (left.drop (f.share left).length) := by
  have hall {g : Fetch} (hg : g.drains) : g.share left = r.remaining :=
    (if_pos hg).trans h.remaining.symm
  have hnone : left.drop r.remaining.length = [] := by rw [h.remaining, List.drop_length]
  cases f with
  | next mode =>
    cases left with
    | nil =>
      have hfetch : r.fetch mode = (none, r) := by rw [fetch, h.next_nil]
      rw [ResultSet.answer, hfetch]
      exact ⟨rfl, h⟩
    | cons row left =>
      obtain ⟨r', hnext, hleft⟩ := h.next_cons
      have hfetch : r.fetch mode = (some (Fetch.shown mode row), r') := by
        rw [fetch, hnext, Fetch.view_eq_shown]
      rw [ResultSet.answer, hfetch]
      exact ⟨rfl, hleft⟩
  | first =>
    cases left with
    | nil =>
      have hfetch : r.fetchFirst = (none, r) := by rw [fetchFirst, h.next_nil]
      rw [ResultSet.answer, hfetch]
      exact ⟨rfl, h⟩
    | cons row left =>
      obtain ⟨r', hnext, hleft⟩ := h.next_cons
      have hfetch : r.fetchFirst = (some row, r') := by rw [fetchFirst, hnext]
      rw [ResultSet.answer, hfetch]
      exact ⟨rfl, hleft⟩
  | all mode =>
    rw [hall rfl, hnone]
    have hfetch : (r.fetchAll mode).1 = r.remaining.map (Fetch.shown mode) := by
      rw [fetchAll, Fetch.view_eq_shown]
    refine ⟨congrArg Answer.all hfetch, List.drop_of_length_le (Nat.le_max_right _ _), ?_⟩
    exact Nat.max_le.mpr ⟨h.cursor_le, Nat.le_refl _⟩
  | rows =>
    rw [hall rfl, hnone]
    exact ⟨rfl, r.leaves_takeRemaining⟩
  | firstColumn =>
    rw [hall rfl, hnone]
    have hfetch : r.takeFirstColumn.1 =
        r.remaining.filterMap fun row => row.columns.head?.map Prod.snd := by
      simp only [takeFirstColumn, takeRemaining, Fetch.at?_zero]
    exact ⟨congrArg Answer.firstColumn hfetch, r.leaves_takeRemaining⟩

/-! ## Runs of fetches -/

/-- **Fetches one after the other**: the answers, and the result in the end. -/
def answers (r : ResultSet) : List Fetch → List Answer × ResultSet
  | [] => ([], r)
  | f :: fs =>
    let (a, r) := r.answer f
    let (as, r) := r.answers fs
    (a :: as, r)

/-- **A run of fetches answers with the share of each** and leaves what is behind the shares. -/
theorem Leaves.answers {r : ResultSet} {left : List Row} (h : r.Leaves left) (fs : List Fetch) :
    (r.answers fs).1 = List.zipWith Fetch.view fs (Fetch.shares fs left) ∧
      (r.answers fs).2.Leaves (left.drop (Fetch.shares fs left).flatten.length) := by
  induction fs generalizing r left with
  | nil => exact ⟨rfl, h⟩
  | cons f fs ih =>
    obtain ⟨hanswer, hleft⟩ := h.answer f
    obtain ⟨hanswers, hrest⟩ := ih hleft
    refine ⟨List.cons_eq_cons.mpr ⟨hanswer, hanswers⟩, ?_⟩
    rw [Fetch.shares, List.flatten_cons, List.length_append, ← List.drop_drop]
    exact hrest

/-- When nothing is left every fetch answers with nothing. -/
theorem Leaves.answers_nil {r : ResultSet} (h : r.Leaves []) (fs : List Fetch) :
    (r.answers fs).1 = fs.map (·.view []) := by
  induction fs generalizing r with
  | nil => rfl
  | cons f fs ih =>
    obtain ⟨hanswer, hleft⟩ := h.answer f
    rw [Fetch.share_nil] at hanswer hleft
    exact List.cons_eq_cons.mpr ⟨hanswer, ih hleft⟩

/-- **Every row is fetched once, in order.**  Each fetch of a fresh result shows the rows of its
share; one after the other the shares begin the rows, and are all of them once a fetch has drained the
result, after which there is nothing to fetch; and the cursor stays within the rows held. -/
theorem fetched_once (rows : List Row) (affected : UInt64) (id : Option Value)
    (fetches : List Fetch) :
    let fresh : ResultSet := { rows, affected, lastInsertId := id }
    let shares := Fetch.shares fetches rows
    let final := (fresh.answers fetches).2
    ((fresh.answers fetches).1 = List.zipWith Fetch.view fetches shares ∧
      shares.length = fetches.length) ∧
    shares.flatten <+: rows ∧
    ((∃ f ∈ fetches, f.drains) →
      shares.flatten = rows ∧ ∀ more, (final.answers more).1 = more.map (·.view [])) ∧
    final.cursor ≤ final.rows.length := by
  intro fresh shares final
  have hfresh : fresh.Leaves rows := ⟨List.drop_zero, Nat.zero_le _⟩
  obtain ⟨hanswers, hleft⟩ := hfresh.answers fetches
  refine ⟨⟨hanswers, Fetch.length_shares fetches rows⟩, Fetch.prefix_flatten_shares fetches rows,
    ?_, hleft.cursor_le⟩
  rintro ⟨f, hf, hdrains⟩
  have hall : shares.flatten = rows := Fetch.flatten_shares_of_drains hf hdrains rows
  rw [hall, List.drop_length] at hleft
  exact ⟨hall, hleft.answers_nil⟩

/-- Two rows one by one, then the first column of the others, one of which has none, and then there is
nothing to fetch. -/
theorem fetched_once_mixed :
    let rows : List Row :=
      [⟨[("a", .int 1), ("b", .null)]⟩, ⟨[("a", .int 2)]⟩, ⟨[]⟩, ⟨[("b", .int 3), ("a", .int 4)]⟩]
    let fetches : List Fetch := [.next .numeric, .first, .firstColumn, .all .associative]
    let fresh : ResultSet := { rows, affected := 0, lastInsertId := none }
    (fresh.answers fetches).1 =
      [.next (some (.numeric [.int 1, .null])), .first (some ⟨[("a", .int 2)]⟩),
        .firstColumn [.int 3], .all []] ∧
    (Fetch.shares fetches rows).flatten = rows ∧
    ((fresh.answers fetches).2.answers [.next .associative, .rows]).1 = [.next none, .rows []] := by
  intro rows fetches fresh
  obtain ⟨⟨hanswers, -⟩, -, hdrained, -⟩ := fetched_once rows 0 none fetches
  obtain ⟨hall, hnothing⟩ := hdrained ⟨.firstColumn, by decide, rfl⟩
  exact ⟨hanswers.trans (by decide), hall, hnothing [.next .associative, .rows]⟩

end ResultSet

end FluentSql
