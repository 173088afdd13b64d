import FluentSql.Row

/-!
# ResultSet — the outcome of one statement

A result holds the rows of a statement behind a cursor, or the number of rows it changed.  `fetch`
moves the cursor over rows that stay; `takeRemaining` moves the rows out.
-/

namespace FluentSql

/-- **The outcome of a statement.** -/
structure ResultSet where
  rows : List Row := []
  /-- The number of rows fetched so far. -/
  cursor : Nat := 0
  /-- The number of rows changed. -/
  affected : UInt64 := 0
  /-- The key the statement generated, if the connection knows it. -/
  lastInsertId : Option Value := none
  deriving DecidableEq, Repr

/-- The shape of a fetched row. -/
inductive FetchMode
  | associative
  | numeric
  deriving DecidableEq, Repr, Inhabited

/-- **A row in the shape it was fetched in**: with its names, or the values alone. -/
inductive Fetched
  | associative (row : Row)
  | numeric (values : List Value)
  deriving DecidableEq, Repr

/-- A row in a shape. -/
def FetchMode.view : FetchMode → Row → Fetched
  | associative, row => .associative row
  | numeric, row => .numeric row.values

namespace ResultSet

/-- The rows not fetched yet. -/
def remaining (r : ResultSet) : List Row := r.rows.drop r.cursor

/-! ## Fetching -/

/-- The next row, and the result past it. -/
def next (r : ResultSet) : Option (Row × ResultSet) :=
  r.rows[r.cursor]?.map fun row => (row, { r with cursor := r.cursor + 1 })

/-- **The next row in a shape.** -/
def fetch (mode : FetchMode) (r : ResultSet) : Option Fetched × ResultSet :=
  match r.next with
  | some (row, r) => (some (mode.view row), r)
  | none => (none, r)

/-- The next row with its names. -/
def fetchFirst (r : ResultSet) : Option Row × ResultSet :=
  match r.next with
  | some (row, r) => (some row, r)
  | none => (none, r)

/-- **Every remaining row in a shape.**  The rows stay. -/
def fetchAll (mode : FetchMode) (r : ResultSet) : List Fetched × ResultSet :=
  (r.remaining.map mode.view, { r with cursor := max r.cursor r.rows.length })

/-- **Moves every remaining row out.** -/
def takeRemaining (r : ResultSet) : List Row × ResultSet :=
  let kept := r.rows.take r.cursor
  (r.remaining, { r with rows := kept, cursor := kept.length })

/-- Moves every remaining row out and keeps the first value of each that has one. -/
def takeFirstColumn (r : ResultSet) : List Value × ResultSet :=
  let (rows, r) := r.takeRemaining
  (rows.filterMap (·.at? 0), r)

/-- Lets go of the rows. -/
def free (r : ResultSet) : ResultSet := { r with rows := [], cursor := 0 }

/-! ## Counts -/

/-- **The number of rows changed**, or, when none was and rows are held, the number of those. -/
def rowCount (r : ResultSet) : UInt64 :=
  if 0 < r.affected ∨ r.rows.isEmpty then r.affected else UInt64.ofNat r.rows.length

/-- The number of columns of the first row. -/
def columnCount (r : ResultSet) : Nat :=
  match r.rows with
  | [] => 0
  | row :: _ => row.size

end ResultSet

end FluentSql
