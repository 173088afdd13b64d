import FluentSql.Builder.Meaning
import FluentSql.Record

/-!
# Builder/Statement — the statements of a builder besides its SELECT

INSERT, UPDATE, DELETE and the two statements that ask about a SELECT.  Each begins with the
builder's recorded error, then binds its values in the order in which its text has the placeholders:
sources, joins, assignments, conditions.
-/

namespace FluentSql

/-- **What a column is set to.** -/
inductive Assignment
  | value (v : Value)
  | raw (e : Expression)
  | source (s : Source)

/-- An assignment as the text in its place and the values of that text. -/
def Assignment.resolve (t : Target) : Assignment → Except BuildError (Fragment × List Value)
  | value v => .ok (.text "?", [v])
  | raw e => .ok (.raw e.bare, e.values)
  | source s => (s.evaluate t).statement.map fun st => (.text ("(" ++ st.sql ++ ")"), st.bindings)

/-- **The assignments of one row**, each column with its text, and all their values in order. -/
def resolveRow (t : Target) :
    List (String × Assignment) → Except BuildError (List (String × Fragment) × List Value)
  | [] => .ok ([], [])
  | (column, a) :: rest => do
    let (fragment, values) ← a.resolve t
    let (row, more) ← resolveRow t rest
    return ((column, fragment) :: row, values ++ more)

namespace Builder

/-- The values of some clauses, in the given order. -/
def bindingsOf (b : Builder) (clauses : List Clause) : List Value :=
  clauses.flatMap fun c => (b.query.part c).bindings

/-! ## INSERT -/

/-- The error of a later row that sets other columns than the first. -/
def rowMismatch (index : Nat) : BuildError :=
  .invalidArgument
    ("insert row " ++ Text.ofNat index ++ " does not set the columns of the first row")

/-- **A later row in the column order of the first**, taking out one column after the other. -/
def alignRow (t : Target) (index : Nat) :
    List String → Record Assignment → Except BuildError (List (String × Fragment) × List Value)
  | [], _ => .ok ([], [])
  | column :: columns, r =>
    match r.take? column with
    | none => .error (rowMismatch index)
    | some (a, r) => do
      let (fragment, values) ← a.resolve t
      let (row, more) ← alignRow t index columns r
      return ((column, fragment) :: row, values ++ more)

/-- The rows after the first, numbered from one. -/
def alignRows (t : Target) (columns : List String) :
    Nat → List (Record Assignment) →
      Except BuildError (List (List (String × Fragment)) × List Value)
  | _, [] => .ok ([], [])
  | index, r :: rest => do
    if r.size ≠ columns.length then throw (rowMismatch index)
    let (row, values) ← alignRow t index columns r
    let (rows, more) ← alignRows t columns (index + 1) rest
    return (row :: rows, values ++ more)

/-- **INSERT of rows.**  The first row gives the columns, and every other sets the same ones in any
order.  No row, or one row of no column, inserts the defaults; several rows of no column are an
error, for the defaults are one row. -/
def insertStatement (b : Builder) (rows : List (Record Assignment)) :
    Except BuildError Statement := do
  b.check
  let d := b.target.dialect
  let sources := b.bindingsOf [.froms]
  match rows with
  | [] => return ⟨d.insert b.query [], sources⟩
  | first :: rest =>
    if first.isEmpty ∧ ¬ rest.isEmpty then
      throw (.invalidArgument "cannot insert several rows that set no columns")
    let (row, values) ← resolveRow b.target first.entries
    let (rows, more) ← alignRows b.target first.columns 1 rest
    return ⟨d.insert b.query (row :: rows), sources ++ values ++ more⟩

/-- **INSERT of the rows of a sub-query.** -/
def insertSourceStatement (b : Builder) (columns : List String) (source : Source) :
    Except BuildError Statement := do
  b.check
  let s ← b.parse source
  return ⟨b.target.dialect.insertUsing b.query columns s.sql, b.bindingsOf [.froms] ++ s.bindings⟩

/-! ## UPDATE and DELETE -/

/-- **UPDATE**, of at least one column. -/
def updateStatement (b : Builder) (values : Record Assignment) : Except BuildError Statement := do
  b.check
  if values.isEmpty then throw (.invalidArgument "update requires at least one column")
  let (row, set) ← resolveRow b.target values.entries
  return ⟨b.target.dialect.update b.query row,
    b.bindingsOf [.froms, .joins] ++ set ++ b.bindingsOf [.wheres]⟩

/-- **DELETE.** -/
def deleteStatement (b : Builder) : Except BuildError Statement := do
  b.check
  return ⟨b.query.delete, b.bindingsOf [.froms, .joins, .wheres]⟩

/-! ## Questions about a SELECT -/

/-- **How many rows the SELECT has**, its limit and offset included. -/
def countStatement (b : Builder) : Except BuildError Statement := do
  b.check
  return ⟨b.target.dialect.count b.query, b.bindings⟩

/-- **Whether the SELECT has a row.** -/
def existsStatement (b : Builder) : Except BuildError Statement := do
  let s ← b.compile
  return ⟨b.target.dialect.existence s.sql, s.bindings⟩

end Builder

end FluentSql
