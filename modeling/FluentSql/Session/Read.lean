import FluentSql.Builder.Statement
import FluentSql.Session.Basic

/-!
# Session/Read — reading rows, values and pages

Each read compiles its builder first, so a build error reaches no connection.  `get` and `first` fail
when they find no row and the builder asks for one.
-/

namespace FluentSql

/-- **One page of a query** with the number of rows of all pages. -/
structure Page where
  items : List Row
  total : UInt64
  currentPage : UInt64
  perPage : UInt64
  lastPage : UInt64
  deriving DecidableEq, Repr

/-- The page as JSON. -/
def Page.toJson (p : Page) : Json :=
  .object [("items", .array (p.items.map Row.toJson)), ("total", .ofUInt64 p.total),
    ("current_page", .ofUInt64 p.currentPage), ("per_page", .ofUInt64 p.perPage),
    ("last_page", .ofUInt64 p.lastPage)]

namespace Database

variable {σ : Type}

/-- Fails with the builder's message when nothing was found. -/
def guardFound (b : Builder) (found : Bool) : Session σ Unit :=
  match b.notFound with
  | some message => if found then pure () else throw (.notFound message)
  | none => pure ()

/-- **Every row.** -/
def get (db : Database σ) (b : Builder) : Session σ (List Row) := do
  let rows := (← db.runBuilt b b.compile).takeRemaining.1
  guardFound b !rows.isEmpty
  return rows

/-- **The first row**, limited to one by the statement. -/
def first (db : Database σ) (b : Builder) : Session σ (Option Row) := do
  let b := b.call (.limit 1)
  let row := (← db.runBuilt b b.compile).fetchFirst.1
  guardFound b row.isSome
  return row

/-- **The first row with a value in a column.** -/
def findBy (db : Database σ) (b : Builder) (column : String) (value : Value) :
    Session σ (Option Row) :=
  db.first (b.call (.condition .wheres .and (.compare ⟨column, none, value⟩)))

/-- The row with a key. -/
def find (db : Database σ) (b : Builder) (id : Value) : Session σ (Option Row) :=
  db.findBy b "id" id

/-- A builder that selects one column only. -/
def onlyColumn (b : Builder) (column : String) : Builder :=
  { b with query := b.query.reset .columns }.call (.select [column])

/-- **The value of a column** in the first row. -/
def value (db : Database σ) (b : Builder) (column : String) : Session σ (Option Value) := do
  return (← db.first (onlyColumn b column)).bind (·.at? 0)

/-- Whether a value counts as true: a set flag, or an integer other than zero. -/
def isTrue : Option Value → Bool
  | some (.bool flag) => flag
  | some v => match v.toInt64? with
    | some n => n != 0
    | none => false
  | none => false

/-- **Whether the query has a row.** -/
def existsRow (db : Database σ) (b : Builder) : Session σ Bool := do
  return isTrue (← db.runBuilt b b.existsStatement).takeFirstColumn.1.head?

/-- A value as a count: what is no integer, or negative, counts as zero. -/
def asCount (v : Option Value) : UInt64 :=
  match v.bind Value.toInt64? with
  | some n => UInt64.ofNat n.toInt.toNat
  | none => 0

/-- **The number of rows**, within the limit and offset of the query. -/
def count (db : Database σ) (b : Builder) : Session σ UInt64 := do
  return asCount (← db.runBuilt b b.countStatement).takeFirstColumn.1.head?

/-- **One page**, and then the count of the query as it was. -/
def getPage (db : Database σ) (b : Builder) : Session σ Page := do
  let perPage := max (b.perPage.getD defaultPerPage) 1
  let page := max (b.page.getD 1) 1
  let items ← db.get (b.call (.forPage page perPage))
  let total ← db.count b
  return ⟨items, total, page, perPage, lastPage total perPage⟩

end Database

end FluentSql
