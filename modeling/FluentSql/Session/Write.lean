import FluentSql.Builder.Statement
import FluentSql.Calendar
import FluentSql.InsertId
import FluentSql.Session.Basic

/-!
# Session/Write — inserting, updating and deleting

Each write compiles its statement, runs it and answers with the number of rows it changed.  Deleting
softly stamps a column with the time instead, which the caller gives.
-/

namespace FluentSql.Database

variable {σ : Type}

/-- Runs a write and counts the rows it changed. -/
def write (db : Database σ) (b : Builder) (s : Except BuildError Statement) : Session σ UInt64 := do
  return (← db.runBuilt b s).rowCount

/-! ## Inserting -/

/-- **Inserts rows** in one statement. -/
def insertMany (db : Database σ) (b : Builder) (rows : List (Record Assignment)) :
    Session σ UInt64 := db.write b (b.insertStatement rows)

/-- Inserts one row. -/
def insert (db : Database σ) (b : Builder) (row : Record Assignment) : Session σ UInt64 :=
  db.insertMany b [row]

/-- **Inserts one row and reads its generated key.** -/
def insertGetId (db : Database σ) (b : Builder) (row : Record Assignment)
    (sequence : Option String) : Session σ InsertId := do
  discard (db.insert b row)
  return InsertId.ofValue (← Session.ask (db.connection.lastInsertId sequence))

/-- Inserts the rows of a sub-query. -/
def insertSource (db : Database σ) (b : Builder) (columns : List String) (source : Source) :
    Session σ UInt64 := db.write b (b.insertSourceStatement columns source)

/-! ## Updating and deleting -/

/-- **Sets columns of the matching rows.** -/
def update (db : Database σ) (b : Builder) (values : Record Assignment) : Session σ UInt64 :=
  db.write b (b.updateStatement values)

/-- Sets one column. -/
def setColumn (db : Database σ) (b : Builder) (column : String) (value : Value) :
    Session σ UInt64 := db.update b (Record.empty.set column (.value value))

/-- A column changed by an amount, and further assignments, which win. -/
def stepped (b : Builder) (column sign : String) (amount : Value) (extra : Record Assignment) :
    Record Assignment :=
  (Record.empty.set column
    (.raw ⟨b.target.dialect.quoteColumn column ++ " " ++ sign ++ " ?", some amount⟩)).merge extra

/-- Adds an amount to a column. -/
def increment (db : Database σ) (b : Builder) (column : String) (amount : Value)
    (extra : Record Assignment) : Session σ UInt64 :=
  db.update b (stepped b column "+" amount extra)

/-- Subtracts an amount from a column. -/
def decrement (db : Database σ) (b : Builder) (column : String) (amount : Value)
    (extra : Record Assignment) : Session σ UInt64 :=
  db.update b (stepped b column "-" amount extra)

/-- **Deletes the matching rows.** -/
def delete (db : Database σ) (b : Builder) : Session σ UInt64 := db.write b b.deleteStatement

/-! ## Deleting softly -/

/-- The column that marks a row as deleted. -/
def deletedColumn : String := "deleted_at"

/-- The format of its mark. -/
def deletedFormat : String := "%Y-%m-%d %H:%M:%S"

/-- A time written by a format, which has to be a valid one. -/
def stamp (time : DateTime) (format : String) : Except BuildError Value :=
  match time.format? format.toList with
  | some s => .ok (.text (String.ofList s))
  | none => .error (.invalidArgument ("invalid timestamp format `" ++ format ++ "`"))

/-- **Stamps a column of the matching rows with a time.** -/
def softDeleteColumn (db : Database σ) (b : Builder) (time : DateTime) (column format : String) :
    Session σ UInt64 := do
  db.setColumn b column (← Session.built (stamp time format))

/-- Marks the matching rows as deleted. -/
def softDelete (db : Database σ) (b : Builder) (time : DateTime) : Session σ UInt64 :=
  db.softDeleteColumn b time deletedColumn deletedFormat

/-- Clears a column of the matching rows. -/
def restoreColumn (db : Database σ) (b : Builder) (column : String) : Session σ UInt64 :=
  db.setColumn b column .null

/-- Takes the mark off the matching rows. -/
def restore (db : Database σ) (b : Builder) : Session σ UInt64 := db.restoreColumn b deletedColumn

end FluentSql.Database
