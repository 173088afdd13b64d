import FluentSql.Dialect.Quote
import FluentSql.Query.Select

/-!
# Dialect/Template — the statements around a query

A SELECT is the query alone.  The templates here write the others: they take from the query its
sources, joins and conditions, quote the columns they are given, and put the given value texts in
place as they are.
-/

namespace FluentSql

/-- The sources of a query without their keyword. -/
def Query.table (q : Query) : String := Fragment.join ", " (q.part .froms).fragments

/-- An optional clause behind a space. -/
def Query.spaced (clause : Option String) : String :=
  match clause with
  | some sql => " " ++ sql
  | none => ""

/-- **The DELETE statement of a query.** -/
def Query.delete (q : Query) : String :=
  "DELETE " ++ Text.joinWith " " ([.froms, .joins, .wheres].filterMap q.clause?)

namespace Dialect

/-- **The UPDATE statement of a query** that sets columns to value texts. -/
def update (d : Dialect) (q : Query) (assignments : List (String × Fragment)) : String :=
  "UPDATE " ++ q.table ++ Query.spaced (q.clause? .joins) ++ " SET " ++
    Text.joinWith ", " (assignments.map fun (c, value) => d.quoteColumn c ++ " = " ++ value.sql) ++
    Query.spaced (q.clause? .wheres)

/-- The values of one inserted row in parentheses. -/
def tuple (row : List (String × Fragment)) : String :=
  "(" ++ Text.joinWith ", " (row.map fun (_, value) => value.sql) ++ ")"

/-- **The INSERT statement of a query** — the columns of the first row, then one tuple a row;
without a first column it inserts the defaults. -/
def insert (d : Dialect) (q : Query) : List (List (String × Fragment)) → String
  | [] | [] :: _ => "INSERT INTO " ++ q.table ++ " DEFAULT VALUES"
  | (entry :: first) :: rest =>
    "INSERT INTO " ++ q.table ++ " (" ++ d.columnList ((entry :: first).map Prod.fst) ++
      ") VALUES " ++ Text.joinWith ", " (((entry :: first) :: rest).map tuple)

/-- The INSERT statement that takes its rows from a SELECT. -/
def insertUsing (d : Dialect) (q : Query) (columns : List String) (sql : String) : String :=
  "INSERT INTO " ++ q.table ++ " (" ++ d.columnList columns ++ ") " ++ sql

/-- **The statement that counts the rows of a query.** -/
def count (d : Dialect) (q : Query) : String :=
  "SELECT " ++ d.aliased "COUNT(*)" "aggregate" ++ " FROM " ++
    d.aliased ("(" ++ q.select ++ ")") "aggregate_table"

/-- The statement that tells whether a SELECT has a row. -/
def existence (d : Dialect) (sql : String) : String :=
  "SELECT " ++ d.aliased ("EXISTS(" ++ sql ++ ")") "exists"

/-! ## Savepoints -/

/-- Opens a savepoint. -/
def savepoint (name : String) : String := "SAVEPOINT " ++ name

/-- Undoes everything since a savepoint. -/
def savepointRollback (name : String) : String := "ROLLBACK TO SAVEPOINT " ++ name

end Dialect

end FluentSql
