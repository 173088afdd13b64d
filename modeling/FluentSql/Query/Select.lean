import FluentSql.Condition.Connective
import FluentSql.Query.Basic
import FluentSql.Text.Join

/-!
# Query/Select — a query written as a SELECT statement

Each clause is a keyword and its entries, or nothing when the clause is empty.  `select` puts the
clauses behind one another in the order of the statement, the row lock after the offset and the
unions last; a query without columns selects `*`.
-/

namespace FluentSql

/-- The texts of fragments with a separator between them. -/
def Fragment.join (separator : String) (fragments : List Fragment) : String :=
  Text.joinWith separator (fragments.map Fragment.sql)

namespace Query

/-- A text without the commas at its start. -/
def dropCommas : List Char → List Char
  | ',' :: ' ' :: rest => dropCommas rest
  | s => s

/-! ## One clause -/

/-- The fragments of a clause, if there are any. -/
def fragments? (q : Query) (c : Clause) : Option (List Fragment) :=
  match (q.part c).fragments with
  | [] => none
  | f :: fs => some (f :: fs)

/-- **A list of conditions** behind a keyword, the first without its connective. -/
def conditions? (q : Query) (c : Clause) (keyword : String) : Option String :=
  (q.fragments? c).map fun fs =>
    keyword ++ " " ++ Connective.dropLeadingText (Fragment.join " " fs)

/-- **A comma-separated list** behind a keyword. -/
def list? (q : Query) (c : Clause) (keyword : String) : Option String :=
  (q.fragments? c).map fun fs =>
    keyword ++ " " ++ String.ofList (dropCommas (Fragment.join ", " fs).toList)

/-- **The text of a clause**, if it holds a fragment.  Of several offsets only the first counts. -/
def clause? (q : Query) : Clause → Option String
  | .columns => (q.fragments? .columns).map (Fragment.join ", ")
  | .froms => (q.fragments? .froms).map fun fs => "FROM " ++ Fragment.join ", " fs
  | .joins => (q.fragments? .joins).map (Fragment.join " ")
  | .wheres => q.conditions? .wheres "WHERE"
  | .groups => q.list? .groups "GROUP BY"
  | .havings => q.conditions? .havings "HAVING"
  | .orders => q.list? .orders "ORDER BY"
  | .limits => (q.fragments? .limits).map fun fs => "LIMIT " ++ Fragment.join ", " fs
  | .offset => (q.part .offset).fragments.head?.map fun f => "OFFSET " ++ f.sql
  | .unions => (q.fragments? .unions).map (Fragment.join " ")

/-! ## The statement -/

/-- The clauses between the columns and the lock, in the order of the statement. -/
def middle : List Clause := [.froms, .joins, .wheres, .groups, .havings, .orders, .limits, .offset]

/-- The clauses of the statement up to its lock, the empty ones left out. -/
def body (q : Query) : List String :=
  (q.clause? .columns).getD "*" :: (middle.filterMap q.clause? ++ q.lock.toList)

/-- **The SELECT statement of a query.** -/
def select (q : Query) : String :=
  let sql := "SELECT " ++ Text.joinWith " " q.body
  match q.clause? .unions with
  | some unions => sql ++ " " ++ unions
  | none => sql

end Query

end FluentSql
