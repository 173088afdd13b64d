import FluentSql.Builder.Join
import FluentSql.Query.Direction

/-!
# Builder/Call — the calls of the fluent interface

A `Call` is one step of building a query, as data.  Sub-queries are sources, and a source can hold
calls again, so calls nest to any depth: in a group of conditions, a sub-query on the caller's
builder, or a query prepared beforehand, perhaps for another database.
-/

namespace FluentSql

/-! ## The words of a call -/

/-- The clauses that hold conditions. -/
inductive Zone
  | wheres
  | havings
  deriving DecidableEq, Repr

/-- The clause of a zone. -/
def Zone.clause : Zone → Clause
  | wheres => .wheres
  | havings => .havings

/-- The clauses that list columns behind a keyword. -/
inductive Listing
  | groups
  | orders
  deriving DecidableEq, Repr

/-- The clause of a listing. -/
def Listing.clause : Listing → Clause
  | groups => .groups
  | orders => .orders

/-- How many rows of a sub-query a comparison has to hold for. -/
inductive Quantifier
  | any
  | all
  | some
  deriving DecidableEq, Repr

/-- The keyword of a quantifier. -/
def Quantifier.keyword : Quantifier → String
  | any => "ANY"
  | all => "ALL"
  | some => "SOME"

/-- The row locks a dialect may have. -/
inductive RowLock
  | exclusive
  | shared
  deriving DecidableEq, Repr

/-- The name of the call that asks for a lock. -/
def RowLock.method : RowLock → String
  | exclusive => "lock_for_update"
  | shared => "shared_lock"

/-- The lock clause of a dialect, if it has one. -/
def Dialect.lock? (d : Dialect) : RowLock → Option String
  | .exclusive => d.exclusiveLock
  | .shared => d.sharedLock

/-! ## Calls, conditions and sources -/

mutual

/-- **One call.** -/
inductive Call
  /-- Fragments and values put into a clause as they are. -/
  | push (clause : Clause) (fragments : List Fragment) (values : List Value)
  /-- One clause of a nested query as a group. -/
  | nest (calls : List Call) (clause : Clause) (link : Connective)
  /-- Reads that find no row fail with a message. -/
  | throws (message : String)
  | debug (on : Bool)
  /-- Tables, each perhaps with an alias. -/
  | tables (names : List String)
  | tableAs (name label : String)
  /-- Literal sources. -/
  | tableRaw (e : Expression) (values : List Value)
  | tableSource (source : Source) (label : String)
  /-- Columns; an empty list selects all. -/
  | select (columns : List String)
  | selectAs (column label : String)
  | selectExpr (e : Expression) (label : String)
  | selectRaw (e : Expression)
  | selectSource (source : Source) (label : Option String)
  /-- One condition. -/
  | condition (zone : Zone) (link : Connective) (p : Predicate)
  /-- A batch of comparisons. -/
  | compareMany (zone : Zone) (link : Connective) (comparisons : List Comparison)
  /-- Columns each among its listed values. -/
  | inMany (lists : List (String × List Value))
  /-- Columns each tested for NULL. -/
  | nullMany (negated : Bool) (columns : List String)
  | join (kind : JoinKind) (table : String) (condition : JoinCondition)
  | joinSource (kind : JoinKind) (source : Source) (label : String) (condition : JoinCondition)
  /-- Columns to group or sort by, all in one direction. -/
  | list (listing : Listing) (columns : List String) (direction : Option Direction)
  | listRaw (listing : Listing) (e : Expression) (values : List Value)
  | listSource (listing : Listing) (source : Source) (direction : Option Direction)
  | limit (count : UInt64)
  | limitRange (offset count : UInt64)
  | limitRaw (e : Expression)
  | offset (count : UInt64)
  | offsetRaw (e : Expression)
  | page (number : UInt64)
  | perPage (size : UInt64)
  | forPage (page size : UInt64)
  | union (all : Bool) (source : Source)
  | rowLock (lock : RowLock)
  | lock (sql : String)

/-- **One condition.** -/
inductive Predicate
  /-- A column compared with a value. -/
  | compare (comparison : Comparison)
  /-- Conditions in parentheses, or the existence of a row when the calls name a table. -/
  | group (calls : List Call)
  /-- A column compared with a sub-query. -/
  | compareSource (column operator : String) (source : Source)
  /-- A sub-query compared with a value. -/
  | sourceCompare (source : Source) (operator : String) (value : Value)
  | inList (negated : Bool) (column : String) (values : List Value)
  | inSource (negated : Bool) (column : String) (source : Source)
  | null (negated : Bool) (column : String)
  | between (negated : Bool) (column : String) (low high : Value)
  | like (negated : Bool) (subject : Operand) (pattern : Value)
  | existence (negated : Bool) (source : Source)
  /-- A column compared with some or all rows of a sub-query. -/
  | quantified (quantifier : Quantifier) (column operator : String) (source : Source)
  /-- Literal text. -/
  | raw (e : Expression) (values : List Value)

/-- **Where a sub-query comes from.** -/
inductive Source
  /-- A statement as text. -/
  | text (sql : String)
  /-- Literal text, perhaps with a value. -/
  | raw (e : Expression)
  /-- Calls on a fresh builder for the caller's target. -/
  | closure (calls : List Call)
  /-- A builder prepared beforehand, for the caller's target or one of its own. -/
  | prepared (target : Option Target) (calls : List Call)

/-- **The left side of a pattern condition.** -/
inductive Operand
  | column (name : String)
  | source (source : Source)

end

end FluentSql
