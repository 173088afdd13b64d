import FluentSql.Value.Json

/-!
# QueryLog — the statements that ran

A log keeps each statement with its values and the time it took.  `substitute` shows a statement
with the literals of its values in the places of the placeholders; what a literal contains is not
looked at again.
-/

namespace FluentSql

/-- **A statement with literals for its placeholders**, in order.  Values left over are ignored,
placeholders left over stay. -/
def substitute : List Char → List Value → List Char
  | [], _ => []
  | c :: rest, values =>
    if c = '?' then
      match values with
      | [] => c :: substitute rest []
      | v :: values => v.literal.toList ++ substitute rest values
    else c :: substitute rest values

/-- **One entry of a log.** -/
structure LogEntry where
  query : String
  bindings : List Value
  /-- Milliseconds. -/
  time : Binary64
  deriving DecidableEq, Repr

/-- The statement of an entry with its values in place. -/
def LogEntry.parsed (e : LogEntry) : String := String.ofList (substitute e.query.toList e.bindings)

/-- The entry as JSON. -/
def LogEntry.toJson (e : LogEntry) : Json :=
  .object [("query", .string e.query), ("bindings", .array (e.bindings.map Value.toJson)),
    ("time_ms", .float e.time)]

/-- **A log**, which a connection writes to while it is enabled. -/
structure QueryLog where
  enabled : Bool := false
  entries : List LogEntry := []
  deriving DecidableEq, Repr

namespace QueryLog

/-- Adds an entry, enabled or not. -/
def append (log : QueryLog) (e : LogEntry) : QueryLog := { log with entries := log.entries ++ [e] }

/-- **Adds an entry if the log is enabled.** -/
def record (log : QueryLog) (e : LogEntry) : QueryLog := if log.enabled then log.append e else log

/-- Turns the log on or off. -/
def setEnabled (log : QueryLog) (on : Bool) : QueryLog := { log with enabled := on }

/-- Drops every entry. -/
def flush (log : QueryLog) : QueryLog := { log with entries := [] }

/-- The latest entry. -/
def last? (log : QueryLog) : Option LogEntry := log.entries.getLast?

/-- The statements with their values in place. -/
def parsed (log : QueryLog) : List String := log.entries.map LogEntry.parsed

end QueryLog

end FluentSql
