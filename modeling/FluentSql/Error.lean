/-!
# Error — why a query cannot be built or run

A `BuildError` is found while calls are put together, before anything reaches a connection; a
`QueryError` when a statement runs.  The wording of each is its `message`.
-/

namespace FluentSql

/-- **Why a query cannot be built.** -/
inductive BuildError
  /-- A sub-query that is no statement. -/
  | invalidSubquery (reason : String)
  /-- An operator that compares nothing with NULL. -/
  | illegalOperatorAndValue (operator : String)
  /-- An operator that no dialect knows. -/
  | invalidOperator (operator : String)
  /-- A feature that the dialect lacks. -/
  | methodNotFound (method dialect : String)
  /-- An argument out of its range. -/
  | invalidArgument (reason : String)
  deriving DecidableEq, Repr

/-- The wording of a build error. -/
def BuildError.message : BuildError → String
  | invalidSubquery reason =>
    "invalid subquery type: expected a query builder instance, a closure, or a string (" ++
      reason ++ ")"
  | illegalOperatorAndValue operator =>
    "illegal operator and value combination: `" ++ operator ++ "` cannot be used with NULL"
  | invalidOperator operator => "illegal operator: `" ++ operator ++ "`"
  | methodNotFound method dialect =>
    "method `" ++ method ++ "` not found for the " ++ dialect ++ " grammar"
  | invalidArgument reason => "invalid argument: " ++ reason

/-- **Why a statement did not run, or ran in vain.** -/
inductive QueryError
  /-- The query could not be built. -/
  | build (error : BuildError)
  /-- No row came back and the caller wanted one. -/
  | notFound (message : String)
  /-- A transaction was used out of turn. -/
  | transaction (reason : String)
  /-- The connection failed. -/
  | database (reason : String)
  deriving DecidableEq, Repr

/-- The wording of a query error. -/
def QueryError.message : QueryError → String
  | build error => error.message
  | notFound message => message
  | transaction reason => "transaction error: " ++ reason
  | database reason => "database error: " ++ reason

end FluentSql
