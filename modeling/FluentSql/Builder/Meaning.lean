import FluentSql.Builder.Call
import FluentSql.Builder.Page

/-!
# Builder/Meaning — what the calls do

`Call.edits` gives the edits of a call for a target.  It never looks at the builder it acts on, so a
chain of calls is the concatenation of their edits, and a sub-query is the builder that its own
calls make from nothing.  Whatever has to be resolved first, an operator or a source, either
contributes its one entry or the one error.
-/

namespace FluentSql

/-! ## Sources -/

/-- **A source once its calls have run.** -/
inductive Evaluated
  | text (sql : String)
  | raw (e : Expression)
  /-- Built on the caller's own target. -/
  | fresh (b : Builder)
  /-- Prepared beforehand. -/
  | prepared (b : Builder)

namespace Evaluated

/-- **The statement of a source.**  Text has to be more than blanks. -/
def statement : Evaluated → Except BuildError Statement
  | text sql =>
    if (Text.stripBlanks sql.toList).isEmpty then .error (.invalidSubquery "empty SQL text")
    else .ok ⟨sql, []⟩
  | raw e => .ok ⟨e.text, e.values⟩
  | fresh b | prepared b => b.compile

/-- **The statement of a source used as a table**: a prepared builder for another database has the
name of that database in front of its first table. -/
def tableStatement (t : Target) : Evaluated → Except BuildError Statement
  | prepared b => (b.qualifiedFor t).compile
  | source => source.statement

end Evaluated

/-! ## Nested queries -/

/-- **One clause of a nested query as a group** — its error comes first, its conditions lose their
first connective, and no condition makes no group. -/
def Builder.groupEdits (b : Builder) (clause : Clause) (link : Connective) : List Edit :=
  let part := b.query.part clause
  Edit.failure b.error ++
    if part.isEmpty then []
    else [.condition clause link
      ("(" ++ Connective.dropLeadingText (Fragment.join " " part.fragments) ++ ")") part.bindings]

/-- A nested query as a condition: a group, or the existence of a row if it has a source. -/
def Builder.conditionEdits (b : Builder) (clause : Clause) (link : Connective) : List Edit :=
  if (b.query.part .froms).isEmpty then b.groupEdits clause link
  else Edit.after b.compile fun s =>
    [.condition clause link ("EXISTS (" ++ s.sql ++ ")") s.bindings]

/-! ## Entries -/

/-- A text followed by a direction, if there is one. -/
def directed (sql : String) (direction : Option Direction) : String :=
  match direction with
  | some d => sql ++ " " ++ d.keyword
  | none => sql

/-- The keyword of a union. -/
def unionKeyword (all : Bool) : String := if all then "UNION ALL" else "UNION"

/-- The edits that ask for a row lock. -/
def RowLock.edits (t : Target) (lock : RowLock) : List Edit :=
  match t.dialect.lock? lock with
  | some sql => [.lock sql]
  | none => [.fail (.methodNotFound lock.method t.dialect.name)]

/-! ## Calls -/

mutual

/-- **The edits of a call.** -/
def Call.edits (t : Target) : Call → List Edit
  | .push clause fragments values => [.append clause fragments values]
  | .nest calls clause link => (Builder.ofEdits t (callEdits t calls)).groupEdits clause link
  | .throws message => [.notFound message]
  | .debug on => [.debug on]
  | .tables names => names.map fun name => .entry .froms (t.dialect.quoteColumn name) []
  | .tableAs name label =>
    [.entry .froms (t.dialect.aliased (t.dialect.quoteColumn name) label) []]
  | .tableRaw e values => [.rawEntry .froms e values]
  | .tableSource source label =>
    Edit.after ((source.evaluate t).tableStatement t) fun s =>
      [.entry .froms (t.dialect.aliased ("(" ++ s.sql ++ ")") label) s.bindings]
  | .select [] => [.entry .columns "*" []]
  | .select (c :: cs) => (c :: cs).map fun c => .entry .columns (t.dialect.quoteColumn c) []
  | .selectAs column label =>
    [.entry .columns (t.dialect.aliased (t.dialect.quoteColumn column) label) []]
  | .selectExpr e label => [.rawEntry .columns { e with text := t.dialect.aliased e.text label } []]
  | .selectRaw e => [.rawEntry .columns e []]
  | .selectSource source label =>
    Edit.after (source.evaluate t).statement fun s =>
      let sql := "(" ++ s.sql ++ ")"
      [.entry .columns (match label with
        | some label => t.dialect.aliased sql label
        | none => sql) s.bindings]
  | .condition zone link p => p.edits t zone.clause link
  | .compareMany zone link comparisons => Comparison.batch t zone.clause link comparisons
  | .inMany lists => lists.map fun (column, values) => .inCondition t .wheres .and false column values
  | .nullMany negated columns => columns.map (.nullCondition t .wheres .and negated)
  | .join kind table condition => condition.edits t kind (t.dialect.quoteColumn table) []
  | .joinSource kind source label condition =>
    Edit.after ((source.evaluate t).tableStatement t) fun s =>
      condition.edits t kind (t.dialect.aliased ("(" ++ s.sql ++ ")") label) s.bindings
  | .list listing columns direction =>
    columns.map fun c => .entry listing.clause (directed (t.dialect.quoteColumn c) direction) []
  | .listRaw listing e values => [.rawEntry listing.clause e values]
  | .listSource listing source direction =>
    Edit.after (source.evaluate t).statement fun s =>
      [.entry listing.clause (directed ("(" ++ s.sql ++ ")") direction) s.bindings]
  | .limit count => [.limit count]
  | .limitRange offset count => [.limitRange offset count]
  | .limitRaw e => [.replaceRaw .limits e]
  | .offset count => [.offset count]
  | .offsetRaw e => [.replaceRaw .offset e]
  | .page number => [.page number]
  | .perPage size => [.perPage size]
  | .forPage page size => Edit.forPage page size
  | .union all source =>
    Edit.after (source.evaluate t).statement fun s =>
      [.append .unions [.raw ⟨unionKeyword all ++ " " ++ s.sql, none⟩] s.bindings]
  | .rowLock lock => lock.edits t
  | .lock sql => [.lock sql]

/-- **The edits of a condition** in a clause, behind a connective. -/
def Predicate.edits (t : Target) (clause : Clause) (link : Connective) : Predicate → List Edit
  | .compare c => c.edits t clause link
  | .group calls => (Builder.ofEdits t (callEdits t calls)).conditionEdits clause link
  | .compareSource column operator source =>
    Edit.after (Operator.check operator) fun op =>
      Edit.after (source.evaluate t).statement fun s =>
        [.condition clause link
          (t.dialect.quoteColumn column ++ " " ++ op ++ " (" ++ s.sql ++ ")") s.bindings]
  | .sourceCompare source operator value =>
    Edit.after (Operator.prepare (some operator) value) fun op =>
      Edit.after (source.evaluate t).statement fun s =>
        [.condition clause link ("(" ++ s.sql ++ ") " ++ op ++ " ?") (s.bindings ++ [value])]
  | .inList negated column values => [.inCondition t clause link negated column values]
  | .inSource negated column source =>
    Edit.after (source.evaluate t).statement fun s =>
      [.condition clause link
        (t.dialect.quoteColumn column ++ " " ++ negatedKeyword negated "IN" ++ " (" ++ s.sql ++ ")")
        s.bindings]
  | .null negated column => [.nullCondition t clause link negated column]
  | .between negated column low high => [.betweenCondition t clause link negated column low high]
  | .like negated subject pattern =>
    Edit.after (subject.resolve t) fun s =>
      [.condition clause link (s.sql ++ " " ++ negatedKeyword negated "LIKE" ++ " ?")
        (s.bindings ++ [pattern])]
  | .existence negated source =>
    Edit.after (source.evaluate t).statement fun s =>
      [.condition clause link (negatedKeyword negated "EXISTS" ++ " (" ++ s.sql ++ ")") s.bindings]
  | .quantified quantifier column operator source =>
    Edit.after (Operator.check operator) fun op =>
      Edit.after (source.evaluate t).statement fun s =>
        [.condition clause link
          (t.dialect.quoteColumn column ++ " " ++ op ++ " " ++ quantifier.keyword ++ " (" ++ s.sql ++
            ")") s.bindings]
  | .raw e values => [.rawCondition clause link e values]

/-- **A source with its calls run.** -/
def Source.evaluate (t : Target) : Source → Evaluated
  | .text sql => .text sql
  | .raw e => .raw e
  | .closure calls => .fresh (Builder.ofEdits t (callEdits t calls))
  | .prepared target calls =>
    .prepared (Builder.ofEdits (target.getD t) (callEdits (target.getD t) calls))

/-- **The left side of a pattern condition** — a column in quotes, literal text as it is, any other
source in parentheses. -/
def Operand.resolve (t : Target) : Operand → Except BuildError Statement
  | .column name => .ok ⟨t.dialect.quoteColumn name, []⟩
  | .source (.raw e) => .ok ⟨e.text, e.values⟩
  | .source source =>
    (source.evaluate t).statement.map fun s => ⟨"(" ++ s.sql ++ ")", s.bindings⟩

/-- The edits of calls one after the other. -/
def callEdits (t : Target) : List Call → List Edit
  | [] => []
  | call :: rest => call.edits t ++ callEdits t rest

end

/-! ## Building -/

/-- An empty builder. -/
def Builder.new (t : Target) : Builder := { target := t }

/-- **One more call.** -/
def Builder.call (b : Builder) (call : Call) : Builder := b.edits (call.edits b.target)

/-- Calls one after the other. -/
def Builder.calls (b : Builder) (calls : List Call) : Builder := calls.foldl Builder.call b

/-- A source as the statement of a sub-query. -/
def Builder.parse (b : Builder) (source : Source) : Except BuildError Statement :=
  (source.evaluate b.target).statement

/-- No call moves a builder to another target. -/
theorem Builder.target_call (b : Builder) (call : Call) : (b.call call).target = b.target :=
  target_edits b _

/-- **A chain of calls applies the edits of each in turn.** -/
theorem Builder.calls_eq_edits (b : Builder) (calls : List Call) :
    b.calls calls = b.edits (callEdits b.target calls) := by
  induction calls generalizing b with
  | nil => rfl
  | cons call rest ih =>
    simp only [Builder.calls, List.foldl_cons] at ih ⊢
    rw [ih, target_call, callEdits, Builder.edits_append, Builder.call]

theorem Builder.target_calls (b : Builder) (calls : List Call) : (b.calls calls).target = b.target := by
  rw [calls_eq_edits, target_edits]

end FluentSql
