import FluentSql.Builder.Meaning
import FluentSql.Proofs.Alignment.Edit

/-!
# Proofs/Alignment/Call — calls that put their values in place

The reference for placeholders and values: `Call.marks` says what a call writes when each of its
values is written where the call means it to stand, and `markedSelect` assembles the statement from
that.  There are no lists of values to keep in order.  A literal text takes its values in the order
they are given, its own first; any other call names the place of each value; a sub-query is written
with its own values in place and carried along as a whole.
-/

namespace FluentSql

open Marked (plain hole fill joinWith)

/-! ## Entries -/

namespace MarkedEdit

/-- Continues with a result, or records the error in its place. -/
def after {α : Type} (r : Except BuildError α) (next : α → List MarkedEdit) : List MarkedEdit :=
  match r with
  | .ok a => next a
  | .error e => [.fail e]

/-- Passes on the error of a nested query. -/
def failure (error : Option BuildError) : List MarkedEdit := error.toList.map .fail

/-- One entry of text. -/
def entry (clause : Clause) (m : Marked) : MarkedEdit := .append clause (.text m)

/-- **One entry of literal text**, filled with its own value and then the others. -/
def rawEntry (clause : Clause) (e : Expression) (values : List Value) : MarkedEdit :=
  .append clause (.raw (fill e.text.toList (e.values ++ values)))

/-- A condition behind its connective. -/
def condition (clause : Clause) (link : Connective) (m : Marked) : MarkedEdit :=
  entry clause (plain (link.keyword ++ " ") ++ m)

/-- A condition of literal text. -/
def rawCondition (clause : Clause) (link : Connective) (e : Expression) (values : List Value) :
    MarkedEdit :=
  .append clause
    (.raw (plain (link.rawKeyword ++ " ") ++ fill e.text.toList (e.values ++ values)))

/-- A column tested for NULL. -/
def nullCondition (t : Target) (clause : Clause) (link : Connective) (negated : Bool)
    (column : String) : MarkedEdit :=
  condition clause link (plain (t.dialect.quoteColumn column ++ " " ++ nullTest negated))

/-- **A column among listed values**, each in its own place. -/
def inCondition (t : Target) (clause : Clause) (link : Connective) (negated : Bool)
    (column : String) (values : List Value) : MarkedEdit :=
  if values.isEmpty then condition clause link (plain (if negated then "1 = 1" else "0 = 1"))
  else
    condition clause link
      (plain (t.dialect.quoteColumn column ++ " " ++ negatedKeyword negated "IN" ++ " (") ++
        joinWith ", " (values.map hole) ++ plain ")")

/-- **A column between two values**, the low one first. -/
def betweenCondition (t : Target) (clause : Clause) (link : Connective) (negated : Bool)
    (column : String) (low high : Value) : MarkedEdit :=
  condition clause link
    (plain (t.dialect.quoteColumn column ++ " " ++ negatedKeyword negated "BETWEEN" ++ " ") ++
      hole low ++ plain " AND " ++ hole high)

/-- A join: its kind, the table, and what ties the table to the rest. -/
def join (kind : JoinKind) (table condition : Marked) : MarkedEdit :=
  entry .joins (plain (kind.keyword ++ " ") ++ table ++ condition)

/-- At most so many rows. -/
def limit (count : UInt64) : MarkedEdit := .replace .limits (.text (hole (.ofUInt64 count)))

/-- At most so many rows after an offset. -/
def limitRange (offset count : UInt64) : MarkedEdit :=
  .replace .limits (.text (hole (.ofUInt64 offset) ++ plain ", " ++ hole (.ofUInt64 count)))

/-- Rows after an offset. -/
def offset (count : UInt64) : MarkedEdit := .replace .offset (.text (hole (.ofUInt64 count)))

/-- A clause replaced by literal text. -/
def replaceRaw (clause : Clause) (e : Expression) : MarkedEdit :=
  .replace clause (.raw (fill e.text.toList e.values))

end MarkedEdit

/-- **A column compared with a value.** -/
def Comparison.marks (t : Target) (clause : Clause) (link : Connective) (c : Comparison) :
    List MarkedEdit :=
  MarkedEdit.after (Operator.prepare c.operator c.value) fun op =>
    if c.value.isNull then [.nullCondition t clause link (op != "=") c.column]
    else [.condition clause link
      (plain (t.dialect.quoteColumn c.column ++ " " ++ op ++ " ") ++ hole c.value)]

/-- A batch of comparisons. -/
def Comparison.batchMarks (t : Target) (clause : Clause) (link : Connective)
    (cs : List Comparison) : List MarkedEdit :=
  cs.flatMap fun c => MarkedEdit.after c.normalized (Comparison.marks t clause link)

/-! ## Joins -/

/-- One step of the conditions of a join. -/
def JoinStep.marks (t : Target) : JoinStep → List MarkedEdit
  | on link first operator second =>
    MarkedEdit.after (Operator.check operator) fun op =>
      [.condition .joins link
        (plain (t.dialect.quoteColumn first ++ " " ++ op ++ " " ++ t.dialect.quoteColumn second))]
  | compare link c => c.marks t .joins link
  | null negated column => [.nullCondition t .joins .and negated column]
  | within column values => [.inCondition t .joins .and false column values]
  | note => []

/-- What the entries of a clause say, without their first connective. -/
def MarkedQuery.level (q : MarkedQuery) (c : Clause) : Marked :=
  (joinWith " " ((q.part c).map Entry.body)).cut Connective.dropLeading

/-- **A join with a table**, the values of the table before those of the conditions. -/
def JoinCondition.marks (t : Target) (kind : JoinKind) (table : Marked) :
    JoinCondition → List MarkedEdit
  | none => [.join kind table []]
  | columns first operator second =>
    MarkedEdit.after (Operator.check operator) fun op =>
      [.join kind table (plain (" ON " ++ first ++ " " ++ op ++ " " ++ second))]
  | steps list =>
    let ms := list.flatMap (JoinStep.marks t)
    let q := MarkedQuery.ofEdits ms
    MarkedEdit.failure (MarkedEdit.firstError ms) ++
      [if (q.part .joins).isEmpty then .join kind table []
        else .join kind table (plain " ON " ++ q.level .joins)]
  | value column operator v =>
    MarkedEdit.after (Operator.prepare (some operator) v) fun op =>
      [.join kind table
        (plain (" WHERE " ++ t.dialect.quoteColumn column ++ " " ++ op ++ " ") ++ hole v)]

/-! ## Sources -/

/-- **A source whose calls have put their values in place.** -/
inductive MarkedSource
  | text (sql : String)
  | raw (e : Expression)
  | fresh (ms : List MarkedEdit)
  | prepared (own : Target) (ms : List MarkedEdit)

/-- A qualifier in front of the first of some sources. -/
def Entry.qualifyFirst (qualifier : String) : List Entry → List Entry
  | .text m :: rest =>
    if qualifier.toList.isPrefixOf m.chars then .text m :: rest
    else .text (plain qualifier ++ m) :: rest
  | entries => entries

/-- A query of its own target as a table for another one. -/
def MarkedQuery.qualifiedFor (own parent : Target) (q : MarkedQuery) : MarkedQuery :=
  match own.database with
  | none => q
  | some database =>
    if parent.database = some database then q
    else q.modify (Entry.qualifyFirst (parent.dialect.quoteIdentifier database ++ ".")) .froms

namespace MarkedSource

/-- **The statement of a source**, values in place. -/
def statement : MarkedSource → Except BuildError Marked
  | text sql =>
    if (Text.stripBlanks sql.toList).isEmpty then .error (.invalidSubquery "empty SQL text")
    else .ok (plain sql)
  | raw e => .ok (fill e.text.toList e.values)
  | fresh ms | prepared _ ms => MarkedEdit.compile ms

/-- The statement of a source used as a table. -/
def tableStatement (t : Target) : MarkedSource → Except BuildError Marked
  | prepared own ms =>
    match MarkedEdit.firstError ms with
    | some e => .error e
    | none => .ok ((MarkedQuery.ofEdits ms).qualifiedFor own t).select
  | source => source.statement

end MarkedSource

/-! ## Nested queries -/

/-- One clause of a nested query as a group. -/
def MarkedEdit.group (ms : List MarkedEdit) (clause : Clause) (link : Connective) :
    List MarkedEdit :=
  let q := MarkedQuery.ofEdits ms
  failure (firstError ms) ++
    if (q.part clause).isEmpty then []
    else [condition clause link (plain "(" ++ q.level clause ++ plain ")")]

/-- A nested query as a condition. -/
def MarkedEdit.nested (ms : List MarkedEdit) (clause : Clause) (link : Connective) :
    List MarkedEdit :=
  if ((MarkedQuery.ofEdits ms).part .froms).isEmpty then group ms clause link
  else after (compile ms) fun m =>
    [condition clause link (plain "EXISTS (" ++ m ++ plain ")")]

/-- A sub-query in parentheses under a label. -/
def Marked.labelled (t : Target) (m : Marked) (label : String) : Marked :=
  plain "(" ++ m ++ plain (")" ++ " AS " ++ t.dialect.quoteIdentifier label)

/-! ## Calls -/

mutual

/-- **What a call writes, every value in its place.** -/
def Call.marks (t : Target) : Call → List MarkedEdit
  | .push clause fragments _ => fragments.map fun f => .append clause (match f with
      | .text s => .text (plain s)
      | .raw e => .raw (plain e.text))
  | .nest calls clause link => MarkedEdit.group (callMarks t calls) clause link
  | .throws message => [.notFound message]
  | .debug on => [.debug on]
  | .tables names => names.map fun name => .entry .froms (plain (t.dialect.quoteColumn name))
  | .tableAs name label =>
    [.entry .froms (plain (t.dialect.aliased (t.dialect.quoteColumn name) label))]
  | .tableRaw e values => [.rawEntry .froms e values]
  | .tableSource source label =>
    MarkedEdit.after ((source.marks t).tableStatement t) fun m => [.entry .froms (m.labelled t label)]
  | .select [] => [.entry .columns (plain "*")]
  | .select (c :: cs) =>
    (c :: cs).map fun c => .entry .columns (plain (t.dialect.quoteColumn c))
  | .selectAs column label =>
    [.entry .columns (plain (t.dialect.aliased (t.dialect.quoteColumn column) label))]
  | .selectExpr e label =>
    [.append .columns
      (.raw (fill e.text.toList e.values ++ plain (" AS " ++ t.dialect.quoteIdentifier label)))]
  | .selectRaw e => [.rawEntry .columns e []]
  | .selectSource source label =>
    MarkedEdit.after (source.marks t).statement fun m =>
      [.entry .columns (match label with
        | some label => m.labelled t label
        | none => plain "(" ++ m ++ plain ")")]
  | .condition zone link p => p.marks t zone.clause link
  | .compareMany zone link comparisons => Comparison.batchMarks t zone.clause link comparisons
  | .inMany lists => lists.map fun (column, values) => .inCondition t .wheres .and false column values
  | .nullMany negated columns => columns.map (.nullCondition t .wheres .and negated)
  | .join kind table condition => condition.marks t kind (plain (t.dialect.quoteColumn table))
  | .joinSource kind source label condition =>
    MarkedEdit.after ((source.marks t).tableStatement t) fun m =>
      condition.marks t kind (m.labelled t label)
  | .list listing columns direction =>
    columns.map fun c =>
      .entry listing.clause (plain (directed (t.dialect.quoteColumn c) direction))
  | .listRaw listing e values => [.rawEntry listing.clause e values]
  | .listSource listing source direction =>
    MarkedEdit.after (source.marks t).statement fun m =>
      [.entry listing.clause (plain "(" ++ m ++ plain (directed ")" direction))]
  | .limit count => [.limit count]
  | .limitRange offset count => [.limitRange offset count]
  | .limitRaw e => [.replaceRaw .limits e]
  | .offset count => [.offset count]
  | .offsetRaw e => [.replaceRaw .offset e]
  | .page number => [.page number]
  | .perPage size => [.perPage size]
  | .forPage page size => [.limit size, .offset (pageOffset page size)]
  | .union all source =>
    MarkedEdit.after (source.marks t).statement fun m =>
      [.append .unions (.raw (plain (unionKeyword all ++ " ") ++ m))]
  | .rowLock lock =>
    match t.dialect.lock? lock with
    | some sql => [.lock sql]
    | none => [.fail (.methodNotFound lock.method t.dialect.name)]
  | .lock sql => [.lock sql]

/-- **What a condition writes in a clause**, behind a connective. -/
def Predicate.marks (t : Target) (clause : Clause) (link : Connective) :
    Predicate → List MarkedEdit
  | .compare c => c.marks t clause link
  | .group calls => MarkedEdit.nested (callMarks t calls) clause link
  | .compareSource column operator source =>
    MarkedEdit.after (Operator.check operator) fun op =>
      MarkedEdit.after (source.marks t).statement fun m =>
        [.condition clause link
          (plain (t.dialect.quoteColumn column ++ " " ++ op ++ " (") ++ m ++ plain ")")]
  | .sourceCompare source operator value =>
    MarkedEdit.after (Operator.prepare (some operator) value) fun op =>
      MarkedEdit.after (source.marks t).statement fun m =>
        [.condition clause link (plain "(" ++ m ++ plain (") " ++ op ++ " ") ++ hole value)]
  | .inList negated column values => [.inCondition t clause link negated column values]
  | .inSource negated column source =>
    MarkedEdit.after (source.marks t).statement fun m =>
      [.condition clause link
        (plain (t.dialect.quoteColumn column ++ " " ++ negatedKeyword negated "IN" ++ " (") ++ m ++
          plain ")")]
  | .null negated column => [.nullCondition t clause link negated column]
  | .between negated column low high => [.betweenCondition t clause link negated column low high]
  | .like negated subject pattern =>
    MarkedEdit.after (subject.marks t) fun m =>
      [.condition clause link
        (m ++ plain (" " ++ negatedKeyword negated "LIKE" ++ " ") ++ hole pattern)]
  | .existence negated source =>
    MarkedEdit.after (source.marks t).statement fun m =>
      [.condition clause link
        (plain (negatedKeyword negated "EXISTS" ++ " (") ++ m ++ plain ")")]
  | .quantified quantifier column operator source =>
    MarkedEdit.after (Operator.check operator) fun op =>
      MarkedEdit.after (source.marks t).statement fun m =>
        [.condition clause link
          (plain (t.dialect.quoteColumn column ++ " " ++ op ++ " " ++ quantifier.keyword ++ " (") ++
            m ++ plain ")")]
  | .raw e values => [.rawCondition clause link e values]

/-- A source with its calls run. -/
def Source.marks (t : Target) : Source → MarkedSource
  | .text sql => .text sql
  | .raw e => .raw e
  | .closure calls => .fresh (callMarks t calls)
  | .prepared target calls => .prepared (target.getD t) (callMarks (target.getD t) calls)

/-- The left side of a pattern condition. -/
def Operand.marks (t : Target) : Operand → Except BuildError Marked
  | .column name => .ok (plain (t.dialect.quoteColumn name))
  | .source (.raw e) => .ok (fill e.text.toList e.values)
  | .source source => (source.marks t).statement.map fun m => plain "(" ++ m ++ plain ")"

/-- What calls write one after the other. -/
def callMarks (t : Target) : List Call → List MarkedEdit
  | [] => []
  | call :: rest => call.marks t ++ callMarks t rest

end

/-- **The SELECT statement of calls, every value in its place.** -/
def markedSelect (t : Target) (calls : List Call) : Marked :=
  (MarkedQuery.ofEdits (callMarks t calls)).select

end FluentSql
