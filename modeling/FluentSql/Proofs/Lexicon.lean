import FluentSql.Proofs.Compilation

/-!
# Proofs/Lexicon — the words of a call

All that a caller puts into a statement besides values and operators are words: names and labels,
which are written in quotes, and literal text.  A `Lexicon` says which words may be used, and
`Call.Uses` that a call uses no others, at any depth.
-/

namespace FluentSql

/-- **The words that may be used.** -/
structure Lexicon where
  /-- A column or a table, perhaps with an alias. -/
  name : String → Prop
  /-- A label that is one identifier. -/
  label : String → Prop
  /-- Literal text, in place as it is. -/
  literal : String → Prop
  /-- A sub-query given as text. -/
  statement : String → Prop
  lock : RowLock → Prop
  /-- A target that a builder may be prepared for. -/
  target : Target → Prop

variable (x : Lexicon)

/-- A step of a join's conditions that uses a lexicon. -/
def JoinStep.Uses : JoinStep → Prop
  | on _ first _ second => x.name first ∧ x.name second
  | compare _ c => x.name c.column
  | null _ column => x.name column
  | within column _ => x.name column
  | note => True

/-- What ties a joined table to the rest, by a lexicon.  The operands of a literal join are literal
text. -/
def JoinCondition.Uses : JoinCondition → Prop
  | none => True
  | columns first _ second => x.literal first ∧ x.literal second
  | steps list => ∀ step ∈ list, step.Uses x
  | value column _ _ => x.name column

mutual

/-- **A call that uses a lexicon.** -/
def Call.Uses : Call → Prop
  | .push _ fragments _ => ∀ f ∈ fragments, x.literal f.sql
  | .nest calls _ _ => callsUse calls
  | .throws _ => True
  | .debug _ => True
  | .tables names => ∀ name ∈ names, x.name name
  | .tableAs name label => x.name name ∧ x.label label
  | .tableRaw e _ => x.literal e.text
  | .tableSource source label => source.Uses ∧ x.label label
  | .select columns => ∀ column ∈ columns, x.name column
  | .selectAs column label => x.name column ∧ x.label label
  | .selectExpr e label => x.literal e.text ∧ x.label label
  | .selectRaw e => x.literal e.text
  | .selectSource source label => source.Uses ∧ ∀ l ∈ label, x.label l
  | .condition _ _ p => p.Uses
  | .compareMany _ _ comparisons => ∀ c ∈ comparisons, x.name c.column
  | .inMany lists => ∀ l ∈ lists, x.name l.1
  | .nullMany _ columns => ∀ column ∈ columns, x.name column
  | .join _ table condition => x.name table ∧ condition.Uses x
  | .joinSource _ source label condition => source.Uses ∧ x.label label ∧ condition.Uses x
  | .list _ columns _ => ∀ column ∈ columns, x.name column
  | .listRaw _ e _ => x.literal e.text
  | .listSource _ source _ => source.Uses
  | .limit _ => True
  | .limitRange _ _ => True
  | .limitRaw e => x.literal e.text
  | .offset _ => True
  | .offsetRaw e => x.literal e.text
  | .page _ => True
  | .perPage _ => True
  | .forPage _ _ => True
  | .union _ source => source.Uses
  | .rowLock lock => x.lock lock
  | .lock sql => x.literal sql

/-- A condition that uses a lexicon. -/
def Predicate.Uses : Predicate → Prop
  | .compare c => x.name c.column
  | .group calls => callsUse calls
  | .compareSource column _ source => x.name column ∧ source.Uses
  | .sourceCompare source _ _ => source.Uses
  | .inList _ column _ => x.name column
  | .inSource _ column source => x.name column ∧ source.Uses
  | .null _ column => x.name column
  | .between _ column _ _ => x.name column
  | .like _ subject _ => subject.Uses
  | .existence _ source => source.Uses
  | .quantified _ column _ source => x.name column ∧ source.Uses
  | .raw e _ => x.literal e.text

/-- A source that uses a lexicon. -/
def Source.Uses : Source → Prop
  | .text sql => x.statement sql
  | .raw e => x.literal e.text
  | .closure calls => callsUse calls
  | .prepared target calls => (∀ t ∈ target, x.target t) ∧ callsUse calls

/-- The left side of a pattern condition that uses a lexicon. -/
def Operand.Uses : Operand → Prop
  | .column name => x.name name
  | .source source => source.Uses

/-- Calls that use a lexicon. -/
def callsUse : List Call → Prop
  | [] => True
  | call :: rest => call.Uses ∧ callsUse rest

end

/-- An assignment that uses a lexicon. -/
def Assignment.Uses : Assignment → Prop
  | value _ => True
  | raw e => x.literal e.text
  | source s => s.Uses x

/-- A row whose columns and assignments use a lexicon. -/
def rowUses (r : Record Assignment) : Prop := ∀ e ∈ r.entries, x.name e.1 ∧ e.2.Uses x

/-- **A compilation whose arguments use a lexicon.** -/
def Compilation.Uses : Compilation → Prop
  | insert rows => ∀ r ∈ rows, rowUses x r
  | insertSource columns source => (∀ column ∈ columns, x.name column) ∧ source.Uses x
  | update values => rowUses x values
  | _ => True

end FluentSql
