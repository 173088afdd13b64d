import FluentSql.Builder.Meaning

/-!
# Builder/Heading — what the steps of a join see of it

A step of a join's conditions may look at the heading of the join: its kind and its table as it is
written.  `Call.headings` lists the headings looked at during a call, in order.  Steps run where
their query runs: a prepared builder always, a closure only when the call gets as far as its source.
-/

namespace FluentSql

/-- **The heading of a join.** -/
structure Heading where
  kind : JoinKind
  /-- The joined table, in quotes. -/
  table : String
  deriving DecidableEq, Repr

/-- The heading once for each step that looks at it. -/
def JoinCondition.headings (heading : Heading) : JoinCondition → List Heading
  | steps list => (list.filter (· == .note)).map fun _ => heading
  | _ => []

/-- Whether an operator lets a comparison go on to its source. -/
def Operator.passes (r : Except BuildError String) : Bool := r.isOk

mutual

/-- **The headings looked at during a call.** -/
def Call.headings (t : Target) : Call → List Heading
  | .nest calls _ _ => callHeadings t calls
  | .tableSource source _ => source.headings t true
  | .selectSource source _ => source.headings t true
  | .condition _ _ p => p.headings t
  | .join kind table condition => condition.headings ⟨kind, t.dialect.quoteColumn table⟩
  | .joinSource kind source label condition =>
    source.headings t true ++
      match (source.evaluate t).tableStatement t with
      | .ok s => condition.headings ⟨kind, t.dialect.aliased ("(" ++ s.sql ++ ")") label⟩
      | .error _ => []
  | .listSource _ source _ => source.headings t true
  | .union _ source => source.headings t true
  | _ => []

/-- The headings looked at during a condition. -/
def Predicate.headings (t : Target) : Predicate → List Heading
  | .group calls => callHeadings t calls
  | .compareSource _ operator source =>
    source.headings t (Operator.passes (Operator.check operator))
  | .sourceCompare source operator value =>
    source.headings t (Operator.passes (Operator.prepare (some operator) value))
  | .inSource _ _ source => source.headings t true
  | .like _ subject _ => subject.headings t
  | .existence _ source => source.headings t true
  | .quantified _ _ operator source =>
    source.headings t (Operator.passes (Operator.check operator))
  | _ => []

/-- The headings looked at in a source, which a call may or may not get to. -/
def Source.headings (t : Target) (reached : Bool) : Source → List Heading
  | .text _ => []
  | .raw _ => []
  | .closure calls => if reached then callHeadings t calls else []
  | .prepared target calls => callHeadings (target.getD t) calls

/-- The headings looked at in an operand. -/
def Operand.headings (t : Target) : Operand → List Heading
  | .column _ => []
  | .source source => source.headings t true

/-- The headings looked at during calls. -/
def callHeadings (t : Target) : List Call → List Heading
  | [] => []
  | call :: rest => call.headings t ++ callHeadings t rest

end

end FluentSql
