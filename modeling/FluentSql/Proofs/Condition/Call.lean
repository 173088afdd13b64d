import FluentSql.Proofs.Condition.Tree
import FluentSql.Proofs.Frame
import FluentSql.Proofs.Quote

/-!
# Proofs/Condition/Call — calls write the tree of conditions they denote

`Call.conditions` reads off a call the conditions it stands for in a clause, with no regard to how
they are stored; `JoinStep.conditions` does it for a join.  What the calls store is the members of the
tree in order, each behind its connective (`Denotes`), and what is compiled from it is the written
tree (`Builder.conditions_rendered`): one connective goes for each level that has a member, and none
anywhere else.
-/

namespace FluentSql

/-! ## The conditions of a call -/

/-- A predicate once its parts are resolved; one that fails is none. -/
def leaf (link : Connective) (r : Except BuildError String) : List Condition :=
  match r with
  | .ok text => [.structured link text]
  | .error _ => []

/-- **The text of a comparison.** -/
def Comparison.text (t : Target) (c : Comparison) : Except BuildError String := do
  let op ← Operator.prepare c.operator c.value
  return if c.value.isNull then t.dialect.quoteColumn c.column ++ " " ++ nullTest (op != "=")
    else t.dialect.quoteColumn c.column ++ " " ++ op ++ " ?"

/-- A column tested for NULL. -/
def nullText (t : Target) (negated : Bool) (column : String) : String :=
  t.dialect.quoteColumn column ++ " " ++ nullTest negated

/-- A column among listed values. -/
def inText (t : Target) (negated : Bool) (column : String) (values : List Value) : String :=
  if values.isEmpty then if negated then "1 = 1" else "0 = 1"
  else t.dialect.quoteColumn column ++ " " ++ negatedKeyword negated "IN" ++ " (" ++
    placeholders values ++ ")"

/-- **The condition of a step of a join.** -/
def JoinStep.conditions (t : Target) : JoinStep → List Condition
  | on link first operator second => leaf link do
    let op ← Operator.check operator
    return t.dialect.quoteColumn first ++ " " ++ op ++ " " ++ t.dialect.quoteColumn second
  | compare link c => leaf link (c.text t)
  | null negated column => [.structured .and (nullText t negated column)]
  | within column values => [.structured .and (inText t false column values)]
  | note => []

mutual

/-- **The conditions a call stands for in a clause.** -/
def Call.conditions (t : Target) (clause : Clause) : Call → List Condition
  | .nest calls d link => if d = clause then [.group link (callConditions t clause calls)] else []
  | .condition zone link p => if zone.clause = clause then p.conditions t clause link else []
  | .compareMany zone link comparisons =>
    if zone.clause = clause then comparisons.flatMap fun c => leaf link (c.normalized >>= (·.text t))
    else []
  | .inMany lists =>
    if clause = .wheres then lists.map fun l => .structured .and (inText t false l.1 l.2) else []
  | .nullMany negated columns =>
    if clause = .wheres then columns.map fun c => .structured .and (nullText t negated c) else []
  | _ => []

/-- **The conditions of a predicate.**  A nested query is a group of its conditions, or asks for the
existence of a row if it names a table. -/
def Predicate.conditions (t : Target) (clause : Clause) (link : Connective) :
    Predicate → List Condition
  | .compare c => leaf link (c.text t)
  | .group calls =>
    let nested := Builder.ofEdits t (callEdits t calls)
    if (nested.query.part .froms).isEmpty then [.group link (callConditions t clause calls)]
    else leaf link do
      let s ← nested.compile
      return "EXISTS (" ++ s.sql ++ ")"
  | .compareSource column operator source => leaf link do
    let op ← Operator.check operator
    let s ← (source.evaluate t).statement
    return t.dialect.quoteColumn column ++ " " ++ op ++ " (" ++ s.sql ++ ")"
  | .sourceCompare source operator value => leaf link do
    let op ← Operator.prepare (some operator) value
    let s ← (source.evaluate t).statement
    return "(" ++ s.sql ++ ") " ++ op ++ " ?"
  | .inList negated column values => [.structured link (inText t negated column values)]
  | .inSource negated column source => leaf link do
    let s ← (source.evaluate t).statement
    return t.dialect.quoteColumn column ++ " " ++ negatedKeyword negated "IN" ++ " (" ++ s.sql ++ ")"
  | .null negated column => [.structured link (nullText t negated column)]
  | .between negated column _ _ =>
    [.structured link
      (t.dialect.quoteColumn column ++ " " ++ negatedKeyword negated "BETWEEN" ++ " ? AND ?")]
  | .like negated subject _ => leaf link do
    let s ← subject.resolve t
    return s.sql ++ " " ++ negatedKeyword negated "LIKE" ++ " ?"
  | .existence negated source => leaf link do
    let s ← (source.evaluate t).statement
    return negatedKeyword negated "EXISTS" ++ " (" ++ s.sql ++ ")"
  | .quantified quantifier column operator source => leaf link do
    let op ← Operator.check operator
    let s ← (source.evaluate t).statement
    return t.dialect.quoteColumn column ++ " " ++ op ++ " " ++ quantifier.keyword ++ " (" ++
      s.sql ++ ")"
  | .raw e _ => [.raw link e.text]

/-- The conditions of calls one after the other. -/
def callConditions (t : Target) (clause : Clause) : List Call → List Condition
  | [] => []
  | call :: rest => call.conditions t clause ++ callConditions t clause rest

end

/-! ## Calls that write conditions only -/

mutual

/-- **A call that puts no fragment into a clause past its conditions**, and no blank literal text into
a condition. -/
def Call.Regular (clause : Clause) : Call → Prop
  | .push d _ _ => d ≠ clause
  | .nest calls d _ => d = clause → callsRegular clause calls
  | .condition zone _ p => zone.clause = clause → p.Regular clause
  | _ => True

/-- A condition likewise. -/
def Predicate.Regular (clause : Clause) : Predicate → Prop
  | .group calls => callsRegular clause calls
  | .raw e _ => NotBlank e.text
  | _ => True

/-- Calls likewise. -/
def callsRegular (clause : Clause) : List Call → Prop
  | [] => True
  | call :: rest => call.Regular clause ∧ callsRegular clause rest

end

/-! ## Texts that are more than blanks -/

namespace NotBlank

instance (s : String) : Decidable (NotBlank s) :=
  decidable_of_iff (s.toList.any fun c => !Text.isBlank c) (by simp [NotBlank])

/-- More in front of a text leaves it more than blanks. -/
theorem behind {s u : String} (h : NotBlank s) : NotBlank (u ++ s) := by
  obtain ⟨c, hc, hblank⟩ := h
  exact ⟨c, by rw [String.toList_append]; exact List.mem_append_right _ hc, hblank⟩

/-- So does more at its end. -/
theorem before {s u : String} (h : NotBlank s) : NotBlank (s ++ u) := by
  obtain ⟨c, hc, hblank⟩ := h
  exact ⟨c, by rw [String.toList_append]; exact List.mem_append_left _ hc, hblank⟩

theorem nullText (t : Target) (negated : Bool) (column : String) :
    NotBlank (nullText t negated column) := .behind (by cases negated <;> decide)

theorem inText (t : Target) (negated : Bool) (column : String) (values : List Value) :
    NotBlank (inText t negated column values) := by
  unfold FluentSql.inText
  split
  · cases negated <;> decide
  · exact .behind (by decide)

end NotBlank

/-- **An operator is more than blanks.** -/
theorem Operator.notBlank_of_check {operator op : String} (h : check operator = .ok op) :
    NotBlank op := by
  unfold check at h
  split at h
  · next hknown =>
    cases h
    obtain ⟨known, hmem, heq⟩ := List.any_eq_true.mp hknown
    have hne : Text.dropBlanks operator.toList ≠ [] := by
      intro hnil
      have hempty : known.toList = [] := by
        rw [eq_of_beq heq, Text.stripBlanks, hnil]
        rfl
      exact absurd hempty ((by decide : ∀ known ∈ operators, known.toList ≠ []) known hmem)
    obtain ⟨c, hc, hblank⟩ : NotBlank operator := by
      by_contra hall
      refine hne (List.dropWhile_eq_nil_iff.mpr fun c hc => ?_)
      by_contra hblank
      exact hall ⟨c, hc, Bool.eq_false_iff.mpr hblank⟩
    exact ⟨c, by rw [Text.toList_trim]; exact Text.mem_stripBlanks hc hblank, hblank⟩
  · cases h

/-! ## Edits that write a tree -/

/-- One entry adds its text to its clause. -/
theorem Builder.texts_append (b : Builder) (clause : Clause) (f : Fragment) (values : List Value) :
    ((b.edits [.append clause [f] values]).query.part clause).texts =
      (b.query.part clause).texts ++ [f.sql] :=
  (congrArg Part.texts (Query.part_modify_self ..)).trans (List.map_append ..)

/-- **Edits write the members of a tree into a clause**, in order and each behind its connective, and
none of them is blank. -/
structure Denotes (clause : Clause) (es : List Edit) (cs : List Condition) : Prop where
  texts : ∀ b : Builder, ((b.edits es).query.part clause).texts =
    (b.query.part clause).texts ++ (members cs).map Member.sql
  proper : ∀ m ∈ members cs, m.Proper

namespace Denotes

variable {clause : Clause} {link : Connective} {es fs : List Edit} {cs ds : List Condition}

/-- Edits within other clauses write nothing. -/
theorem untouched {clauses : List Clause} (h : Within clauses es) (hc : clause ∉ clauses) :
    Denotes clause es [] :=
  ⟨fun b => by rw [h.part_eq hc, members_nil, List.map_nil, List.append_nil],
    fun _ hm => absurd hm List.not_mem_nil⟩

theorem nil : Denotes clause [] [] := untouched (.nil : Within [] []) List.not_mem_nil

theorem append (h : Denotes clause es cs) (h' : Denotes clause fs ds) :
    Denotes clause (es ++ fs) (cs ++ ds) := by
  refine ⟨fun b => ?_, fun m hm => ?_⟩
  · rw [Builder.edits_append, h'.texts, h.texts, members_append, List.map_append,
      List.append_assoc]
  · rw [members_append] at hm
    exact (List.mem_append.mp hm).elim (h.proper m) (h'.proper m)

theorem flatMap {α : Type} {f : α → List Edit} {g : α → List Condition} {l : List α}
    (h : ∀ a ∈ l, Denotes clause (f a) (g a)) : Denotes clause (l.flatMap f) (l.flatMap g) := by
  induction l with
  | nil => exact nil
  | cons a l ih =>
    exact (h a List.mem_cons_self).append (ih fun x hx => h x (List.mem_cons_of_mem a hx))

theorem map {α : Type} {f : α → Edit} {g : α → Condition} {l : List α}
    (h : ∀ a ∈ l, Denotes clause [f a] [g a]) : Denotes clause (l.map f) (l.map g) := by
  rw [List.map_eq_flatMap, List.map_eq_flatMap]
  exact flatMap h

/-- One member, written as one entry. -/
theorem member {c : Condition} {m : Member} {f : Fragment} {values : List Value}
    (hc : c.member? = some m) (hf : f.sql = m.sql) (hm : m.Proper) :
    Denotes clause [.append clause [f] values] [c] := by
  have hmembers : members [c] = [m] := by rw [members_cons, hc, members_nil]; rfl
  refine ⟨fun b => ?_, fun n hn => ?_⟩
  · rw [hmembers, List.map_singleton, ← hf]
    exact b.texts_append clause f values
  · rw [hmembers] at hn
    exact List.mem_singleton.mp hn ▸ hm

theorem structured {text : String} {values : List Value} (h : NotBlank text) :
    Denotes clause [.condition clause link text values] [.structured link text] :=
  member rfl rfl ⟨⟨link, .inl rfl⟩, h⟩

theorem raw {e : Expression} {values : List Value} (h : NotBlank e.text) :
    Denotes clause [.rawCondition clause link e values] [.raw link e.text] :=
  member rfl rfl ⟨⟨link, .inr rfl⟩, h⟩

/-- A recorded error writes nothing. -/
theorem failure (error : Option BuildError) : Denotes clause (Edit.failure error) [] :=
  untouched (.failure error : Within [] _) List.not_mem_nil

/-- **A predicate is written once its parts are resolved**, and else not at all. -/
theorem after {α : Type} {r : Except BuildError α} {g : α → List Edit}
    {f : α → Except BuildError String}
    (h : ∀ a, r = .ok a → Denotes clause (g a) (leaf link (f a))) :
    Denotes clause (Edit.after r g) (leaf link (r >>= f)) := by
  cases r with
  | error e => exact failure (some e)
  | ok a => exact h a rfl

/-- **The joined entries of a clause without their first connective are the written tree.** -/
theorem render (h : Denotes clause es cs) (t : Target) :
    renderConditions cs =
      if ((Builder.ofEdits t es).query.part clause).isEmpty then none
      else some (Connective.dropLeadingText
        (Fragment.join " " ((Builder.ofEdits t es).query.part clause).fragments)) := by
  have htexts : ((Builder.ofEdits t es).query.part clause).texts = (members cs).map Member.sql := by
    have hempty : ∀ c : Clause, (({ target := t } : Builder).query.part c).texts = [] := by
      intro c
      cases c <;> rfl
    exact (h.texts { target := t }).trans (by rw [hempty, List.nil_append])
  have hisEmpty : ((Builder.ofEdits t es).query.part clause).isEmpty = (members cs).isEmpty := by
    rw [← List.isEmpty_map (f := Member.sql), ← htexts, Part.texts, List.isEmpty_map, Part.isEmpty]
  rw [renderConditions, renderLevel_eq h.proper, ← htexts, hisEmpty]
  rfl

/-- A condition that is no member of its level needs no entry. -/
theorem absent {c : Condition} (hc : c.member? = none) : Denotes clause [] [c] := by
  have hmembers : members [c] = [] := by rw [members_cons, hc, members_nil]; rfl
  refine ⟨fun b => ?_, fun m hm => ?_⟩
  · rw [hmembers, List.map_nil, List.append_nil, Builder.edits_nil]
  · rw [hmembers] at hm
    exact absurd hm List.not_mem_nil

/-- **A group encloses the written tree of its calls**, and there is none around nothing. -/
theorem group (h : Denotes clause es cs) (t : Target) :
    Denotes clause ((Builder.ofEdits t es).groupEdits clause link) [.group link cs] := by
  have hrender : (Condition.group link cs).member? =
      (renderConditions cs).map fun s => ⟨link.keyword, "(" ++ s ++ ")"⟩ := by
    rw [Condition.member?, renderConditions]
  rw [h.render t] at hrender
  have hfailure : Denotes clause (Edit.failure (Builder.ofEdits t es).error) [] := failure _
  refine hfailure.append ?_
  split
  · next hempty =>
    rw [if_pos hempty] at hrender
    exact absent hrender
  · next hempty =>
    rw [if_neg hempty] at hrender
    exact member hrender rfl ⟨⟨link, .inl rfl⟩, .behind (by decide)⟩

/-- **A nested query is a group**, or a predicate if it names a table. -/
theorem nested (h : Denotes clause es cs) (t : Target) :
    Denotes clause ((Builder.ofEdits t es).conditionEdits clause link)
      (if ((Builder.ofEdits t es).query.part .froms).isEmpty then [.group link cs]
        else leaf link do
          let s ← (Builder.ofEdits t es).compile
          return "EXISTS (" ++ s.sql ++ ")") := by
  unfold Builder.conditionEdits
  split
  · exact h.group t
  · exact after fun s _ => structured (.behind (by decide))

end Denotes

/-! ## Predicates -/

section Predicates

variable {t : Target} {clause : Clause} {link : Connective}

/-- **A comparison writes its text.** -/
theorem Comparison.denotes (c : Comparison) :
    Denotes clause (c.edits t clause link) (leaf link (c.text t)) := by
  refine .after fun op _ => ?_
  by_cases hnull : c.value.isNull = true
  · rw [if_pos hnull, if_pos hnull]
    exact .structured (.nullText ..)
  · rw [if_neg hnull, if_neg hnull]
    exact .structured (.behind (by decide))

theorem Comparison.batch_denotes (cs : List Comparison) :
    Denotes clause (Comparison.batch t clause link cs)
      (cs.flatMap fun c => leaf link (c.normalized >>= (·.text t))) :=
  .flatMap fun _ _ => .after fun n _ => n.denotes

theorem Edit.inCondition_denotes (negated : Bool) (column : String) (values : List Value) :
    Denotes clause [inCondition t clause link negated column values]
      [.structured link (inText t negated column values)] := by
  have hin := NotBlank.inText t negated column values
  unfold inText at hin ⊢
  unfold inCondition
  split
  · next hempty =>
    rw [if_pos hempty] at hin
    exact .structured hin
  · next hempty =>
    rw [if_neg hempty] at hin
    exact .structured hin

/-- A step of a join writes its condition. -/
theorem JoinStep.denotes (step : JoinStep) :
    Denotes .joins (step.edits t) (step.conditions t) := by
  cases step with
  | on link first operator second =>
    exact .after fun op hop =>
      .structured (.before (.before (.behind (Operator.notBlank_of_check hop))))
  | compare link c => exact c.denotes
  | null negated column => exact .structured (.nullText ..)
  | within column values => exact Edit.inCondition_denotes false column values
  | note => exact .nil

end Predicates

/-! ## The induction -/

theorem Zone.clause_injective {z z' : Zone} (h : z.clause = z'.clause) : z = z' := by
  cases z <;> cases z' <;> first | rfl | cases h

mutual

/-- **A predicate writes its conditions.** -/
theorem Predicate.denotes (t : Target) (zone : Zone) (link : Connective) (p : Predicate)
    (h : p.Regular zone.clause) :
    Denotes zone.clause (p.edits t zone.clause link) (p.conditions t zone.clause link) := by
  cases p with
  | compare c => exact c.denotes
  | group calls =>
    rw [Predicate.edits, Predicate.conditions]
    exact (callsDenote t zone calls h).nested t
  | inList negated column values =>
    rw [Predicate.edits, Predicate.conditions]
    exact Edit.inCondition_denotes negated column values
  | null negated column => exact .structured (.nullText ..)
  | compareSource _ _ _ | sourceCompare _ _ _ | quantified _ _ _ _ =>
    rw [Predicate.edits, Predicate.conditions]
    exact .after fun op _ => .after fun s _ => .structured (.behind (by decide))
  | inSource _ _ _ | like _ _ _ | existence _ _ =>
    rw [Predicate.edits, Predicate.conditions]
    exact .after fun s _ => .structured (.behind (by decide))
  | between _ _ _ _ => exact .structured (.behind (by decide))
  | raw e values => exact .raw h

/-- **A call writes its conditions** into a zone, and nothing else there. -/
theorem Call.denotes (t : Target) (zone : Zone) (call : Call) (h : call.Regular zone.clause) :
    Denotes zone.clause (call.edits t) (call.conditions t zone.clause) := by
  have huntouched (hc : zone.clause ∉ call.touched) : Denotes zone.clause (call.edits t) [] :=
    .untouched (call.within t) hc
  cases call with
  | push d fragments values => exact huntouched fun hc => h (List.mem_singleton.mp hc).symm
  | nest calls d link =>
    rw [Call.conditions]
    split
    · next hd =>
      subst hd
      rw [Call.edits]
      exact (callsDenote t zone calls (h rfl)).group t
    · next hd => exact huntouched fun hc => hd (List.mem_singleton.mp hc).symm
  | condition z link p =>
    rw [Call.conditions]
    split
    · next hz =>
      obtain rfl := Zone.clause_injective hz
      rw [Call.edits]
      exact p.denotes t z link (h rfl)
    · next hz => exact huntouched fun hc => hz (List.mem_singleton.mp hc).symm
  | compareMany z link comparisons =>
    rw [Call.conditions]
    split
    · next hz =>
      rw [Call.edits, hz]
      exact Comparison.batch_denotes comparisons
    · next hz => exact huntouched fun hc => hz (List.mem_singleton.mp hc).symm
  | inMany lists =>
    rw [Call.conditions]
    split
    · next hz =>
      rw [Call.edits, hz]
      exact .map fun l _ => Edit.inCondition_denotes false l.1 l.2
    · next hz => exact huntouched fun hc => hz (List.mem_singleton.mp hc)
  | nullMany negated columns =>
    rw [Call.conditions]
    split
    · next hz =>
      rw [Call.edits, hz]
      exact .map fun c _ => .structured (.nullText t negated c)
    · next hz => exact huntouched fun hc => hz (List.mem_singleton.mp hc)
  | list listing _ _ | listRaw listing _ _ | listSource listing _ _ =>
    have hc : zone.clause ≠ listing.clause := by cases zone <;> cases listing <;> nofun
    exact huntouched fun hmem => hc (List.mem_singleton.mp hmem)
  | _ => exact huntouched (by cases zone <;> simp [Call.touched, Zone.clause])

/-- **Calls write the tree they denote.** -/
theorem callsDenote (t : Target) (zone : Zone) (calls : List Call)
    (h : callsRegular zone.clause calls) :
    Denotes zone.clause (callEdits t calls) (callConditions t zone.clause calls) := by
  cases calls with
  | nil => exact .nil
  | cons call rest =>
    rw [callEdits, callConditions]
    exact (call.denotes t zone h.1).append (callsDenote t zone rest h.2)

end

/-! ## The written tree -/

/-- The keyword in front of the conditions of a zone. -/
def Zone.keyword : Zone → String
  | wheres => "WHERE"
  | havings => "HAVING"

/-- **The text of a zone is its keyword and its joined entries without their first connective.** -/
theorem Query.clause?_zone (q : Query) (zone : Zone) :
    q.clause? zone.clause =
      (if (q.part zone.clause).isEmpty then none
        else some (Connective.dropLeadingText
          (Fragment.join " " (q.part zone.clause).fragments))).map (zone.keyword ++ " " ++ ·) := by
  have hclause : q.clause? zone.clause = q.conditions? zone.clause zone.keyword := by
    cases zone <;> rfl
  rw [hclause, conditions?, fragments?, Part.isEmpty]
  cases (q.part zone.clause).fragments <;> rfl

/-- **What ties a table to the rest step by step is the written tree of the steps**, behind `ON`. -/
theorem JoinCondition.denotes_steps (t : Target) (kind : JoinKind) (table : String)
    (values : List Value) (steps : List JoinStep) (b : Builder) :
    ((b.edits ((JoinCondition.steps steps).edits t kind table values)).query.part .joins).texts =
      (b.query.part .joins).texts ++ [kind.keyword ++ " " ++ table ++
        ((renderConditions (steps.flatMap (JoinStep.conditions t))).elim "" (" ON " ++ ·))] := by
  have hsteps : Denotes .joins (steps.flatMap (JoinStep.edits t))
      (steps.flatMap (JoinStep.conditions t)) := .flatMap fun step _ => step.denotes
  have hfailure : ((b.edits (Edit.failure (Builder.ofEdits t
      (steps.flatMap (JoinStep.edits t))).error)).query.part .joins) = b.query.part .joins :=
    (Within.failure _ : Within [] _).part_eq List.not_mem_nil b
  simp only [JoinCondition.edits]
  rw [Builder.edits_append, hsteps.render t]
  split
  · rw [← hfailure]
    exact Builder.texts_append _ ..
  · rw [← hfailure]
    exact Builder.texts_append _ ..

/-- **Conditions are written as the tree they denote.**  In a zone, the text behind the keyword is the
written tree of the conditions of the calls, and there is no text if the tree has no member; in a join
it is that of the steps. -/
theorem Builder.conditions_rendered (t : Target) (calls : List Call) :
    let b := (Builder.new t).calls calls
    (∀ zone : Zone, callsRegular zone.clause calls →
      b.query.clause? zone.clause =
        (renderConditions (callConditions t zone.clause calls)).map (zone.keyword ++ " " ++ ·)) ∧
    ∀ (kind : JoinKind) (steps : List JoinStep),
      let on := (renderConditions (steps.flatMap (JoinStep.conditions t))).elim "" (" ON " ++ ·)
      (∀ table, ((b.call (.join kind table (.steps steps))).query.part .joins).texts =
        (b.query.part .joins).texts ++
          [kind.keyword ++ " " ++ t.dialect.quoteColumn table ++ on]) ∧
      ∀ source label s, (Source.evaluate t source).tableStatement t = .ok s →
        ((b.call (.joinSource kind source label (.steps steps))).query.part .joins).texts =
          (b.query.part .joins).texts ++
            [kind.keyword ++ " " ++ t.dialect.aliased ("(" ++ s.sql ++ ")") label ++ on] := by
  intro b
  have hb : b = Builder.ofEdits t (callEdits t calls) := Builder.calls_eq_edits _ calls
  have htarget : b.target = t := by rw [hb, Builder.target_ofEdits]
  refine ⟨fun zone h => ?_, fun kind steps => ⟨fun table => ?_, fun source label s hs => ?_⟩⟩
  · rw [Query.clause?_zone, hb, (callsDenote t zone calls h).render t]
  · rw [Builder.call, htarget, Call.edits]
    exact JoinCondition.denotes_steps t kind _ [] steps b
  · rw [Builder.call, htarget, Call.edits, hs]
    exact JoinCondition.denotes_steps t kind _ s.bindings steps b

/-- A group around nothing, a literal text that begins with a connective of its own, and a join with
a sub-query and two steps. -/
theorem Builder.conditions_rendered_nested :
    let t : Target := ⟨.mysql, none⟩
    let calls : List Call :=
      [.condition .wheres .or (.compare ⟨"a", none, .int 1⟩), .condition .wheres .and (.group []),
        .condition .wheres .or (.group [.condition .wheres .or (.raw ⟨"  and b", none⟩ []),
          .condition .wheres .and (.null false "order")])]
    let source : Source := .closure [.tables ["c"]]
    let steps : List JoinStep := [.on .or "d.x" "=" "a.x", .null true "d.y"]
    let b := (Builder.new t).calls calls
    (callsRegular Zone.wheres.clause calls ∧
      (source.evaluate t).tableStatement t = .ok ⟨"SELECT * FROM `c`", []⟩) ∧
      b.query.clause? .wheres = some "WHERE `a` = ? OR (and b AND `order` IS NULL)" ∧
      ((b.call (.joinSource .left source "d" (.steps steps))).query.part .joins).texts =
        ["LEFT JOIN (SELECT * FROM `c`) AS `d` ON `d`.`x` = `a`.`x` AND `d`.`y` IS NOT NULL"] := by
  intro t calls source steps b
  have hcalls : callsRegular Zone.wheres.clause calls := by
    simp only [calls, callsRegular, Call.Regular, Predicate.Regular]
    decide
  have hsource : (source.evaluate t).tableStatement t = .ok ⟨"SELECT * FROM `c`", []⟩ := by
    decide +kernel
  obtain ⟨hzone, hjoin⟩ := Builder.conditions_rendered t calls
  refine ⟨⟨hcalls, hsource⟩, (hzone .wheres hcalls).trans ?_,
    ((hjoin .left steps).2 source "d" _ hsource).trans ?_⟩
  · decide +kernel
  · decide +kernel

end FluentSql
