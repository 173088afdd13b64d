import FluentSql.Builder.Fluent
import FluentSql.Proofs.Alignment.Balanced
import FluentSql.Proofs.Edits

/-!
# Proofs/Literal — where the value of a literal text goes

    from_expr  (f(?), 1)   ──▶   texts: …, f(?)     values: …, 1      bound where its placeholder is
    set_table  (f(?), 1)   ──▶   texts: …, f(?)     values: …         not bound

A literal text can have a value of its own.  A call that writes the text into a clause takes the two
apart, wherever the text is to stand: alone, under a label, as a sub-query, as an operand.  A call that
pushes a fragment does not look into it, and the value stays inside.  `Call.Stores` lists the calls by
what they do with the text (`Storage`), and the edits of each are the same for all literal texts but for
the text and its value (`Stored`).  That is what it means to be bound once: the value is added, and
nothing else that the clause has depends on it.
-/

namespace FluentSql

/-! ## Calls that store a literal text -/

/-- **What a call does with a literal text** that it puts into a clause. -/
inductive Storage
  /-- The text goes behind the texts of the clause, the value behind its values. -/
  | added
  /-- Text and value take the place of what the clause has. -/
  | replaced
  /-- Text and value go into the clause as one fragment, with others before and after it. -/
  | pushed (before after : List Fragment)

namespace Storage

/-- What a clause then has in front of the text, of what it had. -/
def ahead (p : Part) : Storage → Part
  | added => p
  | replaced => {}
  | pushed before _ => p.append before []

/-- The fragments that come behind the text. -/
def behind : Storage → List Fragment
  | pushed _ after => after
  | _ => []

/-- **The values of the text that are bound.** -/
def bound (x : Expression) : Storage → List Value
  | pushed _ _ => []
  | _ => x.bind.toList

end Storage

/-- **Conditions with a literal text**: the text itself, a sub-query or an operand. -/
inductive Predicate.Stores : (Expression → Predicate) → Prop
  | raw (values : List Value) : Stores fun x => .raw x values
  | compareSource (column operator : String) :
    Stores fun x => .compareSource column operator (.raw x)
  | sourceCompare (operator : String) (value : Value) :
    Stores fun x => .sourceCompare (.raw x) operator value
  | inSource (negated : Bool) (column : String) : Stores fun x => .inSource negated column (.raw x)
  | like (negated : Bool) (pattern : Value) :
    Stores fun x => .like negated (.source (.raw x)) pattern
  | existence (negated : Bool) : Stores fun x => .existence negated (.raw x)
  | quantified (quantifier : Quantifier) (column operator : String) :
    Stores fun x => .quantified quantifier column operator (.raw x)

/-- **Calls with a literal text**, by the clause it is put into and by what is done with it. -/
inductive Call.Stores : Clause → Storage → (Expression → Call) → Prop
  | tableRaw (values : List Value) : Stores .froms .added fun x => .tableRaw x values
  | tableSource (label : String) : Stores .froms .added fun x => .tableSource (.raw x) label
  | selectExpr (label : String) : Stores .columns .added fun x => .selectExpr x label
  | selectRaw : Stores .columns .added .selectRaw
  | selectSource (label : Option String) :
    Stores .columns .added fun x => .selectSource (.raw x) label
  | condition (zone : Zone) (link : Connective) {p : Expression → Predicate}
    (h : Predicate.Stores p) : Stores zone.clause .added fun x => .condition zone link (p x)
  | joinSource (kind : JoinKind) (label : String) (condition : JoinCondition) :
    Stores .joins .added fun x => .joinSource kind (.raw x) label condition
  | listRaw (listing : Listing) (values : List Value) :
    Stores listing.clause .added fun x => .listRaw listing x values
  | listSource (listing : Listing) (direction : Option Direction) :
    Stores listing.clause .added fun x => .listSource listing (.raw x) direction
  | union (all : Bool) : Stores .unions .added fun x => .union all (.raw x)
  | limitRaw : Stores .limits .replaced .limitRaw
  | offsetRaw : Stores .offset .replaced .offsetRaw
  | push (clause : Clause) (before after : List Fragment) :
    Stores clause (.pushed before after) fun x => .push clause (before ++ .raw x :: after) []

/-! ## Edits with a literal text -/

/-- **A text with a literal text in it**, the same for all of them before and after it; what is before it
holds no placeholder if the names around hold none. -/
def Written (named : Prop) (w : Expression → String) : Prop :=
  ∃ front back, (∀ x, w x = front ++ x.text ++ back) ∧ (named → NoPlaceholder front)

/-- **Edits that store a literal text**, or fail for all of them alike.  The error that the steps of a
join pass on comes first. -/
inductive Stored (named : Prop) (clause : Clause) : Storage → (Expression → List Edit) → Prop
  | fails (s : Storage) (e : BuildError) : Stored named clause s fun _ => [.fail e]
  | added (passed : Option BuildError) (rest : List Value) {f : Expression → Fragment}
    (h : Written named fun x => (f x).sql) :
    Stored named clause .added fun x =>
      Edit.failure passed ++ [.append clause [f x] (x.values ++ rest)]
  | replaced : Stored named clause .replaced fun x => [.replaceRaw clause x]
  | pushed (before after : List Fragment) :
    Stored named clause (.pushed before after) fun x =>
      [.append clause (before ++ .raw x :: after) []]

namespace Written

variable {named : Prop} {w : Expression → String}

/-- The literal text itself. -/
theorem self : Written named Expression.text :=
  ⟨"", "", fun x => by rw [String.empty_append, String.append_empty], fun _ => by decide⟩

theorem before (right : String) : Written named w → Written named fun x => w x ++ right
  | ⟨front, back, hw, hfront⟩ => ⟨front, back ++ right, fun x => by
      simp only [hw, String.append_assoc], hfront⟩

theorem behind {left : String} (hleft : named → NoPlaceholder left) :
    Written named w → Written named fun x => left ++ w x
  | ⟨front, back, hw, hfront⟩ => ⟨left ++ front, back, fun x => by
      simp only [hw, String.append_assoc], fun h => (hleft h).append (hfront h)⟩

/-- A sub-query in parentheses. -/
theorem parenthesized (h : Written named w) : Written named fun x => "(" ++ w x ++ ")" :=
  (h.behind fun _ => by decide).before ")"

/-- A text under a label. -/
theorem aliased (h : Written named w) (t : Target) (label : String) :
    Written named fun x => t.dialect.aliased (w x) label :=
  (h.before " AS ").before (t.dialect.quoteIdentifier label)

/-- A text with a direction behind it. -/
theorem directed (h : Written named w) (direction : Option Direction) :
    Written named fun x => FluentSql.directed (w x) direction := by
  cases direction with
  | none => exact h
  | some d => exact (h.before " ").before d.keyword

end Written

namespace Stored

variable {named : Prop} {clause : Clause} {f : Expression → Fragment} {w : Expression → String}

/-- One entry, its own value before the others. -/
theorem entry (rest : List Value) (h : Written named fun x => (f x).sql) :
    Stored named clause .added fun x => [.append clause [f x] (x.values ++ rest)] := .added none rest h

/-- One entry without other values. -/
theorem alone (h : Written named fun x => (f x).sql) :
    Stored named clause .added fun x => [.append clause [f x] x.values] := by
  simpa only [List.append_nil] using entry [] h

/-- **A condition behind its connective.** -/
theorem condition (link : Connective) (rest : List Value) (h : Written named w) :
    Stored named clause .added fun x => [.condition clause link (w x) (x.values ++ rest)] :=
  entry rest (f := fun x => .text (link.keyword ++ " " ++ w x))
    (h.behind fun _ => noPlaceholder_keyword link)

theorem condition_alone (link : Connective) (h : Written named w) :
    Stored named clause .added fun x => [.condition clause link (w x) x.values] := by
  simpa only [List.append_nil] using condition link [] h

/-- **What has to go well first fails for all literal texts or for none.** -/
theorem after {α : Type} {r : Except BuildError α} {next : Expression → α → List Edit}
    (h : ∀ a, r = .ok a → Stored named clause .added fun x => next x a) :
    Stored named clause .added fun x => Edit.after r (next x) := by
  cases r with
  | error e => exact .fails _ e
  | ok a => exact h a rfl

end Stored

/-- **A join with a table of literal text stores it**, whatever ties the table to the rest. -/
theorem JoinCondition.stored (t : Target) {named : Prop} {w : Expression → String}
    (h : Written named w) (kind : JoinKind) (condition : JoinCondition) :
    Stored named .joins .added fun x => condition.edits t kind (w x) x.values := by
  have hjoin (passed : Option BuildError) (tie : String) (rest : List Value) :
      Stored named .joins .added fun x =>
        Edit.failure passed ++ [.join kind (w x) tie (x.values ++ rest)] :=
    .added passed rest (f := fun x => .text (kind.keyword ++ " " ++ w x ++ tie))
      ((h.behind fun _ => by cases kind <;> decide).before tie)
  have halone (passed : Option BuildError) (tie : String) :
      Stored named .joins .added fun x => Edit.failure passed ++ [.join kind (w x) tie x.values] := by
    simpa only [List.append_nil] using hjoin passed tie []
  cases condition with
  | none => exact halone Option.none ""
  | columns first operator second =>
    simp only [edits]
    exact .after fun op _ => halone Option.none (" ON " ++ first ++ " " ++ op ++ " " ++ second)
  | value column operator v =>
    simp only [edits]
    exact .after fun op _ =>
      hjoin Option.none (" WHERE " ++ t.dialect.quoteColumn column ++ " " ++ op ++ " ?") [v]
  | steps list =>
    simp only [edits]
    generalize Builder.ofEdits t (list.flatMap (JoinStep.edits t)) = nested
    cases (nested.query.part .joins).isEmpty with
    | true => exact halone nested.error ""
    | false =>
      exact hjoin nested.error
        (" ON " ++ Connective.dropLeadingText (Fragment.join " " (nested.query.part .joins).fragments))
        (nested.query.part .joins).bindings

/-- **A condition stores its literal text.** -/
theorem Predicate.Stores.stored {p : Expression → Predicate} (h : Predicate.Stores p) (t : Target)
    (clause : Clause) (link : Connective) :
    Stored (t.Placeless ∧ ∃ x, (p x).Balanced) clause .added fun x => (p x).edits t clause link := by
  cases h with
  | raw values =>
    exact .entry values (f := fun x => .raw ⟨link.rawKeyword ++ " " ++ x.text, none⟩)
      (Written.self.behind fun _ => noPlaceholder_rawKeyword link)
  | compareSource column operator =>
    simp only [Predicate.edits, Source.evaluate, Evaluated.statement]
    refine .after fun op hop => .condition_alone link ((Written.self.behind ?_).before ")")
    rintro ⟨ht, x, hx⟩
    exact (NoPlaceholder.compared ht hx.1 (Operator.not_mem_of_check hop)).append (by decide)
  | sourceCompare operator value =>
    simp only [Predicate.edits, Source.evaluate, Evaluated.statement]
    exact .after fun op _ => .condition link [value]
      (((Written.self.behind fun _ => by decide).before ") ").before op |>.before " ?")
  | inSource negated column =>
    simp only [Predicate.edits, Source.evaluate, Evaluated.statement]
    refine .condition_alone link ((Written.self.behind ?_).before ")")
    rintro ⟨ht, x, hx⟩
    exact (NoPlaceholder.compared ht hx.1 (noPlaceholder_negatedKeyword negated (by decide))).append
      (by decide)
  | like negated pattern =>
    simp only [Predicate.edits, Operand.resolve]
    exact .condition link [pattern]
      ((Written.self.before " ").before (negatedKeyword negated "LIKE") |>.before " ?")
  | existence negated =>
    simp only [Predicate.edits, Source.evaluate, Evaluated.statement]
    exact .condition_alone link ((Written.self.behind fun _ =>
      (noPlaceholder_negatedKeyword negated (by decide)).append (by decide)).before ")")
  | quantified quantifier column operator =>
    simp only [Predicate.edits, Source.evaluate, Evaluated.statement]
    refine .after fun op hop => .condition_alone link ((Written.self.behind ?_).before ")")
    rintro ⟨ht, x, hx⟩
    have hquantifier : NoPlaceholder quantifier.keyword := by cases quantifier <;> decide
    exact (((NoPlaceholder.compared ht hx.1 (Operator.not_mem_of_check hop)).append
      (by decide)).append hquantifier).append (by decide)

/-- **A call stores its literal text.** -/
theorem Call.Stores.stored {clause : Clause} {s : Storage} {c : Expression → Call}
    (h : Call.Stores clause s c) (t : Target) :
    Stored (t.Placeless ∧ ∃ x, (c x).Balanced) clause s fun x => (c x).edits t := by
  cases h with
  | tableRaw values => exact .entry values (f := fun x => .raw x.bare) .self
  | tableSource label =>
    simp only [Call.edits, Source.evaluate, Evaluated.tableStatement, Evaluated.statement]
    exact .alone (.aliased (.parenthesized .self) t label)
  | selectExpr label =>
    exact .entry [] (f := fun x => .raw ⟨t.dialect.aliased x.text label, none⟩) (.aliased .self t label)
  | selectRaw => exact .entry [] (f := fun x => .raw x.bare) .self
  | selectSource label =>
    simp only [Call.edits, Source.evaluate, Evaluated.statement]
    cases label with
    | none => exact .alone (.parenthesized .self)
    | some label => exact .alone (.aliased (.parenthesized .self) t label)
  | @condition zone link p hp =>
    simp only [Call.edits]
    exact hp.stored t zone.clause link
  | joinSource kind label condition =>
    simp only [Call.edits, Source.evaluate, Evaluated.tableStatement, Evaluated.statement]
    exact condition.stored t (.aliased (.parenthesized .self) t label) kind
  | listRaw listing values => exact .entry values (f := fun x => .raw x.bare) .self
  | listSource listing direction =>
    simp only [Call.edits, Source.evaluate, Evaluated.statement]
    exact .alone (.directed (.parenthesized .self) direction)
  | union all =>
    simp only [Call.edits, Source.evaluate, Evaluated.statement]
    exact .alone (f := fun x => .raw ⟨unionKeyword all ++ " " ++ x.text, none⟩)
      (Written.self.behind fun _ => by cases all <;> decide)
  | limitRaw => exact .replaced
  | offsetRaw => exact .replaced
  | push clause before after => exact .pushed before after

/-! ## The clause after a call -/

/-- The number of placeholders in some texts. -/
def placeholderCount (texts : List String) : Nat := (texts.flatMap String.toList).count '?'

/-- Text without placeholders does not count. -/
theorem placeholderCount_concat {texts : List String} {front : String} (h : NoPlaceholder front) :
    placeholderCount (texts ++ [front]) = placeholderCount texts := by
  rw [placeholderCount, placeholderCount, List.flatMap_append, List.count_append,
    List.flatMap_singleton, List.count_eq_zero_of_not_mem h, Nat.add_zero]

namespace Builder

/-- **A clause that stores a literal text**: what was in front of it, the text in one fragment, its
bound value and the values behind it. -/
theorem part_of_stored {named : Prop} {clause : Clause} {s : Storage} {es : Expression → List Edit}
    (h : Stored named clause s es) (b : Builder) :
    (∃ e, ∀ x, b.edits (es x) = b.edit (.fail e)) ∨
    ∃ front back rest, (named → NoPlaceholder front) ∧ ∀ x, ∃ f : Fragment,
      f.sql = front ++ x.text ++ back ∧
      (b.edits (es x)).query.part clause =
        ⟨(s.ahead (b.query.part clause)).fragments ++ f :: s.behind,
          (s.ahead (b.query.part clause)).bindings ++ s.bound x ++ rest⟩ := by
  cases h with
  | fails s e => exact .inl ⟨e, fun _ => rfl⟩
  | @added passed rest f hf =>
    obtain ⟨front, back, hsql, hfront⟩ := hf
    refine .inr ⟨front, back, rest, hfront, fun x => ⟨f x, hsql x, ?_⟩⟩
    rw [edits_append, edits_failure]
    change (b.query.append clause [f x] (x.values ++ rest)).part clause = _
    rw [Query.append, Query.part_modify_self, Part.append, ← List.append_assoc]
    rfl
  | replaced =>
    refine .inr ⟨"", "", [], fun _ => by decide, fun x => ⟨.raw x.bare, ?_, ?_⟩⟩
    · rw [Fragment.sql_raw, Expression.bare_text, String.empty_append, String.append_empty]
    · change (b.query.replace clause (.raw x.bare) x.values).part clause = _
      rw [Query.replace, Query.append, Query.part_modify_self, Query.reset, Query.part_modify_self,
        List.append_nil]
      rfl
  | pushed before after =>
    refine .inr ⟨"", "", [], fun _ => by decide, fun x => ⟨.raw x, ?_, ?_⟩⟩
    · rw [Fragment.sql_raw, String.empty_append, String.append_empty]
    · change (b.query.append clause (before ++ .raw x :: after) []).part clause = _
      rw [Query.append, Query.part_modify_self, Part.append, ← List.append_assoc]
      simp only [Storage.ahead, Storage.behind, Storage.bound, Part.append, List.append_nil]

/-- **The value of a literal text is bound once and in its place, unless the text is pushed.**  On any
builder, a call with a literal text fails for all of them alike, or writes the text into one fragment of
its clause.  What else the clause then has is the same for all literal texts, and the value is added
once, in front of the values of the call itself; only when the text is pushed it is not bound.  If the
clause had a value for each placeholder and the names around the text hold none, as many values stand in
front of the value as placeholders in front of the text. -/
theorem literal_bound_unless_pushed (b : Builder) {clause : Clause} {s : Storage}
    {c : Expression → Call} (h : Call.Stores clause s c) :
    let ahead := s.ahead (b.query.part clause)
    (∃ e, ∀ x, b.call (c x) = b.edit (.fail e)) ∨
    ∃ front back rest, ∀ x, ∃ f : Fragment, f.sql = front ++ x.text ++ back ∧
      (b.call (c x)).query.part clause =
        ⟨ahead.fragments ++ f :: s.behind, ahead.bindings ++ s.bound x ++ rest⟩ ∧
      (b.target.Placeless → (c x).Balanced → placeholderCount ahead.texts = ahead.bindings.length →
        placeholderCount (ahead.texts ++ [front]) = ahead.bindings.length) := by
  intro ahead
  refine (part_of_stored (h.stored b.target) b).imp_right ?_
  rintro ⟨front, back, rest, hfront, hpart⟩
  refine ⟨front, back, rest, fun x => ?_⟩
  obtain ⟨f, hsql, hf⟩ := hpart x
  exact ⟨f, hsql, hf, fun ht hx haligned =>
    (placeholderCount_concat (hfront ⟨ht, x, hx⟩)).trans haligned⟩

/-- A sub-query of literal text compared with a value: whatever its own value is, it is bound between
that of the condition before and the other one of the comparison. -/
theorem literal_bound_unless_pushed_compared :
    let b := (Builder.new ⟨.mysql, none⟩).calls [.table "t", .whereEq "a" (.int 1)]
    let text (v : Value) : Expression := ⟨"SELECT ?", some v⟩
    let call (x : Expression) : Call := .condition .wheres .or (.sourceCompare (.raw x) ">" (.int 9))
    Call.Stores .wheres .added call ∧ b.target.Placeless ∧ (∀ v, (call (text v)).Balanced) ∧
      placeholderCount (b.query.part .wheres).texts = 1 ∧
      ∃ front back rest, ∀ v, ∃ f : Fragment, f.sql = front ++ "SELECT ?" ++ back ∧
        (b.call (call (text v))).query.part .wheres =
          ⟨[.text "AND `a` = ?", f], [.int 1, v] ++ rest⟩ ∧
        placeholderCount (["AND `a` = ?"] ++ [front]) = 1 := by
  intro b text call
  have hstores : Call.Stores .wheres .added call :=
    .condition .wheres .or (.sourceCompare ">" (.int 9))
  have hplaceless : b.target.Placeless := Target.placeless_mysql none nofun
  have hbalanced (v : Value) : (call (text v)).Balanced :=
    (by decide : "SELECT ?".toList.count '?' = 1)
  have hcount : placeholderCount (b.query.part .wheres).texts = 1 := by decide +kernel
  have hpart : b.query.part .wheres = ⟨[.text "AND `a` = ?"], [.int 1]⟩ := by decide +kernel
  refine ⟨hstores, hplaceless, hbalanced, hcount, ?_⟩
  rcases b.literal_bound_unless_pushed hstores with ⟨e, hfail⟩ | ⟨front, back, rest, hbound⟩
  · have hnone : (b.call (call (text .null))).error = none := by decide +kernel
    rw [hfail] at hnone
    cases hnone
  · refine ⟨front, back, rest, fun v => ?_⟩
    obtain ⟨f, hsql, hf, hplace⟩ := hbound (text v)
    have hplace := hplace hplaceless (hbalanced v) hcount
    rw [Storage.ahead, hpart] at hf hplace
    exact ⟨f, hsql, hf, hplace⟩

/-- A text that is put among the sources as it is keeps its value, and the value of the next placeholder
takes its place; the same text put there by its own call is bound. -/
theorem literal_pushed_unbound :
    let x : Expression := ⟨"f(?)", some (.int 1)⟩
    let b := (Builder.new ⟨.mysql, none⟩).calls [.setTable (.raw x), .whereEq "a" (.int 2)]
    b.query.part .froms = ⟨[.raw x], []⟩ ∧
      b.compile = .ok ⟨"SELECT * FROM f(?) WHERE `a` = ?", [.int 2]⟩ ∧
      ((Builder.new ⟨.mysql, none⟩).calls [.tableExpr x, .whereEq "a" (.int 2)]).compile =
        .ok ⟨"SELECT * FROM f(?) WHERE `a` = ?", [.int 1, .int 2]⟩ := by
  decide +kernel

end Builder

end FluentSql
