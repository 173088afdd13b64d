import FluentSql.Proofs.Keyword.Call

/-!
# Proofs/Keyword/Select — the clauses of a SELECT stand in one order

Of calls with legible words and without a union, the SELECT shows the keywords of its clauses in the
order of the statement, each at most once and only if the clause has an entry
(`Builder.select_canonical`).  Between the sources and the conditions stand the joins, each with one
`ON` at most.  A join against a value is the exception: it is written with a `WHERE` of its own, so a
statement with one has several, the first before later joins (`Builder.where_twice`).
-/

namespace FluentSql

namespace Builder

/-- **The clauses of a SELECT stand in one order**, whatever the calls and however they nest.  A join
shows nothing but how it ties its table, by a condition behind `WHERE` only if a call joins against a
value. -/
theorem select_canonical {dialects : List Dialect} {t : Target} {calls : List Call}
    (hdialects : ∀ d ∈ dialects, d.Legible) (ht : t.dialect ∈ dialects)
    (hcalls : callsUse (legible dialects) calls) (hunion : ∀ call ∈ calls, call.isUnion = false) :
    let b := (new t).calls calls
    ∃ ties : List (List String),
      (∀ tie ∈ ties, Tie (∃ call ∈ calls, call.joinsByValue = true) tie) ∧
      keywords b.sql = ["SELECT"] ++ b.query.heading .froms ++ ties.flatten ++
        b.query.heading .wheres ++ b.query.heading .groups ++ b.query.heading .havings ++
        b.query.heading .orders ++ b.query.heading .limits ++ b.query.heading .offset := by
  intro b
  have hb : b = ofEdits t (callEdits t calls) := calls_eq_edits _ _
  have hshows : b.query.Shows (callsAllow calls) := by
    rw [hb]
    exact shows_ofEdits t (callEdits_show ⟨hdialects, ht⟩ hcalls)
  have hnone : ∀ ws, Clause.unions.Allows (∃ call ∈ calls, call.joinsByValue = true)
      (∃ call ∈ calls, call.isUnion = true) ws → ws = [] := by
    rintro ws (h | ⟨call, hcall, hu⟩)
    · exact h
    · rw [hunion call hcall] at hu
      cases hu
  refine ⟨b.query.shown .joins, List.forall_mem_map.mpr fun f hf =>
    (hshows.entry .joins f hf).keywords, ?_⟩
  have hplain (c : Clause) (hc : ∀ ws, c.Allows (∃ call ∈ calls, call.joinsByValue = true)
      (∃ call ∈ calls, call.isUnion = true) ws → ws = []) :
      b.query.heading c ++ (b.query.shown c).flatten = b.query.heading c := by
    rw [hshows.flatten_shown hc, List.append_nil]
  have hjoins : b.query.heading .joins = [] := ite_self []
  rw [sql, hshows.keywords_select.2, hshows.flatten_shown hnone]
  simp only [Query.middle, List.flatMap_cons, List.flatMap_nil, hplain .froms fun _ h => h,
    hplain .wheres fun _ h => h, hplain .groups fun _ h => h, hplain .havings fun _ h => h,
    hplain .orders fun _ h => h, hplain .limits fun _ h => h, hplain .offset fun _ h => h, hjoins,
    List.append_nil, List.nil_append, List.append_assoc, List.cons_append]

/-- A statement with every clause, over a join with a sub-query that has a union of its own. -/
theorem select_canonical_full :
    let calls : List Call :=
      [.offset 5, .limit 10, .list .orders ["u.from"] (some .desc), .tables ["users as `where`"],
        .condition .havings .and (.compare ⟨"n", some ">", .int 1⟩),
        .joinSource .left
          (.prepared (some ⟨.sqlite, some "archive"⟩)
            [.tables ["orders"], .condition .wheres .or (.null true "limit"),
              .union true (.text "SELECT 1 FROM (x)")])
          "o" (.columns "users.id" "=" "o.user_id"),
        .list .groups ["u.group"] none,
        .condition .wheres .and (.group [.condition .wheres .and (.existence false
          (.closure [.tables ["t"], .selectRaw ⟨"MAX(x)", none⟩]))])]
    let b := (new ⟨.mysql, none⟩).calls calls
    ((∀ d ∈ [Dialect.mysql, .sqlite], d.Legible) ∧ Dialect.mysql ∈ [Dialect.mysql, .sqlite] ∧
      callsUse (legible [.mysql, .sqlite]) calls ∧ ∀ call ∈ calls, call.isUnion = false) ∧
      ∃ ties : List (List String),
        (∀ tie ∈ ties, Tie (∃ call ∈ calls, call.joinsByValue = true) tie) ∧
        keywords b.sql = ["SELECT", "FROM"] ++ ties.flatten ++
          ["WHERE", "GROUP", "HAVING", "ORDER", "LIMIT", "OFFSET"] := by
  intro calls b
  have hdialects : ∀ d ∈ [Dialect.mysql, .sqlite], d.Legible :=
    List.forall_mem_cons.mpr ⟨Dialect.legible_mysql, List.forall_mem_singleton.mpr
      Dialect.legible_sqlite⟩
  have ht : Dialect.mysql ∈ [Dialect.mysql, .sqlite] := List.mem_cons_self
  have hfirst : Inert "users.id" := .word (by decide) (by decide)
  have hsecond : Inert "o.user_id" := .word (by decide) (by decide)
  have hcalls : callsUse (legible [.mysql, .sqlite]) calls := by
    simp only [calls, callsUse, Call.Uses, Predicate.Uses, Source.Uses, JoinCondition.Uses, legible,
      hfirst, hsecond, Option.mem_some_iff, forall_eq', List.forall_mem_cons, List.not_mem_nil,
      false_imp_iff, forall_true_iff]
    decide +kernel
  have hunion : ∀ call ∈ calls, call.isUnion = false := by
    simp only [calls, List.forall_mem_cons, Call.isUnion, List.not_mem_nil, false_imp_iff,
      forall_true_iff, and_self]
  have hheadings : b.query.heading .froms = ["FROM"] ∧ b.query.heading .wheres = ["WHERE"] ∧
      b.query.heading .groups = ["GROUP"] ∧ b.query.heading .havings = ["HAVING"] ∧
      b.query.heading .orders = ["ORDER"] ∧ b.query.heading .limits = ["LIMIT"] ∧
      b.query.heading .offset = ["OFFSET"] := by
    decide +kernel
  obtain ⟨ties, hties, hkeywords⟩ : ∃ ties : List (List String),
      (∀ tie ∈ ties, Tie (∃ call ∈ calls, call.joinsByValue = true) tie) ∧
      keywords b.sql = ["SELECT"] ++ b.query.heading .froms ++ ties.flatten ++
        b.query.heading .wheres ++ b.query.heading .groups ++ b.query.heading .havings ++
        b.query.heading .orders ++ b.query.heading .limits ++ b.query.heading .offset :=
    select_canonical hdialects ht hcalls hunion
  exact ⟨⟨hdialects, ht, hcalls, hunion⟩, ties, hties, by simpa [hheadings] using hkeywords⟩

/-- **A join against a value brings a `WHERE` of its own**, before later joins and beside that of the
conditions.  A literal operand stands there even if it is a keyword, and a name that looks quoted
passes through with what stands in its middle: a keyword, or a quote that turns the text behind it
inside out. -/
theorem where_twice :
    let run (calls : List Call) := (new ⟨.mysql, none⟩).calls calls
    let joined := run [.tables ["a"], .join .inner "b" (.value "b.x" "=" (.int 1)),
      .join .left "c" (.columns "a.z" "=" "c.z"), .condition .wheres .and (.null false "a.y")]
    let literal := run [.tables ["a"], .join .left "b" (.columns "where" "=" "b.x"),
      .condition .wheres .and (.null false "a.y")]
    let named := run [.tables ["`a` WHERE `b`"], .condition .wheres .and (.null false "x")]
    let unclosed := run [.tables ["`a`b`"], .condition .wheres .and (.null false "from")]
    (joined.error = none ∧
      keywords joined.sql = ["SELECT", "FROM", "JOIN", "WHERE", "JOIN", "ON", "WHERE"]) ∧
      (literal.error = none ∧
        keywords literal.sql = ["SELECT", "FROM", "JOIN", "ON", "WHERE", "WHERE"]) ∧
      (named.error = none ∧ keywords named.sql = ["SELECT", "FROM", "WHERE", "WHERE"]) ∧
      unclosed.error = none ∧ unclosed.sql = "SELECT * FROM `a`b` WHERE `from` IS NULL" ∧
        keywords unclosed.sql = ["SELECT", "FROM", "FROM"] := by
  decide +kernel

end Builder

end FluentSql
