import FluentSql.Proofs.Splice.Statement

/-!
# Proofs/Splice/Nested — gaps pass from a nested query to the query around it

A nested query comes back as a statement, as the group of one of its clauses, or as a table, and each
time it is put into one entry.  An entry around a text with a gap is an entry with a gap
(`EditsGap.entry`), so edits with one gap at most lead to edits with one gap at most
(`EditsGapped.compile`, `EditsGapped.group`, `EditsGapped.table`): a gap is lost only with a clause that
is not used, or with a failure.
-/

namespace FluentSql

variable {ι : Type} {w f : ι → String} {c : Clause} {es : ι → List Edit}

/-! ## Entries -/

/-- **An entry around a text with a gap has the gap.** -/
theorem EditsGap.entry (hc : c.Lasting) (hf : Anchored w f)
    (hstart : c = .froms → ∀ i, (f i).toList.head? = some '(') (values : List Value) :
    EditsGap w c fun i => [.entry c (f i) values] :=
  ⟨hc, [], fun i => .text (f i), values, [], ⟨hf, .of true⟩, fun _ he => absurd he List.not_mem_nil,
    hstart, fun _ => rfl⟩

theorem opens_keyword (link : Connective) : Opens (link.keyword ++ " ") := by
  cases link
  · exact ⟨'A', "ND ".toList, ' ', rfl, by decide, by decide, by decide⟩
  · exact ⟨'O', "R ".toList, ' ', rfl, by decide, by decide, by decide⟩

/-- **A condition around a gap has the gap.** -/
theorem EditsGap.condition (hc : c.Lasting) (hfroms : c ≠ .froms) (link : Connective)
    (hf : Spliced w f) (values : List Value) :
    EditsGap w c fun i => [.condition c link (f i) values] :=
  .entry hc (hf.anchored (opens_keyword link)) (fun h => absurd h hfroms) values

theorem opens_join (kind : JoinKind) : Opens (kind.keyword ++ " ") := by
  cases kind <;> exact ⟨_, _, ' ', rfl, by decide, by decide, by decide⟩

/-- **A join around a gap has the gap**, be it in the table or behind it. -/
theorem EditsGap.join {table condition : ι → String} (kind : JoinKind)
    (hf : Spliced w fun i => table i ++ condition i) (values : List Value) :
    EditsGap w .joins fun i => [.join kind (table i) (condition i) values] := by
  have hentry := EditsGap.entry (c := .joins) (by decide) (hf.anchored (opens_join kind)) nofun values
  simp only [← String.append_assoc] at hentry
  exact hentry

/-- **A union with a text with a gap has the gap.** -/
theorem EditsGap.union (all : Bool) (hf : Spliced w f) (values : List Value) :
    EditsGap w .unions fun i =>
      [.append .unions [.raw ⟨unionKeyword all ++ " " ++ f i, none⟩] values] := by
  have hopens : Opens (unionKeyword all ++ " ") := by
    cases all
    · exact ⟨'U', "NION ".toList, ' ', rfl, by decide, by decide, by decide⟩
    · exact ⟨'U', "NION ALL ".toList, ' ', rfl, by decide, by decide, by decide⟩
  exact ⟨by decide, [], fun i => .raw ⟨unionKeyword all ++ " " ++ f i, none⟩, values, [],
    ⟨hf.anchored hopens, .of false⟩, nofun, nofun, fun _ => rfl⟩

/-- A sub-query in parentheses keeps its gap behind an alias. -/
theorem Anchored.aliased (hf : Anchored w f) (d : Dialect) (label : String) :
    Anchored w fun i => d.aliased ("(" ++ f i ++ ")") label :=
  ((hf.parenthesis.before ")").before " AS ").before (d.quoteIdentifier label)

/-- Other edits around edits with a gap leave it, if they do not replace the clause. -/
theorem EditsGap.around (h : EditsGap w c es) (front back : List Edit) (hback : Keeps c back) :
    EditsGap w c fun i => front ++ es i ++ back := by
  obtain ⟨hc, before, f, values, after, hf, hafter, hstart, hes⟩ := h
  refine ⟨hc, front ++ before, f, values, after ++ back, hf, fun e he => ?_, hstart, fun i => ?_⟩
  · exact (List.mem_append.mp he).elim (hafter e) (hback e)
  · beta_reduce
    rw [hes]
    simp only [List.append_assoc, List.cons_append]

/-! ## Results -/

/-- **A result with a gap leads to an entry with a gap**, and a failure to the same failure. -/
theorem ResultGapped.after {r : ι → Except BuildError Statement} (h : ResultGapped w r)
    {next : Statement → List Edit}
    (hnext : ∀ f values, Anchored w f → EditsGapped w fun i => next ⟨f i, values⟩) :
    EditsGapped w fun i => Edit.after (r i) next := by
  rcases h with h | ⟨f, values, hf, hr⟩
  · exact .inl (h.map (Edit.after · next))
  · simp only [hr]
    exact hnext f values hf

/-- In parentheses a statement keeps its gap. -/
theorem ResultGapped.parenthesis {r : ι → Except BuildError Statement} (h : ResultGapped w r) :
    ResultGapped w fun i => (r i).map fun s => ⟨"(" ++ s.sql ++ ")", s.bindings⟩ := by
  rcases h with h | ⟨f, values, hf, hr⟩
  · exact .inl (h.map (Except.map _))
  · simp only [hr]
    exact .inr ⟨_, values, hf.parenthesis.before ")", fun _ => rfl⟩

/-- **A query with a gap compiles to a statement with the gap**, unless it always fails. -/
theorem QueryGap.compile {b : ι → Builder} (h : QueryGap w c fun i => (b i).query) (hw : Visible w)
    (herror : Fixed fun i => (b i).error) : ResultGapped w fun i => (b i).compile := by
  obtain ⟨error, herror⟩ := herror.exists
  obtain ⟨values, hvalues⟩ := h.bindings.exists
  cases error with
  | some e => exact .inl (.intro (.error e) fun i => by rw [Builder.compile_eq, herror])
  | none =>
    have hcompile (i : ι) : (b i).compile = .ok ⟨(b i).query.select, values⟩ := by
      rw [Builder.compile_eq, herror, ← hvalues i]
    exact .inr ⟨_, values, h.select hw, hcompile⟩

/-- **The joined conditions of a clause have the gap** without their first connective, and there is a
condition at least. -/
theorem EditsGap.conditions (h : EditsGap w c es) (hw : Visible w) (t : Target) :
    ∃ g values, Spliced w g ∧ ∀ i, ∃ fs,
      (Builder.ofEdits t (es i)).query.part c = ⟨fs, values⟩ ∧ fs.isEmpty = false ∧
        Connective.dropLeadingText (Fragment.join " " fs) = g i := by
  obtain ⟨-, f, ⟨hf, -⟩, q₀, fs, gs, hq⟩ := h.query t
  refine ⟨_, (q₀.part c).bindings,
    hf.dropLeadingText hw " " (fs.map Fragment.sql) (gs.map Fragment.sql), fun i => ?_⟩
  have hpart : (Builder.ofEdits t (es i)).query.part c = ⟨fs ++ f i :: gs, (q₀.part c).bindings⟩ :=
    (congrArg (Query.part · c) (hq i)).trans (Query.part_withFragments ..)
  refine ⟨fs ++ f i :: gs, hpart, by cases fs <;> rfl, ?_⟩
  rw [Fragment.join, List.map_append, List.map_cons]

section

variable (h : EditsGapped w es) (hw : Visible w) (t : Target)

include h

theorem EditsGapped.error : Fixed fun i => (Builder.ofEdits t (es i)).error :=
  h.elim (·.map fun es => (Builder.ofEdits t es).error) fun ⟨_, h⟩ => h.error t

theorem EditsGapped.isEmpty (d : Clause) :
    Fixed fun i => ((Builder.ofEdits t (es i)).query.part d).isEmpty := by
  rcases h with h | ⟨c, h⟩
  · exact h.map fun es => ((Builder.ofEdits t es).query.part d).isEmpty
  · by_cases hd : d = c
    · subst hd
      obtain ⟨-, f, -, q₀, fs, gs, hq⟩ := h.query t
      refine ⟨false, fun i => ?_⟩
      beta_reduce at hq ⊢
      rw [hq, Query.part_withFragments, Part.isEmpty]
      cases fs <;> rfl
    · exact ((h.query t).part hd).map Part.isEmpty

include hw

/-- **The statement of a nested query has its gap.** -/
theorem EditsGapped.compile : ResultGapped w fun i => (Builder.ofEdits t (es i)).compile := by
  rcases h with h | ⟨c, h⟩
  · exact .inl (h.map fun es => (Builder.ofEdits t es).compile)
  · exact (h.query t).compile hw (h.error t)

/-- **The group of a clause has the gap**, if the gap is in this clause. -/
theorem EditsGapped.group {d : Clause} (hd : d ≠ .froms) (link : Connective) :
    EditsGapped w fun i => (Builder.ofEdits t (es i)).groupEdits d link := by
  rcases h with h | ⟨c, h⟩
  · exact .inl (h.map fun es => (Builder.ofEdits t es).groupEdits d link)
  · obtain ⟨error, herror⟩ := (h.error t).exists
    by_cases hc : d = c
    · subst hc
      obtain ⟨g, values, hg, hpart⟩ := h.conditions hw t
      have hgroup (i : ι) : (Builder.ofEdits t (es i)).groupEdits d link =
          Edit.failure error ++ [.condition d link ("(" ++ g i ++ ")") values] ++ [] := by
        obtain ⟨fs, hfs, hempty, htext⟩ := hpart i
        rw [Builder.groupEdits, herror, hfs, Part.isEmpty, hempty, htext, List.append_nil]
        rfl
      simp only [hgroup]
      exact .inr ⟨d, (EditsGap.condition h.1 hd link ((hg.behind "(").before ")") values).around
        (Edit.failure error) [] .nil⟩
    · obtain ⟨part, hpart⟩ := ((h.query t).part hc).exists
      exact .inl (.intro (Edit.failure error ++ if part.isEmpty then [] else
        [.condition d link ("(" ++ Connective.dropLeadingText (Fragment.join " " part.fragments) ++
          ")") part.bindings]) fun i => by rw [Builder.groupEdits, herror, hpart])

/-- **A nested query as a condition has its gap or does not show it.** -/
theorem EditsGapped.conditionEdits {d : Clause} (hlasting : d.Lasting) (hd : d ≠ .froms)
    (link : Connective) :
    EditsGapped w fun i => (Builder.ofEdits t (es i)).conditionEdits d link := by
  obtain ⟨empty, hempty⟩ := (h.isEmpty t .froms).exists
  simp only [Builder.conditionEdits, hempty]
  cases empty
  · exact (h.compile hw t).after fun f values hf =>
      .inr ⟨d, .condition hlasting hd link ((hf.spliced.behind "EXISTS (").before ")") values⟩
  · exact h.group hw t hd link

end

/-! ## Tables -/

/-- Qualifying the first of some sources leaves the others alone. -/
theorem Builder.exists_qualifyFirst (qualifier : String) (x : Fragment) :
    ∃ y, ∀ r, qualifyFirst qualifier (x :: r) = y :: r := by
  cases x with
  | raw e => exact ⟨.raw e, fun _ => rfl⟩
  | text table =>
    by_cases hprefix : qualifier.toList.isPrefixOf table.toList = true
    · exact ⟨.text table, fun _ => if_pos hprefix⟩
    · exact ⟨.text (qualifier ++ table), fun _ => if_neg hprefix⟩

section

variable {qualifier : String} {m : Char} {rest : List Char}
  (hqualifier : qualifier.toList = m :: rest) (hm : IsMark m) (hne : m ≠ '(')

include hqualifier hm hne

/-- **A qualifier leaves the gap of a source**, for a sub-query in parentheses does not begin with
it. -/
theorem FragmentGap.qualifyFirst {f : ι → Fragment} (hf : FragmentGap w f)
    (hstart : ∀ i, (f i).sql.toList.head? = some '(') (gs : List Fragment) :
    ∃ g, FragmentGap w g ∧ ∀ i, Builder.qualifyFirst qualifier (f i :: gs) = g i :: gs := by
  obtain ⟨k, hk⟩ := hf.kind.exists
  cases k with
  | false =>
    refine ⟨f, hf, fun i => ?_⟩
    cases hfi : f i with
    | raw e => rfl
    | text s => exact absurd (hfi ▸ hk i) Bool.noConfusion
  | true =>
    refine ⟨fun i => .text (qualifier ++ (f i).sql), ⟨hf.text.behind hqualifier hm, .of true⟩,
      fun i => ?_⟩
    beta_reduce
    have hhead := hstart i
    cases hfi : f i with
    | raw e => exact absurd (hfi ▸ hk i) Bool.noConfusion
    | text s =>
      rw [hfi, Fragment.sql_text] at hhead
      have hprefix : ¬ qualifier.toList.isPrefixOf s.toList = true := by
        rw [List.isPrefixOf_iff_prefix, hqualifier]
        rintro ⟨r, hr⟩
        rw [← hr] at hhead
        exact hne (Option.some.inj hhead)
      exact if_neg hprefix

/-- **A qualifier leaves the gap of a query.** -/
theorem EditsGap.qualify (h : EditsGap w c es) (t : Target) :
    QueryGap w c fun i => Builder.qualify qualifier (Builder.ofEdits t (es i)).query := by
  obtain ⟨hc, before, f, values, after, hf, hafter, hstart, hes⟩ := h
  obtain ⟨q₀, fs, gs, hq⟩ := QueryAround.append hafter hes t
  beta_reduce at hq
  simp only [hq]
  by_cases hfroms : c = .froms
  · subst hfroms
    have hmodify (i : ι) : Builder.qualify qualifier (q₀.withFragments .froms (fs ++ f i :: gs)) =
        q₀.withFragments .froms (Builder.qualifyFirst qualifier (fs ++ f i :: gs)) :=
      Query.modify_modify ..
    simp only [hmodify]
    cases fs with
    | cons x fs =>
      obtain ⟨y, hy⟩ := Builder.exists_qualifyFirst qualifier x
      exact ⟨hc.2, f, hf, q₀, y :: fs, gs, fun i => congrArg (q₀.withFragments .froms) (hy _)⟩
    | nil =>
      obtain ⟨g, hg, hfirst⟩ := hf.qualifyFirst hqualifier hm hne (hstart rfl) gs
      exact ⟨hc.2, g, hg, q₀, [], gs, fun i => congrArg (q₀.withFragments .froms) (hfirst i)⟩
  · exact ⟨hc.2, f, hf, Builder.qualify qualifier q₀, fs, gs,
      fun i => Query.modify_comm q₀ _ _ hfroms⟩

end

/-- **A nested query as a table has its gap**, when no quote of the dialect can be taken for a
parenthesis. -/
theorem EditsGapped.table (h : EditsGapped w es) (hw : Visible w) (t parent : Target)
    (hmark : IsMark parent.dialect.quote) (hparen : parent.dialect.quote ≠ '(') :
    ResultGapped w fun i => ((Builder.ofEdits t (es i)).qualifiedFor parent).compile := by
  have hplain := h.compile hw t
  simp only [Builder.qualifiedFor, Builder.target_ofEdits]
  cases t.database with
  | none => exact hplain
  | some database =>
    by_cases hsame : parent.database = some database
    · simp only [if_pos hsame]
      exact hplain
    · simp only [if_neg hsame]
      obtain ⟨m, rest, hname, hm⟩ := parent.dialect.exists_quoteIdentifier database
      have hqualifier : (parent.dialect.quoteIdentifier database ++ ".").toList =
          m :: (rest ++ ['.']) := by
        rw [String.toList_append, hname]
        rfl
      have hmark' : IsMark m ∧ m ≠ '(' := by
        rcases hm with rfl | rfl
        · exact ⟨hmark, hparen⟩
        · decide
      rcases h with h | ⟨c, h⟩
      · exact .inl (h.map fun es => Builder.compile { Builder.ofEdits t es with
          query := Builder.qualify (parent.dialect.quoteIdentifier database ++ ".")
            (Builder.ofEdits t es).query })
      · exact (h.qualify hqualifier hmark'.1 hmark'.2 t).compile hw (h.error t)

end FluentSql
