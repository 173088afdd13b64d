import FluentSql.Builder.Fluent
import FluentSql.Connection.Script
import FluentSql.Proofs.Clauses
import FluentSql.Proofs.Edits
import FluentSql.Proofs.Frame
import FluentSql.Proofs.Session.History

/-!
# Proofs/Page/Count — what the total of a page counts

Reading a page runs two statements: the SELECT with the limit and offset of the page, and the count of
the SELECT as it was (`Database.executes_getPage`).  The two range over the same rows when the SELECT
had no limit and no offset, and then only (`Database.getPage_counts_iff`): one that was set before
stays in what is counted (`Database.getPage_counts_limited`).
-/

namespace FluentSql

variable {σ α β : Type}

/-! ## A SELECT around its paging -/

namespace Query

/-- The clauses between the columns and the limit. -/
def unlimited : List Clause := [.froms, .joins, .wheres, .groups, .havings, .orders]

/-- The clauses in front of the limit are other ones. -/
theorem ne_of_mem_unlimited : ∀ c ∈ Clause.columns :: unlimited, c ≠ .limits ∧ c ≠ .offset := by
  decide

/-- A SELECT up to its limit. -/
def front (q : Query) : String := "SELECT " ++ (q.clause? .columns).getD "*" ++ q.trail unlimited

/-- **Limit and offset**, as they stand in a SELECT. -/
def paging (q : Query) : String := q.trail [.limits, .offset]

/-- A SELECT behind its offset. -/
def back (q : Query) : String := spaced q.lock ++ spaced (q.clause? .unions)

/-- The values in front of those of the limit. -/
def frontBindings (q : Query) : List Value :=
  (Clause.columns :: unlimited).flatMap fun c => (q.part c).bindings

/-- **The values of limit and offset.** -/
def pagingBindings (q : Query) : List Value := (q.part .limits).bindings ++ (q.part .offset).bindings

theorem select_eq_paging (q : Query) : q.select = q.front ++ q.paging ++ q.back := by
  have hmiddle : q.trail middle = q.trail unlimited ++ q.paging := q.trail_append unlimited _
  rw [select_eq, hmiddle, front, back]
  simp only [String.append_assoc]

theorem bindings_eq_paging (q : Query) :
    q.bindings = q.frontBindings ++ q.pagingBindings ++ (q.part .unions).bindings := by
  have hall : Clause.all = (.columns :: unlimited) ++ [.limits, .offset, .unions] := rfl
  rw [bindings, hall, List.flatMap_append, pagingBindings, frontBindings]
  simp only [List.flatMap_cons, List.flatMap_nil, List.append_nil, List.append_assoc]

/-- **Queries that differ in limit and offset alone.** -/
structure SameRows (q q' : Query) : Prop where
  part : ∀ c, c ≠ .limits → c ≠ .offset → q.part c = q'.part c
  lock : q.lock = q'.lock

namespace SameRows

variable {q q' : Query} (h : SameRows q q')
include h

theorem front : q.front = q'.front := by
  have hclause : ∀ c ∈ Clause.columns :: unlimited, q.clause? c = q'.clause? c := fun c hc =>
    clause?_congr (h.part c (ne_of_mem_unlimited c hc).1 (ne_of_mem_unlimited c hc).2)
  have htrail : q.trail unlimited = q'.trail unlimited :=
    congrArg String.join (List.map_congr_left fun c hc =>
      congrArg spaced (hclause c (List.mem_cons_of_mem _ hc)))
  rw [Query.front, Query.front, htrail, hclause .columns List.mem_cons_self]

theorem back : q.back = q'.back := by
  rw [Query.back, Query.back, h.lock, clause?_congr (h.part .unions (by decide) (by decide))]

theorem frontBindings : q.frontBindings = q'.frontBindings :=
  List.flatMap_congr fun c hc => congrArg Part.bindings
    (h.part c (ne_of_mem_unlimited c hc).1 (ne_of_mem_unlimited c hc).2)

/-- **They are one SELECT around their paging.** -/
theorem select : q'.select = q.front ++ q'.paging ++ q.back := by
  rw [select_eq_paging, h.front, h.back]

/-- So are their values. -/
theorem bindings :
    q'.bindings = q.frontBindings ++ q'.pagingBindings ++ (q.part .unions).bindings := by
  rw [bindings_eq_paging, h.frontBindings, h.part .unions (by decide) (by decide)]

end SameRows

/-! ## With other paging, and without any -/

/-- **A query without limit and offset.** -/
def unpaged (q : Query) : Query := (q.reset .limits).reset .offset

/-- A query with one limit and one offset. -/
def paged (q : Query) (size offset : UInt64) : Query :=
  (q.replace .limits (.text "?") [.ofUInt64 size]).replace .offset (.text "?") [.ofUInt64 offset]

theorem sameRows_unpaged (q : Query) : SameRows q q.unpaged where
  part c hlimit hoffset := by
    rw [unpaged, reset, reset, part_modify_of_ne _ _ hoffset, part_modify_of_ne _ _ hlimit]
  lock := by rw [unpaged, reset, reset, lock_modify, lock_modify]

theorem sameRows_paged (q : Query) (size offset : UInt64) : SameRows q (q.paged size offset) where
  part c hlimit hoffset := by
    simp only [paged, replace, append, reset, part_modify_of_ne _ _ hoffset,
      part_modify_of_ne _ _ hlimit]
  lock := by simp only [paged, replace, append, reset, lock_modify]

theorem spaced_eq_empty_iff {sql : Option String} : spaced sql = "" ↔ sql = none := by
  cases sql with
  | none => exact ⟨fun _ => rfl, fun _ => rfl⟩
  | some sql =>
    refine ⟨fun h => ?_, nofun⟩
    have hspace : " " = "" := (String.append_eq_empty_iff.mp h).1
    exact absurd hspace (by decide)

theorem paging_eq_empty_iff (q : Query) :
    q.paging = "" ↔ (q.part .limits).fragments = [] ∧ (q.part .offset).fragments = [] := by
  rw [paging, trail_cons, trail_cons, trail_nil, String.append_empty, String.append_eq_empty_iff,
    spaced_eq_empty_iff, spaced_eq_empty_iff, clause?_eq_none_iff, clause?_eq_none_iff]

theorem paging_unpaged (q : Query) : q.unpaged.paging = "" :=
  q.unpaged.paging_eq_empty_iff.mpr ⟨rfl, rfl⟩

theorem paging_paged (q : Query) (size offset : UInt64) :
    (q.paged size offset).paging = " LIMIT ? OFFSET ?" := by
  have hlimit : (q.paged size offset).clause? .limits = some ("LIMIT " ++ "?") := rfl
  have hoffset : (q.paged size offset).clause? .offset = some ("OFFSET " ++ "?") := rfl
  rw [paging, trail_cons, trail_cons, trail_nil, hlimit, hoffset]
  rfl

/-- **The statement of a query with one limit and one offset.** -/
theorem statement_paged (q : Query) (size offset : UInt64) :
    (⟨(q.paged size offset).select, (q.paged size offset).bindings⟩ : Statement) =
      ⟨q.front ++ " LIMIT ? OFFSET ?" ++ q.back,
        q.frontBindings ++ [.ofUInt64 size, .ofUInt64 offset] ++ (q.part .unions).bindings⟩ := by
  have hvalues : (q.paged size offset).pagingBindings = [.ofUInt64 size, .ofUInt64 offset] := rfl
  rw [(q.sameRows_paged size offset).select, (q.sameRows_paged size offset).bindings,
    q.paging_paged, hvalues]

/-- **A statement is that of its query without paging exactly if there is none**, neither text nor
values. -/
theorem statement_unpaged_iff (q : Query) :
    (⟨q.select, q.bindings⟩ : Statement) = ⟨q.unpaged.select, q.unpaged.bindings⟩ ↔
      q.part .limits = {} ∧ q.part .offset = {} := by
  have hsql : q.select = q.unpaged.select ↔ q.paging = "" := by
    rw [q.sameRows_unpaged.select, q.paging_unpaged, q.select_eq_paging, String.append_left_inj,
      String.append_right_inj]
  have hvalues : q.bindings = q.unpaged.bindings ↔ q.pagingBindings = [] := by
    have hnone : q.unpaged.pagingBindings = [] := rfl
    rw [q.sameRows_unpaged.bindings, hnone, q.bindings_eq_paging, List.append_cancel_right_eq,
      List.append_cancel_left_eq]
  have hpart (p : Part) : p = {} ↔ p.fragments = [] ∧ p.bindings = [] := by
    cases p
    exact Part.mk.injEq .. ▸ Iff.rfl
  rw [Statement.mk.injEq, hsql, hvalues, q.paging_eq_empty_iff, hpart, hpart, pagingBindings,
    List.append_eq_nil_iff]
  tauto

end Query

/-! ## The statements of a page -/

/-- **A SELECT with its rows counted.** -/
def Statement.counted (d : Dialect) (s : Statement) : Statement :=
  ⟨"SELECT " ++ d.aliased "COUNT(*)" "aggregate" ++ " FROM " ++
    d.aliased ("(" ++ s.sql ++ ")") "aggregate_table", s.bindings⟩

/-- Counting tells the SELECT that is counted. -/
theorem Statement.counted_inj {d : Dialect} {s s' : Statement} :
    s.counted d = s'.counted d ↔ s = s' := by
  refine ⟨fun h => ?_, congrArg _⟩
  rw [counted, counted, Statement.mk.injEq, String.append_right_inj, Dialect.aliased,
    Dialect.aliased, String.append_left_inj, String.append_left_inj, String.append_left_inj,
    String.append_right_inj] at h
  cases s
  cases s'
  exact Statement.mk.injEq .. ▸ h

/-- **A session executes the beginning of a list of statements**, and all of it if it succeeds. -/
def Session.Executes (x : Session (Watched σ) α) (sts : List Statement) : Prop :=
  ∀ s, ∃ ran, (x.play s).2.link.executions = s.link.executions ++ ran ∧
    ran.map (·.statement) <+: sts ∧
    ((x.play s).1.isOk = true → ran.map (·.statement) = sts)

namespace Session.Executes

variable {sts sts' : List Statement}

theorem pure (a : α) : Executes (Pure.pure a : Session (Watched σ) α) [] := fun _ =>
  ⟨[], (List.append_nil _).symm, List.nil_prefix, fun _ => rfl⟩

theorem throw (e : QueryError) : Executes (MonadExcept.throw e : Session (Watched σ) α) sts :=
  fun _ => ⟨[], (List.append_nil _).symm, List.nil_prefix, nofun⟩

/-- **Sessions one after the other** execute the statements of both. -/
theorem bind {x : Session (Watched σ) α} {f : α → Session (Watched σ) β} (hx : x.Executes sts)
    (hf : ∀ a, (f a).Executes sts') : (x >>= f).Executes (sts ++ sts') := by
  intro s
  rw [play_bind]
  have hfirst := hx s
  revert hfirst
  rcases x.play s with ⟨_ | a, after⟩
  · rintro ⟨ran, hran, hprefix, -⟩
    exact ⟨ran, hran, hprefix.trans (List.prefix_append ..), nofun⟩
  · rintro ⟨ran, hran, -, hall⟩
    obtain ⟨ran', hran', hprefix', hall'⟩ := hf a after
    have hran_all : ran.map (·.statement) = sts := hall rfl
    refine ⟨ran ++ ran', by rw [hran', hran, List.append_assoc], ?_, fun hok => ?_⟩
    · rw [List.map_append, hran_all]
      exact (List.prefix_append_right_inj sts).mpr hprefix'
    · rw [List.map_append, hran_all, hall' hok]

theorem run (db : Database σ) (st : Statement) (debug : Bool) :
    (db.watched.run st debug).Executes [st] := by
  intro s
  rw [Database.play_run]
  simp only [Connection.perform, Database.watched, Connection.watched, Operates.watched]
  rcases db.connection.prepare st.sql s.link.link with ⟨_ | _, link⟩
  · exact ⟨[], (List.append_nil _).symm, List.nil_prefix, fun h => absurd h Bool.false_ne_true⟩
  · rcases hexecute : db.connection.execute ⟨st, debug⟩ link with ⟨_ | _, after⟩
    · exact ⟨[⟨st, false⟩], by simp [hexecute, Except.isOk, Except.toBool], List.prefix_rfl,
        fun _ => rfl⟩
    · exact ⟨[⟨st, true⟩], by simp [hexecute, Except.isOk, Except.toBool], List.prefix_rfl,
        fun _ => rfl⟩

end Session.Executes

namespace Database

variable (db : Database σ)

open Session (Executes)

theorem executes_guardFound (b : Builder) (found : Bool) :
    (guardFound b found : Session (Watched σ) Unit).Executes [] := by
  rw [guardFound]
  split
  · split
    · exact .pure ()
    · exact .throw _
  · exact .pure ()

theorem executes_runBuilt (b : Builder) {r : Except BuildError Statement} {st : Statement}
    (h : r = .ok st) : (db.watched.runBuilt b r).Executes [st] := by
  subst h
  exact .run db st b.debug

/-- **Reading every row executes the SELECT.** -/
theorem executes_get {b : Builder} (h : b.error = none) :
    (db.watched.get b).Executes [⟨b.query.select, b.query.bindings⟩] := by
  have hcompile : b.compile = .ok ⟨b.query.select, b.query.bindings⟩ := by rw [b.compile_eq, h]
  exact (db.executes_runBuilt b hcompile).bind fun _ =>
    (executes_guardFound b _).bind fun _ => .pure _

/-- Counting executes the count. -/
theorem executes_count {b : Builder} (h : b.error = none) :
    (db.watched.count b).Executes
      [(⟨b.query.select, b.query.bindings⟩ : Statement).counted b.target.dialect] := by
  have hcount : b.countStatement =
      .ok ((⟨b.query.select, b.query.bindings⟩ : Statement).counted b.target.dialect) := by
    rw [Builder.countStatement, Builder.check, h]
    rfl
  exact (db.executes_runBuilt b hcount).bind fun _ => .pure _

/-- **Reading a page executes its SELECT and then the count of the SELECT as it was.** -/
theorem executes_getPage {b : Builder} (h : b.error = none) :
    let size := max (b.perPage.getD defaultPerPage) 1
    let q := b.query.paged size (pageOffset (max (b.page.getD 1) 1) size)
    (db.watched.getPage b).Executes
      [⟨q.select, q.bindings⟩,
        (⟨b.query.select, b.query.bindings⟩ : Statement).counted b.target.dialect] := by
  intro size q
  have hpage := db.executes_get (b := b.call (.forPage (max (b.page.getD 1) 1) size)) h
  exact hpage.bind fun _ => (db.executes_count h).bind fun _ => .pure _

end Database

/-! ## Who sets a limit or an offset -/

/-- **Calls that set a limit or an offset.** -/
def Call.isPaging : Call → Bool
  | .limit _ | .limitRange _ _ | .limitRaw _ | .offset _ | .offsetRaw _ | .forPage _ _ => true
  | _ => false

namespace Builder

variable {b : Builder} {c : Clause}

/-- **A clause that holds an entry never loses it**: what replaces an entry is an entry. -/
theorem filled_edit (h : (b.query.part c).fragments ≠ []) (e : Edit) :
    ((b.edit e).query.part c).fragments ≠ [] := by
  by_cases he : e.clause? = some c
  · cases e with
    | append d fs values =>
      obtain rfl : d = c := Option.some.inj he
      rw [edit, Query.append, Query.part_modify_self, Part.append_fragments]
      exact List.append_ne_nil_of_left_ne_nil h fs
    | replace d f values =>
      obtain rfl : d = c := Option.some.inj he
      rw [edit, Query.replace, Query.append, Query.part_modify_self, Part.append_fragments]
      exact List.append_ne_nil_of_right_ne_nil _ (List.cons_ne_nil f [])
    | _ => cases he
  · rw [part_edit he]
    exact h

theorem filled_edits (h : (b.query.part c).fragments ≠ []) (es : List Edit) :
    ((b.edits es).query.part c).fragments ≠ [] := by
  induction es generalizing b with
  | nil => exact h
  | cons e es ih => exact ih (filled_edit h e)

theorem filled_calls (h : (b.query.part c).fragments ≠ []) (calls : List Call) :
    ((b.calls calls).query.part c).fragments ≠ [] := by
  rw [calls_eq_edits]
  exact filled_edits h _

/-- A limit or an offset is an entry of its clause. -/
theorem filled_call_of_isPaging (b : Builder) {call : Call} (h : call.isPaging = true) :
    ((b.call call).query.part .limits).fragments ≠ [] ∨
      ((b.call call).query.part .offset).fragments ≠ [] := by
  have hentry {f : Fragment} : [f] ≠ [] := List.cons_ne_nil f []
  cases call with
  | limit _ | limitRange _ _ | limitRaw _ | forPage _ _ => exact .inl hentry
  | offset _ | offsetRaw _ => exact .inr hentry
  | _ => cases h

/-- **Once a limit or an offset is set there is paging.** -/
theorem filled_calls_of_isPaging (t : Target) {calls : List Call}
    (h : ∃ call ∈ calls, call.isPaging = true) :
    ¬ ((((new t).calls calls).query.part .limits) = {} ∧
      (((new t).calls calls).query.part .offset) = {}) := by
  obtain ⟨call, hcall, hpaging⟩ := h
  obtain ⟨before, after, rfl⟩ := List.append_of_mem hcall
  have hcalls : (new t).calls (before ++ call :: after) =
      (((new t).calls before).call call).calls after := by
    rw [calls, List.foldl_append]
    rfl
  rw [hcalls]
  rintro ⟨hlimits, hoffset⟩
  rcases ((new t).calls before).filled_call_of_isPaging hpaging with hfilled | hfilled
  · exact filled_calls hfilled after (by rw [hlimits])
  · exact filled_calls hfilled after (by rw [hoffset])

/-- A clause that no call touches is empty. -/
theorem part_calls_of_untouched (t : Target) {calls : List Call}
    (h : ∀ call ∈ calls, c ∉ call.touched) :
    ((new t).calls calls).query.part c = {} := by
  induction calls using List.reverseRecOn with
  | nil => cases c <;> rfl
  | append_singleton calls call ih =>
    rw [Builder.calls, List.foldl_append]
    refine (part_call _ call (h call (List.mem_append_right _ List.mem_cons_self))).trans ?_
    exact ih fun d hd => h d (List.mem_append_left _ hd)

end Builder

/-! ## What is counted -/

/-- **A page's total counts the rows of all pages exactly if no limit and no offset was set before.**
Whatever calls built the query, a page is read by its SELECT with the limit and offset of the page, and
then the count of its SELECT with the limit and offset it had: `items` and `counted` differ from the
SELECT without any, `unpaged`, in the text and the values at that one place.  What is counted is
`unpaged` just when the two clauses are empty; they are when no call touches them, and not when a call
sets a limit or an offset. -/
theorem Database.getPage_counts_iff (db : Database σ) {t : Target} {calls : List Call}
    (herror : ((Builder.new t).calls calls).error = none) :
    let b := (Builder.new t).calls calls
    let q := b.query
    let size := max (b.perPage.getD defaultPerPage) 1
    let offset := pageOffset (max (b.page.getD 1) 1) size
    let unions := (q.part .unions).bindings
    let items : Statement :=
      ⟨q.front ++ " LIMIT ? OFFSET ?" ++ q.back,
        q.frontBindings ++ [.ofUInt64 size, .ofUInt64 offset] ++ unions⟩
    let unpaged : Statement := ⟨q.front ++ q.back, q.frontBindings ++ unions⟩
    let counted : Statement :=
      ⟨q.front ++ q.paging ++ q.back, q.frontBindings ++ q.pagingBindings ++ unions⟩
    (db.watched.getPage b).Executes [items, counted.counted t.dialect] ∧
      (counted.counted t.dialect = unpaged.counted t.dialect ↔
        q.part .limits = {} ∧ q.part .offset = {}) ∧
      ((∀ call ∈ calls, .limits ∉ call.touched ∧ .offset ∉ call.touched) → counted = unpaged) ∧
      ((∃ call ∈ calls, call.isPaging = true) → counted ≠ unpaged) := by
  intro b q size offset unions items unpaged counted
  have htarget : b.target = t := (Builder.new t).target_calls calls
  have hcounted : (⟨q.select, q.bindings⟩ : Statement) = counted := by
    rw [q.select_eq_paging, q.bindings_eq_paging]
  have hunpaged : (⟨q.unpaged.select, q.unpaged.bindings⟩ : Statement) = unpaged := by
    have hnone : q.unpaged.pagingBindings = [] := rfl
    rw [q.sameRows_unpaged.select, q.sameRows_unpaged.bindings, q.paging_unpaged, hnone,
      String.append_empty, List.append_nil]
  have hitems : (⟨(q.paged size offset).select, (q.paged size offset).bindings⟩ : Statement) =
      items := q.statement_paged size offset
  have hpaging : counted = unpaged ↔ q.part .limits = {} ∧ q.part .offset = {} := by
    rw [← hcounted, ← hunpaged, q.statement_unpaged_iff]
  have hexecutes := db.executes_getPage herror
  simp only at hexecutes
  rw [hitems, hcounted, htarget] at hexecutes
  refine ⟨hexecutes, Statement.counted_inj.trans hpaging, fun huntouched => ?_, fun hset => ?_⟩
  · exact hpaging.mpr
      ⟨Builder.part_calls_of_untouched t fun call hcall => (huntouched call hcall).1,
        Builder.part_calls_of_untouched t fun call hcall => (huntouched call hcall).2⟩
  · exact mt hpaging.mp (Builder.filled_calls_of_isPaging t hset)

/-- The third page of a union with a lock: no limit and no offset was set, and what is counted is the
union without any. -/
theorem Database.getPage_counts_union :
    let db : Database Script := ⟨Script.connection none, .mysql⟩
    let calls : List Call :=
      [.table "users", .whereEq "active" (.bool true), .union true (.raw ⟨"SELECT ?", some (.int 7)⟩),
        .rowLock .exclusive, .perPage 10, .page 3]
    let b := (Builder.new db.target).calls calls
    b.error = none ∧
      (db.watched.getPage b).Executes
        [⟨"SELECT * FROM `users` WHERE `active` = ? LIMIT ? OFFSET ? FOR UPDATE UNION ALL SELECT ?",
            [.bool true, .int 10, .int 20, .int 7]⟩,
          (⟨"SELECT * FROM `users` WHERE `active` = ? FOR UPDATE UNION ALL SELECT ?",
            [.bool true, .int 7]⟩ : Statement).counted db.dialect] := by
  intro db calls b
  have herror : b.error = none := by decide +kernel
  obtain ⟨hexecutes, -, huntouched, -⟩ := db.getPage_counts_iff herror
  simp only [huntouched (by decide)] at hexecutes
  refine ⟨herror, ?_⟩
  convert hexecutes using 1
  decide +kernel

/-- **A limit set before is counted with it.**  The items are any ten rows, and the total is that of
the first five. -/
theorem Database.getPage_counts_limited :
    let db : Database Script := ⟨Script.connection none, .mysql⟩
    let b := (Builder.new db.target).calls [.table "users", .limit 5, .perPage 10]
    b.error = none ∧
      ((db.getPage b).play { link := {} }).2.link.executed.map (·.statement) =
        [⟨"SELECT * FROM `users` LIMIT ? OFFSET ?", [.int 10, .int 0]⟩,
          (⟨"SELECT * FROM `users` LIMIT ?", [.int 5]⟩ : Statement).counted db.dialect] ∧
      (⟨"SELECT * FROM `users` LIMIT ?", [.int 5]⟩ : Statement).counted db.dialect ≠
        (⟨"SELECT * FROM `users`", []⟩ : Statement).counted db.dialect := by
  decide +kernel

end FluentSql
