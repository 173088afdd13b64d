import FluentSql.Proofs.Failure.Call
import FluentSql.Proofs.Frame

/-!
# Proofs/Reordering — calls on different slots may change places

What a slot of a builder holds is made by the calls that write into it, in their order, and by no
other (`Builder.content_calls_filter`).  So calls may be reordered as long as those that share a slot
stay in order: the builder is the same (`Builder.calls_reordered`).
-/

namespace FluentSql

/-! ## What a slot holds -/

/-- The type of what a slot holds. -/
def Slot.Content : Slot → Type
  | clause _ => Part
  | lock => Option String
  | notFound => Option String
  | page => Option UInt64
  | perPage => Option UInt64
  | debug => Bool

namespace Builder

variable {b b' : Builder}

/-- **What a slot of a builder holds.** -/
def content (b : Builder) : (s : Slot) → s.Content
  | .clause c => b.query.part c
  | .lock => b.query.lock
  | .notFound => b.notFound
  | .page => b.page
  | .perPage => b.perPage
  | .debug => b.debug

/-- **A builder is its slots**, with its target and its error. -/
theorem ext_content (htarget : b.target = b'.target) (herror : b.error = b'.error)
    (h : ∀ s, b.content s = b'.content s) : b = b' := by
  have hquery : b.query = b'.query := Query.ext_part (fun c => h (.clause c)) (h .lock)
  obtain ⟨t, q, error, notFound, page, perPage, debug⟩ := b
  obtain ⟨t', q', error', notFound', page', perPage', debug'⟩ := b'
  obtain rfl : notFound = notFound' := h .notFound
  obtain rfl : page = page' := h .page
  obtain rfl : perPage = perPage' := h .perPage
  obtain rfl : debug = debug' := h .debug
  simp only at htarget herror hquery
  rw [htarget, herror, hquery]

/-! ## One edit -/

/-- **An edit leaves every slot alone but its own.** -/
theorem content_edit_of_ne {e : Edit} {s : Slot} (h : e.slot? ≠ some s) :
    (b.edit e).content s = b.content s := by
  cases s with
  | clause c => exact part_edit fun hc => h (Edit.slot?_of_clause? hc)
  | lock =>
    cases e with
    | append c fragments values => exact Query.lock_modify ..
    | replace c fragment values => exact (Query.lock_modify ..).trans (Query.lock_modify ..)
    | lock sql => exact absurd rfl h
    | fail _ | notFound _ | page _ | perPage _ | debug _ => rfl
  | notFound | page | perPage | debug => cases e <;> first | rfl | exact absurd rfl h

/-- **What an edit makes of a slot depends on that slot alone.** -/
theorem content_edit_congr {s : Slot} (h : b.content s = b'.content s) (e : Edit) :
    (b.edit e).content s = (b'.edit e).content s := by
  by_cases hs : e.slot? = some s
  · cases e with
    | append c fragments values =>
      obtain rfl : Slot.clause c = s := Option.some.inj hs
      have hpart : b.query.part c = b'.query.part c := h
      change (b.query.append c fragments values).part c = (b'.query.append c fragments values).part c
      rw [Query.append, Query.append, Query.part_modify_self, Query.part_modify_self, hpart]
    | replace c fragment values =>
      obtain rfl : Slot.clause c = s := Option.some.inj hs
      change (b.query.replace c fragment values).part c = (b'.query.replace c fragment values).part c
      rw [Query.replace, Query.replace, Query.append, Query.append, Query.reset, Query.reset]
      simp only [Query.part_modify_self]
    | fail e => cases hs
    | lock _ | notFound _ | page _ | perPage _ | debug _ =>
      obtain rfl := Option.some.inj hs
      rfl
  · rw [content_edit_of_ne hs, content_edit_of_ne hs, h]

/-! ## Many edits -/

theorem content_edits_congr {s : Slot} (h : b.content s = b'.content s) (es : List Edit) :
    (b.edits es).content s = (b'.edits es).content s := by
  induction es generalizing b b' with
  | nil => exact h
  | cons e es ih => exact ih (content_edit_congr h e)

theorem content_edits_of_notMem {slots : List Slot} {es : List Edit} (h : Into slots es) {s : Slot}
    (hs : s ∉ slots) : (b.edits es).content s = b.content s := by
  induction es generalizing b with
  | nil => rfl
  | cons e es ih =>
    have he : e.slot? ≠ some s := fun heq => hs (h e List.mem_cons_self s heq)
    rw [edits_cons, ih fun f hf => h f (List.mem_cons_of_mem e hf), content_edit_of_ne he]

/-! ## Calls -/

/-- **A slot is made by the calls that write into it.**  All other calls could as well not be
there. -/
theorem content_calls_filter (htarget : b.target = b'.target) {s : Slot}
    (h : b.content s = b'.content s) (calls : List Call) :
    (b.calls calls).content s = (b'.calls (calls.filter (s ∈ ·.slots))).content s := by
  induction calls generalizing b b' with
  | nil => exact h
  | cons call rest ih =>
    have htarget' : (b.call call).target = b'.target := (target_call b call).trans htarget
    change ((b.call call).calls rest).content s = _
    by_cases hs : s ∈ call.slots
    · rw [List.filter_cons_of_pos (by simpa using hs)]
      refine ih (htarget'.trans (target_call b' call).symm) ?_
      rw [Builder.call, Builder.call, htarget]
      exact content_edits_congr h _
    · rw [List.filter_cons_of_neg (by simpa using hs)]
      exact ih htarget' ((content_edits_of_notMem (call.into b.target) hs).trans h)

end Builder

/-! ## Reorderings -/

/-- **The same calls in another order**, those that write into one slot in the order they had. -/
structure Reordering (calls calls' : List Call) : Prop where
  perm : calls.Perm calls'
  order : ∀ s : Slot, calls.filter (s ∈ ·.slots) = calls'.filter (s ∈ ·.slots)

namespace Builder

variable {calls calls' : List Call}

/-- Calls of which none fails record no error. -/
theorem error_calls_of_forall (b : Builder) (h : ∀ c ∈ calls, c.error? b.target = none) :
    (b.calls calls).error = b.error := by
  rw [error_calls, List.findSome?_eq_none_iff.mpr h, Option.or_none]

/-- **Calls on different slots commute.**  Whatever a builder holds, calls of which none fails make
the same builder of it in every order that keeps those in order that write into the same clause or
other slot.  So its text, its values and everything compiled from it are the same. -/
theorem calls_reordered (b : Builder) (h : Reordering calls calls')
    (hok : ∀ c ∈ calls, c.error? b.target = none) : b.calls calls' = b.calls calls := by
  have hok' : ∀ c ∈ calls', c.error? b.target = none := fun c hc => hok c (h.perm.mem_iff.mpr hc)
  refine ext_content ((target_calls b calls').trans (target_calls b calls).symm) ?_ fun s => ?_
  · rw [error_calls_of_forall b hok', error_calls_of_forall b hok]
  · rw [content_calls_filter rfl rfl calls', ← h.order s, ← content_calls_filter rfl rfl calls]

/-- Sources, joins and columns after the conditions and pages, of which the limit comes first: all
that stays is that the join with a sub-query follows the other, that the conditions keep their order
and that the page overwrites the limit. -/
theorem calls_reordered_page :
    let t : Target := ⟨.mysql, some "shop"⟩
    let tables : List Call :=
      [.tables ["users as u"], .join .left "posts" (.columns "posts.user_id" "=" "u.id"),
        .select ["u.id"], .joinSource .inner (.closure [.tables ["tags"], .limit 3]) "t" .none]
    let filters : List Call :=
      [.limit 7, .condition .wheres .and (.compare ⟨"u.id", some ">", .int 5⟩), .forPage 3 10,
        .condition .wheres .or (.group [.condition .wheres .and (.null false "u.name")]),
        .rowLock .exclusive]
    let b := (Builder.new t).call (.throws "no user")
    (Reordering (tables ++ filters) (filters ++ tables) ∧
        ∀ c ∈ tables ++ filters, c.error? b.target = none) ∧
      b.calls (filters ++ tables) = b.calls (tables ++ filters) ∧
      (b.calls (tables ++ filters)).sql =
        "SELECT `u`.`id` FROM `users` AS `u` LEFT JOIN `posts` ON posts.user_id = u.id " ++
          "INNER JOIN (SELECT * FROM `tags` LIMIT ?) AS `t` " ++
          "WHERE `u`.`id` > ? OR (`u`.`name` IS NULL) LIMIT ? OFFSET ? FOR UPDATE" := by
  intro t tables filters b
  have horder (s : Slot) : (tables ++ filters).filter (s ∈ ·.slots) =
      (filters ++ tables).filter (s ∈ ·.slots) := by
    rcases s with c | _
    · cases c <;> rfl
    all_goals rfl
  have hreordering : Reordering (tables ++ filters) (filters ++ tables) :=
    ⟨List.perm_append_comm, horder⟩
  have hok : ∀ c ∈ tables ++ filters, c.error? b.target = none := by
    decide +kernel
  exact ⟨⟨hreordering, hok⟩, b.calls_reordered hreordering hok, by decide +kernel⟩

end Builder

end FluentSql
