import FluentSql.Builder.Basic

/-!
# Proofs/Edits — what a run of edits leaves behind

A builder is a fold of edits, so what holds of it is read off the edits.  The recorded error is the
first one that any of them records (`error_edits`), and compiling answers with that error or with the
statement of the query (`compile_eq`).
-/

namespace FluentSql

/-- The error an edit records, if it records one. -/
def Edit.error? : Edit → Option BuildError
  | .fail e => some e
  | _ => none

namespace Edit

variable {P : Edit → Prop}

/-- **What holds of errors and of all that a result leads to** holds of what comes of the result. -/
theorem forall_mem_after {α : Type} {r : Except BuildError α} {next : α → List Edit}
    (hfail : ∀ e, P (fail e)) (h : ∀ a, r = .ok a → ∀ e ∈ next a, P e) : ∀ e ∈ after r next, P e := by
  cases r with
  | error e => exact List.forall_mem_singleton.mpr (hfail e)
  | ok a => exact h a rfl

theorem forall_mem_failure (hfail : ∀ e, P (fail e)) (error : Option BuildError) :
    ∀ e ∈ failure error, P e := by
  cases error with
  | none => exact List.forall_mem_nil P
  | some e => exact List.forall_mem_singleton.mpr (hfail e)

end Edit

namespace Builder

/-- One edit records its error behind those recorded before. -/
theorem error_edit (b : Builder) (e : Edit) : (b.edit e).error = b.error.or e.error? := by
  cases e <;> simp [edit, Edit.error?]

/-- **The recorded error is the first one**: that of the builder, or else of the first edit that
fails. -/
theorem error_edits (b : Builder) (es : List Edit) :
    (b.edits es).error = b.error.or (es.findSome? Edit.error?) := by
  induction es generalizing b with
  | nil => simp
  | cons e es ih =>
    rw [edits_cons, ih, error_edit, Option.or_assoc, List.findSome?_cons]
    cases e.error? <;> rfl

/-- **To pass on an error changes the recorded error and nothing else.** -/
theorem edits_failure (b : Builder) (error : Option BuildError) :
    b.edits (Edit.failure error) = { b with error := b.error.or error } := by
  cases error with
  | none =>
    rw [Option.or_none]
    rfl
  | some e => rfl

@[simp] theorem error_ofEdits (t : Target) (es : List Edit) :
    (ofEdits t es).error = es.findSome? Edit.error? := error_edits _ es

@[simp] theorem target_ofEdits (t : Target) (es : List Edit) : (ofEdits t es).target = t :=
  target_edits _ es

/-- **Compiling answers with the recorded error or with the statement of the query.** -/
theorem compile_eq (b : Builder) :
    b.compile = match b.error with
      | some e => .error e
      | none => .ok ⟨b.query.select, b.query.bindings⟩ := by
  unfold compile check
  cases b.error <;> rfl

/-- A qualifier leaves the recorded error. -/
theorem error_qualifiedFor (b : Builder) (t : Target) : (b.qualifiedFor t).error = b.error := by
  unfold qualifiedFor
  split
  · rfl
  · split <;> rfl

/-- A qualifier leaves the values. -/
theorem bindings_qualifiedFor (b : Builder) (t : Target) :
    (b.qualifiedFor t).query.bindings = b.query.bindings := by
  unfold qualifiedFor
  split
  · rfl
  · split <;> rfl

end Builder

end FluentSql
