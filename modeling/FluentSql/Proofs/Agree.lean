/-!
# Proofs/Agree — results that agree
-/

namespace FluentSql

/-- **Two results agree**: both are an answer, and the answers are related, or both are the same
error. -/
inductive Agree {ε α β : Type} (R : α → β → Prop) : Except ε α → Except ε β → Prop
  | ok {a : α} {b : β} (h : R a b) : Agree R (.ok a) (.ok b)
  | error (e : ε) : Agree R (.error e) (.error e)

/-- Results that agree and go on to results that agree. -/
theorem Agree.bind {ε α β γ δ : Type} {R : α → β → Prop} {S : γ → δ → Prop} {r : Except ε α}
    {r' : Except ε β} {f : α → Except ε γ} {g : β → Except ε δ} (h : Agree R r r')
    (hf : ∀ a b, R a b → Agree S (f a) (g b)) : Agree S (r >>= f) (r' >>= g) := by
  cases h with
  | ok h => exact hf _ _ h
  | error e => exact .error e

/-- A result agrees with itself, whatever its answer is related to. -/
theorem Agree.bind_self {ε α γ δ : Type} {S : γ → δ → Prop} (r : Except ε α)
    {f : α → Except ε γ} {g : α → Except ε δ} (hf : ∀ a, Agree S (f a) (g a)) :
    Agree S (r >>= f) (r >>= g) := by
  cases r with
  | ok a => exact hf a
  | error e => exact .error e

/-- An answer on the right is related to one on the left. -/
theorem Agree.exists_of_ok {ε α β : Type} {R : α → β → Prop} {r : Except ε α} {b : β}
    (h : Agree R r (.ok b)) : ∃ a, r = .ok a ∧ R a b := by
  cases h with
  | ok h => exact ⟨_, rfl, h⟩

/-- Answers rewritten on both sides. -/
theorem Agree.map {ε α β γ δ : Type} {R : α → β → Prop} {S : γ → δ → Prop} {r : Except ε α}
    {r' : Except ε β} {f : α → γ} {g : β → δ} (h : Agree R r r')
    (hf : ∀ a b, R a b → S (f a) (g b)) : Agree S (r.map f) (r'.map g) := by
  cases h with
  | ok h => exact .ok (hf _ _ h)
  | error e => exact .error e

end FluentSql
