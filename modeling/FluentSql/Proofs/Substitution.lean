import FluentSql.Proofs.Value.Literal
import FluentSql.QueryLog
import Mathlib.Algebra.Ring.Nat

/-!
# Proofs/Substitution — literals for placeholders, part by part

    a = ? AND  │ b = ? OR c = ?      o'clock │ 3
    a = 'o''clock' AND  │ b = 3 OR c = ?

Each placeholder of a text takes the next value, so the front of a text takes as many values as it has
placeholders and the rest of it goes on with the others (`substitute_append`).  All else about
substitution is read off this cut: the literal of a value stands as it is, values left over do nothing
and placeholders left over stay (`substitution_composes`).
-/

namespace FluentSql

/-! ## One character -/

theorem substitute_placeholder (rest : List Char) (v : Value) (values : List Value) :
    substitute ('?' :: rest) (v :: values) = v.literal.toList ++ substitute rest values := rfl

theorem substitute_cons {c : Char} (hc : c ≠ '?') (rest : List Char) (values : List Value) :
    substitute (c :: rest) values = c :: substitute rest values := if_neg hc

/-- **Without values a text stays as it is.** -/
theorem substitute_nil (query : List Char) : substitute query [] = query := by
  induction query with
  | nil => rfl
  | cons c query ih =>
    have hkept : substitute (c :: query) [] = c :: substitute query [] := ite_self _
    rw [hkept, ih]

/-! ## The parts of a text -/

/-- **A text is substituted part by part**: its front takes as many values as it has placeholders,
and the rest of it goes on with the others. -/
theorem substitute_append (front back : List Char) (values : List Value) :
    substitute (front ++ back) values =
      substitute front (values.take (front.count '?')) ++
        substitute back (values.drop (front.count '?')) := by
  induction front generalizing values with
  | nil => rfl
  | cons c front ih =>
    by_cases hc : c = '?'
    · subst hc
      rw [List.count_cons_self]
      cases values with
      | nil => simp only [substitute_nil, List.take_nil, List.drop_nil]
      | cons v values =>
        rw [List.cons_append, substitute_placeholder, ih, List.take_succ_cons, List.drop_succ_cons,
          substitute_placeholder, List.append_assoc]
    · rw [List.count_cons_of_ne hc, List.cons_append, substitute_cons hc, ih, substitute_cons hc,
        List.cons_append]

/-- A front that takes just its own values. -/
theorem substitute_append_append {front : List Char} {values : List Value}
    (h : front.count '?' = values.length) (back : List Char) (more : List Value) :
    substitute (front ++ back) (values ++ more) =
      substitute front values ++ substitute back more := by
  rw [substitute_append, h, List.take_left, List.drop_left]

/-- A text takes no more values than it has placeholders. -/
theorem substitute_take (query : List Char) (values : List Value) :
    substitute query (values.take (query.count '?')) = substitute query values := by
  have hcut := substitute_append query [] values
  rw [List.append_nil, substitute, List.append_nil] at hcut
  exact hcut.symm

/-- **The placeholders of a substituted text** are those inside the literals, and those that no value
was left for. -/
theorem count_substitute (query : List Char) (values : List Value) :
    (substitute query values).count '?' =
      ((values.take (query.count '?')).map fun v => v.literal.toList.count '?').sum +
        (query.count '?' - values.length) := by
  induction query generalizing values with
  | nil => simp [substitute]
  | cons c query ih =>
    by_cases hc : c = '?'
    · subst hc
      cases values with
      | nil => simp [substitute_nil]
      | cons v values =>
        rw [substitute_placeholder, List.count_append, ih, List.count_cons_self, List.take_succ_cons,
          List.map_cons, List.sum_cons, List.length_cons, Nat.add_sub_add_right, Nat.add_assoc]
    · rw [substitute_cons hc, List.count_cons_of_ne hc, List.count_cons_of_ne hc, ih]

/-- **Substitution is compositional.**  A front with as many placeholders as it has values is
substituted on its own; the literal of a value stands as it is, placeholders inside it included; and
values left over do nothing, placeholders left over stay, so that without values nothing changes. -/
theorem substitution_composes :
    (∀ (front back : List Char) (values more : List Value), front.count '?' = values.length →
      substitute (front ++ back) (values ++ more) =
        substitute front values ++ substitute back more) ∧
    ((∀ (front back : List Char) (values : List Value) (v : Value) (more : List Value),
        front.count '?' = values.length →
        substitute (front ++ '?' :: back) (values ++ v :: more) =
          substitute front values ++ v.literal.toList ++ substitute back more) ∧
      (∀ (query : List Char) (values : List Value),
        (substitute query values).count '?' =
          ((values.take (query.count '?')).map fun v => v.literal.toList.count '?').sum +
            (query.count '?' - values.length)) ∧
      ∀ s : String, (Value.text s).literal.toList.count '?' = s.toList.count '?') ∧
    (∀ (query : List Char) (values more : List Value), query.count '?' ≤ values.length →
      substitute query (values ++ more) = substitute query values) ∧
    (∀ (front back : List Char) (values : List Value), front.count '?' = values.length →
      substitute (front ++ back) values = substitute front values ++ back) ∧
    ∀ query : List Char, substitute query [] = query := by
  refine ⟨fun front back values more h => substitute_append_append h back more,
    ⟨fun front back values v more h => ?_, count_substitute, Value.count_text (by decide)⟩,
    fun query values more h => ?_, fun front back values h => ?_, substitute_nil⟩
  · rw [substitute_append_append h, substitute_placeholder, List.append_assoc]
  · rw [← substitute_take, List.take_append_of_le_length h, substitute_take]
  · have hback := substitute_append_append h back []
    rwa [List.append_nil, substitute_nil] at hback

/-- A placeholder inside a text stays, a surplus one too, and a surplus value is not used. -/
theorem substitution_composes_surplus :
    let front := "a = ? AND ".toList
    let text := Value.text "o'clock?"
    substitute (front ++ "b = ? OR c = ?".toList) ([text] ++ [.blob [63]]) =
        "a = 'o''clock?' AND b = X'3F' OR c = ?".toList ∧
      substitute (front ++ '?' :: " = c".toList) ([text] ++ .int (-3) :: [.null]) =
        "a = 'o''clock?' AND -3 = c".toList ∧
      substitute front ([text] ++ [.null, .bool true]) = "a = 'o''clock?' AND ".toList ∧
      substitute (front ++ "? = ?".toList) [text] = "a = 'o''clock?' AND ? = ?".toList := by
  intro front text
  obtain ⟨happend, ⟨hplace, -, -⟩, hsurplus, hkept, -⟩ := substitution_composes
  have hfront : substitute front [text] = "a = 'o''clock?' AND ".toList := by decide +kernel
  have hcount : front.count '?' = [text].length := by decide
  refine ⟨?_, ?_, ?_, ?_⟩
  · rw [happend front _ [text] _ hcount, hfront]
    decide +kernel
  · rw [hplace front _ [text] _ _ hcount, hfront]
    decide +kernel
  · rw [hsurplus front [text] _ (Nat.le_of_eq hcount), hfront]
  · rw [hkept front _ [text] hcount, hfront]
    decide +kernel

end FluentSql
