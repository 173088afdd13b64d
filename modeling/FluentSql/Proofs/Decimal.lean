import FluentSql.Text.Blank
import FluentSql.Text.Decimal

/-!
# Proofs/Decimal — numbers are read back as they were written

Digits continue the number read before them, so reading the digits of `n / 10` and then the last one
gives `n` (`readDigits_digits`).  Different numbers are therefore written differently.  An integer is
read back with its sign (`readInt_signedDigits`), and as a word over the whole range of words
(`readInt64_toInt`); a text with a character that is neither a digit nor a sign is no integer
(`readInt_eq_none`).
-/

namespace FluentSql.Text

/-- A digit character stands for its digit. -/
theorem digitValue?_digitChar (n : Nat) : digitValue? (digitChar n) = some (n % 10) := by
  have hdigit : ∀ d < 10, digitValue? (Char.ofNat (48 + d)) = some d := by decide
  exact hdigit (n % 10) (Nat.mod_lt n (by decide))

/-- **Digits after digits continue their number.** -/
theorem readDigitsFrom_append (read : Nat) (first rest : List Char) :
    readDigitsFrom read (first ++ rest) =
      (readDigitsFrom read first).bind (readDigitsFrom · rest) := by
  induction first generalizing read with
  | nil => rfl
  | cons c first ih =>
    simp only [List.cons_append, readDigitsFrom]
    cases digitValue? c with
    | none => rfl
    | some d => exact ih _

theorem readDigitsFrom_digits (n : Nat) : readDigitsFrom 0 (digits n) = some n := by
  induction n using digits.induct with
  | case1 n hn =>
    rw [digits, if_pos hn, readDigitsFrom, digitValue?_digitChar, Nat.mod_eq_of_lt hn]
    simp [readDigitsFrom]
  | case2 n hn ih =>
    rw [digits, if_neg hn, readDigitsFrom_append, ih, Option.bind_some, readDigitsFrom,
      digitValue?_digitChar, Option.bind_some, readDigitsFrom]
    exact congrArg some (Nat.div_add_mod' n 10)

theorem digits_ne_nil (n : Nat) : digits n ≠ [] := by
  rw [digits]
  split <;> simp

/-- **A number is read back from its digits.** -/
theorem readDigits_digits (n : Nat) : readDigits (digits n) = some n := by
  obtain ⟨c, rest, hdigits⟩ := List.exists_cons_of_ne_nil (digits_ne_nil n)
  have hread := readDigitsFrom_digits n
  rw [hdigits] at hread ⊢
  exact hread

/-- Different numbers are written differently. -/
theorem ofNat_injective {m n : Nat} (h : ofNat m = ofNat n) : m = n := by
  have hdigits : digits m = digits n := String.ofList_injective h
  have hread := readDigits_digits m
  rw [hdigits, readDigits_digits] at hread
  exact (Option.some.inj hread).symm

/-! ## What a digit is not -/

/-- The digits of a number are digits. -/
theorem exists_digitChar_of_mem_digits {n : Nat} {c : Char} (h : c ∈ digits n) :
    ∃ d < 10, c = digitChar d := by
  have hdigit (k : Nat) : ∃ d < 10, digitChar k = digitChar d :=
    ⟨k % 10, Nat.mod_lt k (by decide), by rw [digitChar, digitChar, Nat.mod_mod]⟩
  induction n using digits.induct with
  | case1 n hn =>
    rw [digits, if_pos hn, List.mem_singleton] at h
    exact h ▸ hdigit n
  | case2 n hn ih =>
    rw [digits, if_neg hn, List.mem_append, List.mem_singleton] at h
    exact h.elim ih fun heq => heq ▸ hdigit n

/-- A digit is neither a blank nor a sign. -/
theorem digitChar_plain :
    ∀ d < 10, isBlank (digitChar d) = false ∧ digitChar d ≠ '-' ∧ digitChar d ≠ '+' := by
  decide

/-- **An integer is written without blanks.** -/
theorem isBlank_of_mem_signedDigits {n : Int} {c : Char} (h : c ∈ signedDigits n) :
    isBlank c = false := by
  have hdigits {k : Nat} (h : c ∈ digits k) : isBlank c = false := by
    obtain ⟨d, hd, rfl⟩ := exists_digitChar_of_mem_digits h
    exact (digitChar_plain d hd).1
  cases n with
  | ofNat n => exact hdigits h
  | negSucc n => exact (List.mem_cons.mp h).elim (fun heq => heq ▸ by decide) hdigits

/-! ## Integers -/

/-- A number without a sign is an integer. -/
theorem readInt_of_readDigits {s : List Char} {n : Nat} (h : readDigits s = some n)
    (hsign : ∀ c ∈ s.head?, c ≠ '-' ∧ c ≠ '+') : readInt s = some (n : Int) := by
  unfold readInt
  split
  · exact absurd rfl (hsign '-' rfl).1
  · exact absurd rfl (hsign '+' rfl).2
  · rw [h]
    rfl

theorem readInt_digits (n : Nat) : readInt (digits n) = some (n : Int) := by
  refine readInt_of_readDigits (readDigits_digits n) fun c hc => ?_
  obtain ⟨d, hd, rfl⟩ := exists_digitChar_of_mem_digits (List.mem_of_mem_head? hc)
  exact (digitChar_plain d hd).2

/-- **An integer is read back from its text.** -/
theorem readInt_signedDigits (n : Int) : readInt (signedDigits n) = some n := by
  cases n with
  | ofNat n => exact readInt_digits n
  | negSucc n =>
    rw [signedDigits, readInt, readDigits_digits]
    rfl

theorem readDigitsFrom_eq_none {read : Nat} {s : List Char} {c : Char} (hc : c ∈ s)
    (h : digitValue? c = none) : readDigitsFrom read s = none := by
  obtain ⟨before, after, rfl⟩ := List.append_of_mem hc
  rw [readDigitsFrom_append]
  cases readDigitsFrom read before with
  | none => rfl
  | some n => rw [Option.bind_some, readDigitsFrom, h, Option.bind_none]

theorem readDigits_eq_none {s : List Char} {c : Char} (hc : c ∈ s) (h : digitValue? c = none) :
    readDigits s = none := by
  cases s with
  | nil => rfl
  | cons d s => exact readDigitsFrom_eq_none hc h

/-- **A text with a character that is neither a digit nor a sign is no integer.** -/
theorem readInt_eq_none {s : List Char} {c : Char} (hc : c ∈ s) (h : digitValue? c = none)
    (hminus : c ≠ '-') (hplus : c ≠ '+') : readInt s = none := by
  unfold readInt
  split
  · rw [readDigits_eq_none (List.mem_of_ne_of_mem hminus hc) h]
    rfl
  · rw [readDigits_eq_none (List.mem_of_ne_of_mem hplus hc) h]
    rfl
  · rw [readDigits_eq_none hc h]
    rfl

/-! ## Words -/

/-- **An integer fits a word** just when it is the integer of one. -/
theorem toInt64?_eq_some_iff {n : Int} {i : Int64} : toInt64? n = some i ↔ i.toInt = n := by
  unfold toInt64?
  constructor
  · intro h
    split at h
    · next hfits =>
      cases h
      exact Int64.toInt_ofInt_of_le hfits.1 (Int.lt_add_one_of_le hfits.2)
    · cases h
  · rintro rfl
    rw [if_pos ⟨i.minValue_le_toInt, i.toInt_le⟩, Int64.ofInt_toInt]

/-- **A word is read back from its text**, the least one included. -/
theorem readInt64_toInt (i : Int64) : readInt64 (signedDigits i.toInt) = some i := by
  rw [readInt64, readInt_signedDigits, Option.bind_some, toInt64?_eq_some_iff]

end FluentSql.Text
