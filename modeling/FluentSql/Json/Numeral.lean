import FluentSql.Json.Basic

/-!
# Json/Numeral — the numbers of a JSON text

A numeral is an optional minus sign, digits without a leading zero, and optionally a fraction and an
exponent.  `read?` gives the number it stands for: an integer while it fits a 64-bit word, else the
float `significand · 10 ^ exponent` computed with two roundings.
-/

namespace FluentSql.Json

/-- **A numeral**, split at its point and its exponent mark. -/
structure Numeral where
  negative : Bool
  /-- The digits before the point. -/
  whole : List Nat
  /-- The digits after the point, if there is one. -/
  fraction : Option (List Nat)
  /-- The power of ten after the exponent mark, if there is one. -/
  exponent : Option Int
  deriving DecidableEq, Repr

namespace Numeral

/-! ## Scanning -/

/-- The digits at the start of a text, and what follows them. -/
def spanDigits : List Char → List Nat × List Char
  | [] => ([], [])
  | c :: rest =>
    match Text.digitValue? c with
    | some d => let (ds, after) := spanDigits rest; (d :: ds, after)
    | none => ([], c :: rest)

theorem length_spanDigits (s : List Char) : (spanDigits s).2.length ≤ s.length := by
  induction s with
  | nil => exact Nat.le_refl 0
  | cons c rest ih =>
    unfold spanDigits
    split
    · exact Nat.le_succ_of_le ih
    · exact Nat.le_refl _

/-- A digit at the start is consumed. -/
theorem length_spanDigits_lt {s r : List Char} {d : Nat} {ds : List Nat}
    (h : spanDigits s = (d :: ds, r)) : r.length < s.length := by
  cases s with
  | nil => simp [spanDigits] at h
  | cons c rest =>
    have hle := length_spanDigits rest
    unfold spanDigits at h
    split at h
    · simp only [Prod.mk.injEq] at h
      rw [h.2] at hle
      exact Nat.lt_succ_of_le hle
    · simp at h

/-- The number a list of digits stands for. -/
def ofDigits (ds : List Nat) : Nat := ds.foldl (fun n d => n * 10 + d) 0

/-- The fraction at the start of a text: nothing without a point, a failure without a digit after
it. -/
def scanFraction : List Char → Option (Option (List Nat) × List Char)
  | '.' :: rest =>
    match spanDigits rest with
    | ([], _) => none
    | (ds, after) => some (some ds, after)
  | s => some (none, s)

/-- The sign of an exponent, plus when none is written. -/
def scanSign : List Char → Bool × List Char
  | '-' :: rest => (true, rest)
  | '+' :: rest => (false, rest)
  | s => (false, s)

/-- The exponent at the start of a text: nothing without its mark, a failure without a digit. -/
def scanExponent : List Char → Option (Option Int × List Char)
  | c :: rest =>
    if c = 'e' ∨ c = 'E' then
      let (negative, rest) := scanSign rest
      match spanDigits rest with
      | ([], _) => none
      | (ds, after) =>
        some (some (if negative then -(ofDigits ds : Int) else (ofDigits ds : Int)), after)
    else some (none, c :: rest)
  | [] => some (none, [])

/-- **The numeral at the start of a text**, its sign already taken; it has a digit, and more than
one only if the first is not zero. -/
def scan (negative : Bool) (s : List Char) : Option (Numeral × List Char) :=
  match spanDigits s with
  | ([], _) => none
  | (0 :: _ :: _, _) => none
  | (whole, rest) => do
    let (fraction, rest) ← scanFraction rest
    let (exponent, rest) ← scanExponent rest
    return (⟨negative, whole, fraction, exponent⟩, rest)

theorem length_scanFraction {s r : List Char} {f : Option (List Nat)}
    (h : scanFraction s = some (f, r)) : r.length ≤ s.length := by
  unfold scanFraction at h
  split at h
  · next rest =>
    have := length_spanDigits rest
    split at h
    · simp at h
    · next after heq =>
      simp only [Option.some.injEq, Prod.mk.injEq] at h
      simp only [heq] at this
      simp only [← h.2, List.length_cons]
      omega
  · simp only [Option.some.injEq, Prod.mk.injEq] at h
    simp [← h.2]

theorem length_scanSign (s : List Char) : (scanSign s).2.length ≤ s.length := by
  unfold scanSign
  split <;> simp

theorem length_scanExponent {s r : List Char} {e : Option Int}
    (h : scanExponent s = some (e, r)) : r.length ≤ s.length := by
  unfold scanExponent at h
  split at h
  · next c rest =>
    split at h
    · have h₁ := length_scanSign rest
      have h₂ := length_spanDigits (scanSign rest).2
      simp only at h
      split at h
      · simp at h
      · next after heq =>
        simp only [Option.some.injEq, Prod.mk.injEq] at h
        simp only [heq] at h₂
        simp only [← h.2, List.length_cons]
        omega
    · simp only [Option.some.injEq, Prod.mk.injEq] at h
      simp [← h.2]
  · simp only [Option.some.injEq, Prod.mk.injEq] at h
    simp [← h.2]

/-- Scanning a numeral consumes at least its first digit. -/
theorem length_scan {negative : Bool} {s r : List Char} {n : Numeral}
    (h : scan negative s = some (n, r)) : r.length < s.length := by
  unfold scan at h
  split at h
  · simp at h
  · simp at h
  · next whole rest hne _ heq =>
    obtain ⟨d, ds, rfl⟩ : ∃ d ds, whole = d :: ds := by
      cases whole with
      | nil => exact (hne rfl).elim
      | cons d ds => exact ⟨d, ds, rfl⟩
    simp only [Option.bind_eq_bind, Option.bind_eq_some_iff] at h
    obtain ⟨⟨f, r₁⟩, h₁, ⟨e, r₂⟩, h₂, h₃⟩ := h
    cases h₃
    exact Nat.lt_of_le_of_lt (length_scanExponent h₂)
      (Nat.lt_of_le_of_lt (length_scanFraction h₁) (length_spanDigits_lt heq))

/-! ## The number -/

/-- The largest unsigned 64-bit word. -/
def maxWord : Nat := UInt64.size - 1

/-- Appends digits to a significand while it fits an unsigned word; the digits left over start with
the first that does not. -/
def absorb (significand : Nat) : List Nat → Nat × List Nat
  | [] => (significand, [])
  | d :: ds =>
    if significand * 10 + d ≤ maxWord then absorb (significand * 10 + d) ds
    else (significand, d :: ds)

/-- `10 ^ n` as a float. -/
def powerOfTen (n : Nat) : Binary64 := Binary64.ofRatio false (Nat.pow 10 n) 1

/-- A float divided by `10 ^ n`, in steps of at most `10 ^ 308`. -/
@[semireducible] def scaleDown (x : Binary64) (n : Nat) : Binary64 :=
  if n ≤ 308 then x.div (powerOfTen n)
  else if x.isZero then x
  else scaleDown (x.div (powerOfTen 308)) (n - 308)
termination_by n
decreasing_by omega

/-- **The float `significand · 10 ^ exponent`**: the significand rounded, then scaled by a rounded
power of ten; none when that is beyond the largest float. -/
def toFloat? (significand : Nat) (exponent : Int) : Option Binary64 :=
  let x := Binary64.ofInt significand
  if exponent < 0 then some (scaleDown x (-exponent).toNat)
  else if x.isZero then some x
  else if 308 < exponent then none
  else
    let y := x.mul (powerOfTen exponent.toNat)
    if y.isInfinite then none else some y

/-- The float a numeral stands for: the digits that fit a word make the significand, a whole digit
beyond them counts as one power of ten, a fraction digit beyond them is dropped. -/
def float? (n : Numeral) : Option Binary64 :=
  let (s, longer) := absorb 0 n.whole
  let (s, dropped) := absorb s (n.fraction.getD [])
  let used := (n.fraction.getD []).length - dropped.length
  let x := toFloat? s (longer.length - used + n.exponent.getD 0)
  if n.negative then x.map Binary64.negate else x

/-- **The number of a numeral** — an integer when it is written as one and fits a word, signed if
negative; minus zero and everything else is a float. -/
def read? (n : Numeral) : Option Json :=
  let m := ofDigits n.whole
  if n.fraction.isNone ∧ n.exponent.isNone ∧ m ≤ maxWord then
    if !n.negative then some (.int m)
    else if 1 ≤ m ∧ m ≤ 1 <<< 63 then some (.int (-(m : Int)))
    else some (.float (Binary64.ofInt m).negate)
  else n.float?.map .float

end Numeral

end FluentSql.Json
