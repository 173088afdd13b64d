import FluentSql.Binary64.Basic

/-!
# Binary64/Round — the nearest number to a quotient

`ofRatio` rounds an exact quotient of integers to the nearest `Binary64`, a tie to the even
significand, beyond the largest to infinity.  A whole number, a product, a quotient and the widening
of a shorter format are all this one rounding.
-/

namespace FluentSql.Binary64

/-- The quotient of two integers rounded to the nearest integer, a tie to the even one. -/
def divideToEven (num den : Nat) : Nat :=
  let below := num / den
  let twice := 2 * (num % den)
  if twice < den then below
  else if den < twice then below + 1
  else below + below % 2

/-- The fraction `num / (den · 2 ^ e)`, with the power of two on the side that keeps both parts
whole. -/
def scaled (num den : Nat) (e : Int) : Nat × Nat :=
  if 0 ≤ e then (num, den <<< e.toNat) else (num <<< (-e).toNat, den)

/-- The power of two of the last significand bit of `num / den`: it leaves fifty-three bits, or
fewer at the bottom of the range. -/
def lastPlace (num den : Nat) : Int :=
  let e : Int := (num.log2 : Int) - den.log2 - 53
  let (n, d) := scaled num den e
  max (-1074) (if d <<< 53 ≤ n then e + 1 else e)

/-- **The nearest number to `num / den`**, with the given sign.  A significand that rounds up to the
next power of two carries into the exponent field, and out of the largest one into infinity. -/
def ofRatio (negative : Bool) (num den : Nat) : Binary64 :=
  if num = 0 then zero negative
  else
    let e := lastPlace num den
    let (n, d) := scaled num den e
    let m := divideToEven n d
    let magnitude := if m < leadingBit then m else (e + 1074).toNat * leadingBit + m
    if 2047 * leadingBit ≤ magnitude then infinity negative else ofMagnitude negative magnitude

/-- The nearest number to an integer. -/
def ofInt (n : Int) : Binary64 := ofRatio (decide (n < 0)) n.natAbs 1

/-- The exact magnitude of a finite number as a fraction. -/
def ratio (x : Binary64) : Nat × Nat :=
  if 0 ≤ x.exponent then (x.significand <<< x.exponent.toNat, 1)
  else (x.significand, 1 <<< (-x.exponent).toNat)

/-- The product of two finite numbers, rounded once. -/
def mul (x y : Binary64) : Binary64 :=
  let (a, b) := x.ratio
  let (c, d) := y.ratio
  ofRatio (x.negative != y.negative) (a * c) (b * d)

/-- The quotient of two finite numbers, the second not zero, rounded once. -/
def div (x y : Binary64) : Binary64 :=
  let (a, b) := x.ratio
  let (c, d) := y.ratio
  ofRatio (x.negative != y.negative) (a * d) (b * c)

/-- **Widening a 32-bit binary floating-point word** — exact for every finite one. -/
def ofBinary32 (word : UInt32) : Binary64 :=
  let leading := 1 <<< 23
  let negative := decide (1 <<< 31 ≤ word.toNat)
  let e := word.toNat / leading % 256
  let f := word.toNat % leading
  if e = 255 then (if f = 0 then infinity negative else nan)
  else
    let m := if e = 0 then f else leading + f
    if 150 ≤ e then ofRatio negative (m <<< (e - 150)) 1
    else ofRatio negative m (1 <<< (150 - max e 1))

example : ofRatio false 1 10 = ⟨0x3FB999999999999A⟩ := by decide
example : ofBinary32 0x3DCCCCCD = ⟨0x3FB99999A0000000⟩ := by decide
example : ofInt (-9007199254740993) = ⟨0xC340000000000000⟩ := by decide

end FluentSql.Binary64
