/-!
# Binary64/Basic — 64-bit binary floating-point numbers as words

A `Binary64` is its word: one sign bit, eleven exponent bits, fifty-two fraction bits.  A finite one
stands for `± significand · 2 ^ exponent`, and every rule below is a rule on those two integers, so
nothing here computes with machine floats.
-/

namespace FluentSql

/-- **A 64-bit binary floating-point number**, as the word that stores it. -/
structure Binary64 where
  /-- Sign, exponent field and fraction field, from the highest bit down. -/
  bits : UInt64
  deriving DecidableEq, Repr

namespace Binary64

/-! ## The three fields -/

/-- The highest bit of a word, which holds the sign. -/
def signBit : Nat := 1 <<< 63

/-- The bit above the fraction field: the lowest of the exponent field, and the leading bit that a
normal number implies. -/
def leadingBit : Nat := 1 <<< 52

/-- Whether the sign bit is set. -/
def negative (x : Binary64) : Bool := decide (signBit ≤ x.bits.toNat)

/-- The eleven bits of the exponent field. -/
def exponentField (x : Binary64) : Nat := x.bits.toNat / leadingBit % 2048

/-- The fifty-two bits of the fraction field. -/
def fractionField (x : Binary64) : Nat := x.bits.toNat % leadingBit

/-- Not a number: the exponent field is full and the fraction is not empty. -/
def isNaN (x : Binary64) : Bool := x.exponentField == 2047 && x.fractionField != 0

/-- One of the two infinities. -/
def isInfinite (x : Binary64) : Bool := x.exponentField == 2047 && x.fractionField == 0

/-- Neither an infinity nor a NaN. -/
def isFinite (x : Binary64) : Bool := x.exponentField != 2047

/-- The significand: the fraction, with the implicit leading bit of a normal number. -/
def significand (x : Binary64) : Nat :=
  if x.exponentField = 0 then x.fractionField else leadingBit + x.fractionField

/-- The power of two that scales the significand. -/
def exponent (x : Binary64) : Int := (max x.exponentField 1 : Nat) - 1075

/-- One of the two zeros. -/
def isZero (x : Binary64) : Bool := x.isFinite && x.significand == 0

/-! ## Making numbers -/

/-- The number with the given sign bit and the remaining sixty-three bits. -/
def ofMagnitude (negative : Bool) (magnitude : Nat) : Binary64 :=
  ⟨UInt64.ofNat ((if negative then signBit else 0) + magnitude)⟩

/-- Zero with a sign. -/
def zero (negative : Bool) : Binary64 := ofMagnitude negative 0

/-- Infinity with a sign. -/
def infinity (negative : Bool) : Binary64 := ofMagnitude negative (2047 * leadingBit)

/-- The quiet NaN with an empty payload. -/
def nan : Binary64 := ofMagnitude false (2047 * leadingBit + leadingBit / 2)

/-- The same magnitude with the other sign. -/
def negate (x : Binary64) : Binary64 := ofMagnitude (!x.negative) (x.bits.toNat % signBit)

/-! ## Comparison and integers -/

/-- **Numeric equality** — a NaN equals nothing, itself included, and the two zeros are equal. -/
def equals (x y : Binary64) : Bool :=
  !x.isNaN && !y.isNaN && (x.bits == y.bits || (x.isZero && y.isZero))

/-- The magnitude rounded toward zero, and whether that lost nothing. -/
def truncate (x : Binary64) : Nat × Bool :=
  if 0 ≤ x.exponent then (x.significand <<< x.exponent.toNat, true)
  else
    let unit := 1 <<< (-x.exponent).toNat
    (x.significand / unit, x.significand % unit == 0)

/-- **The integer a number is**, if it is one; it saturates at the ends of the signed 64-bit
range. -/
def toInt64? (x : Binary64) : Option Int64 :=
  if x.isFinite && x.truncate.2 then
    let n : Int := if x.negative then -(x.truncate.1 : Int) else x.truncate.1
    some (Int64.ofInt (max Int64.minValue.toInt (min Int64.maxValue.toInt n)))
  else none

example : toInt64? ⟨0xC008000000000000⟩ = some (-3) := by decide
example : toInt64? ⟨0x3FE0000000000000⟩ = none := by decide
example : (nan.equals nan, (zero true).equals (zero false)) = (false, true) := by decide

end Binary64

end FluentSql
