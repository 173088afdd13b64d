/-!
# Text/Decimal — integers written and read in base ten

`ofNat` and `ofInt` write the shortest decimal form; `readInt` takes one optional sign and then
digits only, and `readInt64` also refuses a number outside the signed 64-bit range.
-/

namespace FluentSql.Text

/-- The digit character of a number below ten. -/
def digitChar (n : Nat) : Char := Char.ofNat (48 + n % 10)

/-- The number a decimal digit stands for. -/
def digitValue? (c : Char) : Option Nat :=
  if '0' ≤ c ∧ c ≤ '9' then some (c.toNat - 48) else none

/-- The decimal digits of a number, most significant first; zero has the one digit `0`. -/
@[semireducible] def digits (n : Nat) : List Char :=
  if n < 10 then [digitChar n] else digits (n / 10) ++ [digitChar n]
termination_by n
decreasing_by omega

/-- A number in base ten. -/
def ofNat (n : Nat) : String := String.ofList (digits n)

/-- The characters of an integer in base ten, with a sign when it is negative. -/
def signedDigits : Int → List Char
  | .ofNat n => digits n
  | .negSucc n => '-' :: digits (n + 1)

/-- **An integer in base ten.** -/
def ofInt (n : Int) : String := String.ofList (signedDigits n)

/-- The number a run of digits stands for, continuing from the number read so far. -/
def readDigitsFrom (read : Nat) : List Char → Option Nat
  | [] => some read
  | c :: rest => (digitValue? c).bind fun d => readDigitsFrom (read * 10 + d) rest

/-- A number from digits only; the empty text is no number. -/
def readDigits : List Char → Option Nat
  | [] => none
  | c :: rest => readDigitsFrom 0 (c :: rest)

/-- **An integer from its text** — one optional sign, then digits only. -/
def readInt : List Char → Option Int
  | '-' :: rest => (readDigits rest).map fun n => -(n : Int)
  | '+' :: rest => (readDigits rest).map fun n => (n : Int)
  | s => (readDigits s).map fun n => (n : Int)

/-- An integer as a signed 64-bit word, if it fits one. -/
def toInt64? (n : Int) : Option Int64 :=
  if Int64.minValue.toInt ≤ n ∧ n ≤ Int64.maxValue.toInt then some (Int64.ofInt n) else none

/-- **A signed 64-bit integer from its text.** -/
def readInt64 (s : List Char) : Option Int64 := (readInt s).bind toInt64?

example : readInt64 "+007".toList = some 7 := by decide
example : readInt64 "9223372036854775808".toList = none := by decide
example : ofInt (-1050) = "-1050" := by decide

end FluentSql.Text
