/-!
# Text/Hex — bytes as two hexadecimal digits

One byte is two digits, the high half first.  `upper` is the spelling of a binary literal in a
statement, `lower` that of a control character in a JSON string.
-/

namespace FluentSql.Text.Hex

/-- The hexadecimal digit of a number below sixteen, letters in upper case. -/
def upperDigit (n : Nat) : Char :=
  if n < 10 then Char.ofNat (48 + n) else Char.ofNat (55 + n)

/-- The hexadecimal digit of a number below sixteen, letters in lower case. -/
def lowerDigit (n : Nat) : Char :=
  if n < 10 then Char.ofNat (48 + n) else Char.ofNat (87 + n)

/-- A byte in upper-case digits. -/
def upper (b : UInt8) : List Char := [upperDigit (b.toNat / 16), upperDigit (b.toNat % 16)]

/-- A byte in lower-case digits. -/
def lower (b : UInt8) : List Char := [lowerDigit (b.toNat / 16), lowerDigit (b.toNat % 16)]

/-- The number a hexadecimal digit stands for, in either case. -/
def value? (c : Char) : Option Nat :=
  if '0' ≤ c ∧ c ≤ '9' then some (c.toNat - 48)
  else if 'a' ≤ c ∧ c ≤ 'f' then some (c.toNat - 87)
  else if 'A' ≤ c ∧ c ≤ 'F' then some (c.toNat - 55)
  else none

/-- An upper-case digit reads back. -/
theorem value?_upperDigit : ∀ n < 16, value? (upperDigit n) = some n := by decide

end FluentSql.Text.Hex
