import FluentSql.Value.Basic

/-!
# Calendar — dates and times of day as text

A date is `year-month-day`, a date with a time adds `hour:minute:second`, each field padded with
zeros.  A year outside `0 … 9999` carries a sign, and a second that lasts past its end, a leap
second, counts as the sixtieth.
-/

namespace FluentSql

/-- A day of the calendar. -/
structure Date where
  year : Int
  month : Nat
  day : Nat
  deriving DecidableEq, Repr

/-- A day with a time of day.  Nanoseconds from one thousand million on mean a leap second. -/
structure DateTime extends Date where
  hour : Nat
  minute : Nat
  second : Nat
  nanosecond : Nat
  deriving DecidableEq, Repr

namespace Text

/-- Digits padded with zeros in front to a width. -/
def padded (width n : Nat) : List Char :=
  List.replicate (width - (digits n).length) '0' ++ digits n

end Text

/-- The four digits of a year, with a sign outside `0 … 9999`. -/
def Date.yearText (d : Date) : List Char :=
  if 0 ≤ d.year ∧ d.year ≤ 9999 then Text.padded 4 d.year.toNat
  else (if d.year < 0 then '-' else '+') :: Text.padded 4 d.year.natAbs

/-- The second of the minute, `60` in a leap second. -/
def DateTime.secondText (t : DateTime) : List Char :=
  Text.padded 2 (t.second + t.nanosecond / 1000000000)

/-- **A date as text**, `2024-02-29`. -/
def Date.text (d : Date) : List Char :=
  d.yearText ++ '-' :: Text.padded 2 d.month ++ '-' :: Text.padded 2 d.day

/-- **A date and time as text**, `2024-02-29 23:59:00`. -/
def DateTime.text (t : DateTime) : List Char :=
  t.toDate.text ++ ' ' :: Text.padded 2 t.hour ++ ':' :: Text.padded 2 t.minute ++
    ':' :: t.secondText

namespace Value

/-- A date is bound as its text. -/
def ofDate (d : Date) : Value := text (String.ofList d.text)

/-- A date and time is bound as its text. -/
def ofDateTime (t : DateTime) : Value := text (String.ofList t.text)

end Value

/-! ## Formats

A format is a text in which `%` and one more character stand for a part of the time. -/

/-- What one character after `%` stands for. -/
def DateTime.field? (t : DateTime) : Char → Option (List Char)
  | '%' => some ['%']
  | 'n' => some ['\n']
  | 't' => some ['\t']
  | 'Y' => some t.yearText
  | 'm' => some (Text.padded 2 t.month)
  | 'd' => some (Text.padded 2 t.day)
  | 'H' => some (Text.padded 2 t.hour)
  | 'M' => some (Text.padded 2 t.minute)
  | 'S' => some t.secondText
  | _ => none

/-- **A time written by a format**; nothing for an unknown field or a `%` at the end. -/
def DateTime.format? (t : DateTime) : List Char → Option (List Char)
  | [] => some []
  | ['%'] => none
  | '%' :: c :: rest => do return (← t.field? c) ++ (← t.format? rest)
  | c :: rest => do return c :: (← t.format? rest)

example : Date.text ⟨10000, 1, 2⟩ = "+10000-01-02".toList := by decide
example : DateTime.text ⟨⟨2016, 12, 31⟩, 23, 59, 59, 1500000000⟩ = "2016-12-31 23:59:60".toList := by
  decide

end FluentSql
