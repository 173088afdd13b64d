import FluentSql.Calendar
import FluentSql.Text.Blank
import FluentSql.Text.Decimal

/-!
# Calendar/Reader — times read back from their text

`DateTime.ofText?` reads the text that `DateTime.text` writes.  It is loose about the padding —
blanks may stand before a field, and a field may have fewer digits — and strict about the day and
the time of day, which have to exist.
-/

namespace FluentSql

/-! ## Days and times that exist -/

/-- A leap year: every fourth year, but of the full centuries only every fourth. -/
def isLeapYear (year : Int) : Bool :=
  year % 4 == 0 && (year % 100 != 0 || year % 400 == 0)

/-- The number of days in a month. -/
def daysInMonth (year : Int) (month : Nat) : Nat :=
  if month = 2 then if isLeapYear year then 29 else 28
  else if month = 4 ∨ month = 6 ∨ month = 9 ∨ month = 11 then 30
  else 31

/-- **A day that exists**, in a year the calendar reaches. -/
def Date.Exists (d : Date) : Prop :=
  -262143 ≤ d.year ∧ d.year ≤ 262142 ∧ 1 ≤ d.month ∧ d.month ≤ 12 ∧
    1 ≤ d.day ∧ d.day ≤ daysInMonth d.year d.month

instance (d : Date) : Decidable d.Exists := by unfold Date.Exists; infer_instance

/-- **A time that exists**: its day does, and its clock shows one. -/
def DateTime.Exists (t : DateTime) : Prop :=
  t.toDate.Exists ∧ t.hour < 24 ∧ t.minute < 60 ∧ t.second < 60

instance (t : DateTime) : Decidable t.Exists := by unfold DateTime.Exists; infer_instance

/-! ## Fields

Each reader takes something off the start of a text and returns it with what follows. -/

namespace Text

/-- A number of at least one digit and at most `width`. -/
def takeNumber (width : Nat) (s : List Char) : Option (Nat × List Char) :=
  let ds := (s.take width).takeWhile Char.isDigit
  (readDigits ds).map fun n => (n, s.drop ds.length)

/-- A number with blanks before it. -/
def takeField (width : Nat) (s : List Char) : Option (Nat × List Char) :=
  takeNumber width (dropBlanks s)

/-- A year with blanks before it: of any length with a sign, else of at most four digits. -/
def takeYear (s : List Char) : Option (Int × List Char) :=
  match dropBlanks s with
  | '-' :: rest => (takeNumber rest.length rest).map fun (n, after) => (-(n : Int), after)
  | '+' :: rest => (takeNumber rest.length rest).map fun (n, after) => ((n : Int), after)
  | s => (takeNumber 4 s).map fun (n, after) => ((n : Int), after)

/-- One given character. -/
def takeMark (mark : Char) : List Char → Option (List Char)
  | [] => none
  | c :: rest => if c = mark then some rest else none

end Text

/-! ## Times -/

/-- The time of the fields of a text, in which the sixtieth second is a leap second. -/
def DateTime.ofFields (date : Date) (hour minute second : Nat) : DateTime :=
  if second = 60 then ⟨date, hour, minute, 59, 1000000000⟩ else ⟨date, hour, minute, second, 0⟩

/-- **A time from its text** — the whole of it, and only a time that exists.  The blank between the
day and the hour is one of those before a field. -/
def DateTime.ofText? (s : List Char) : Option DateTime := do
  let (year, s) ← Text.takeYear s
  let s ← Text.takeMark '-' s
  let (month, s) ← Text.takeField 2 s
  let s ← Text.takeMark '-' s
  let (day, s) ← Text.takeField 2 s
  let (hour, s) ← Text.takeField 2 s
  let s ← Text.takeMark ':' s
  let (minute, s) ← Text.takeField 2 s
  let s ← Text.takeMark ':' s
  let (second, s) ← Text.takeField 2 s
  let t := DateTime.ofFields ⟨year, month, day⟩ hour minute second
  if s = [] ∧ t.Exists then some t else none

example : DateTime.ofText? "2024-02-29 01:02:03".toList = some ⟨⟨2024, 2, 29⟩, 1, 2, 3, 0⟩ := by
  decide
example : DateTime.ofText? "2024-13-01 00:00:00".toList = none := by decide
example : DateTime.ofText? "2023-02-29 01:02:03".toList = none := by decide
example : DateTime.ofText? "-44-3-15 11:00:60".toList =
    some ⟨⟨-44, 3, 15⟩, 11, 0, 59, 1000000000⟩ := by decide

end FluentSql
