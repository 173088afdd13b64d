import FluentSql.Binary64.Round
import FluentSql.Text.Decimal

/-!
# Binary64/Shortest — the fewest decimal digits that read back

A positive finite number `v` owns the interval of reals that round to it.  `shortest` looks on ever
finer decimal grids for a point of that interval: the first grid that has one decides the number of
digits, the nearer of the two neighbours of `v` on it decides the digits.  `positional` writes them
without an exponent.
-/

namespace FluentSql.Binary64

/-- A decimal `digits · 10 ^ power`. -/
structure ShortDecimal where
  /-- The digits, read as one integer. -/
  digits : Nat
  /-- The power of ten of the last digit. -/
  power : Int
  deriving DecidableEq, Repr

/-- Which neighbour is taken when a number lies halfway between two decimals. -/
inductive Tie
  /-- The larger one. -/
  | up
  /-- The one with the even last digit. -/
  | even
  deriving DecidableEq, Repr

/-! ## The interval of a number -/

/-- **The interval that rounds to a number**, in quarters of a unit in its last place. -/
structure Interval where
  /-- Four times the significand. -/
  middle : Nat
  /-- The lower end: a half unit below, or a quarter just above a power of two. -/
  low : Nat
  /-- The upper end, a half unit above. -/
  high : Nat
  /-- Whether the ends themselves round to the number: its significand is even. -/
  closed : Bool
  /-- The power of two of one quarter unit. -/
  exponent : Int

/-- The interval of a nonzero finite number. -/
def interval (x : Binary64) : Interval :=
  let m := x.significand
  { middle := 4 * m
    low := if x.fractionField = 0 ∧ 1 < x.exponentField then 4 * m - 1 else 4 * m - 2
    high := 4 * m + 2
    closed := m % 2 == 0
    exponent := x.exponent - 2 }

/-- The factors that compare quarter units with a decimal grid: `a` quarters are `d` steps of
`10 ^ power` exactly when `a * (factors power).1 = d * (factors power).2`. -/
def Interval.factors (i : Interval) (power : Int) : Nat × Nat :=
  (Nat.pow 10 (-power).toNat <<< i.exponent.toNat, Nat.pow 10 power.toNat <<< (-i.exponent).toNat)

/-- Whether `d` steps of the grid lie in the interval. -/
def Interval.contains (i : Interval) (power : Int) (d : Nat) : Bool :=
  let (a, b) := i.factors power
  if i.closed then decide (i.low * a ≤ d * b ∧ d * b ≤ i.high * a)
  else decide (i.low * a < d * b ∧ d * b < i.high * a)

/-- The grid's best point in the interval: the neighbour of the number that lies in it, the nearer
one if both do. -/
def Interval.neighbour? (i : Interval) (tie : Tie) (power : Int) : Option Nat :=
  let (a, b) := i.factors power
  let d := i.middle * a / b
  match i.contains power d, i.contains power (d + 1) with
  | false, false => none
  | true, false => some d
  | false, true => some (d + 1)
  | true, true =>
    let twice := 2 * (i.middle * a % b)
    if twice < b then some d
    else if b < twice then some (d + 1)
    else match tie with
      | .up => some (d + 1)
      | .even => some (d + d % 2)

/-! ## The first grid with a point -/

/-- The number of digits before the point of a nonzero finite number, negative when zeros follow
the point: `10 ^ (places - 1) ≤ v < 10 ^ places`. -/
def Interval.places (i : Interval) : Int :=
  let guess := ((i.middle.log2 : Int) + i.exponent) * 30103 / 100000 + 1
  let (a, b) := i.factors guess
  if b ≤ i.middle * a then guess + 1 else guess

/-- Drops trailing zeros of the digits, at most as many as the fuel. -/
def ShortDecimal.dropZeros : Nat → ShortDecimal → ShortDecimal
  | 0, s => s
  | fuel + 1, s =>
    if s.digits % 10 = 0 then dropZeros fuel ⟨s.digits / 10, s.power + 1⟩ else s

/-- Looks through `fuel` grids, each ten times finer than the one before. -/
def Interval.search (i : Interval) (tie : Tie) : Nat → Int → ShortDecimal
  | 0, power => ⟨i.middle * (i.factors power).1 / (i.factors power).2, power⟩
  | fuel + 1, power =>
    match i.neighbour? tie power with
    | some d => ShortDecimal.dropZeros 17 ⟨d, power⟩
    | none => i.search tie fuel (power - 1)

/-- **The shortest decimal that rounds to a nonzero finite number**, the nearest of the shortest
ones; seventeen digits always suffice. -/
def shortest (tie : Tie) (x : Binary64) : ShortDecimal :=
  x.interval.search tie 17 (x.interval.places - 1)

/-! ## Positional text -/

/-- The decimal without an exponent; a whole number has no point. -/
def ShortDecimal.positional (s : ShortDecimal) : List Char :=
  let ds := Text.digits s.digits
  if 0 ≤ s.power then ds ++ List.replicate s.power.toNat '0'
  else
    let after := (-s.power).toNat
    if after < ds.length then ds.take (ds.length - after) ++ '.' :: ds.drop (ds.length - after)
    else '0' :: '.' :: (List.replicate (after - ds.length) '0' ++ ds)

/-- **A number as text** — the shortest digits, never an exponent; a halfway case goes up. -/
def text (x : Binary64) : String :=
  if x.isNaN then "NaN"
  else
    let magnitude :=
      if x.isInfinite then "inf".toList
      else if x.isZero then "0".toList
      else (x.shortest .up).positional
    String.ofList (if x.negative then '-' :: magnitude else magnitude)

example : text ⟨0x3FB999999999999A⟩ = "0.1" := by decide +kernel
example : text ⟨0x44B52D02C7E14AF6⟩ = "100000000000000000000000" := by decide +kernel
example : text ⟨0x4310000000000001⟩ = "1125899906842624.3" := by decide +kernel
example : (shortest .even ⟨1⟩, text ⟨0x8000000000000000⟩) = (⟨5, -324⟩, "-0") := by decide +kernel

end FluentSql.Binary64
