import RulePyramid.Binary.Basic

/-!
The shortest decimal of a binary number: of the decimals that round to the number, one with the
fewest digits, and of these the nearest to the number. The numbers that round to `m * 2 ^ e` form
an interval around it, which contains its ends when `m` is even.
-/

namespace RulePyramid

/-- The decimal `digits * 10 ^ exponent`. -/
structure Decimal where
  digits : Nat
  exponent : Int
  deriving DecidableEq

namespace Decimal

/-- Which of two decimals that are equally near to a number is taken: the one with the even last
digit, or the greater one. -/
inductive Tie where
  | even
  | up
  deriving DecidableEq

/-- How many digits a positive number has. -/
def length (n : Nat) : Nat := (Nat.toDigits 10 n).length

/-- Takes the zeros off the end of the digits. -/
def stripZeros (d : Decimal) : Decimal :=
  if d.digits = 0 then ⟨0, 0⟩
  else if d.digits % 10 = 0 then stripZeros ⟨d.digits / 10, d.exponent + 1⟩
  else d
termination_by d.digits
decreasing_by omega

/-- The interval of numbers that round to a value, in units in which all three are integers. -/
structure Interval where
  low : Nat
  value : Nat
  high : Nat
  closed : Bool

def Interval.contains (i : Interval) (n : Nat) : Bool :=
  if i.closed then i.low ≤ n && n ≤ i.high else i.low < n && n < i.high

/-- The multiple of `step` in the interval that is nearest to the value, in steps. -/
def Interval.nearest? (i : Interval) (tie : Tie) (step : Nat) : Option Nat :=
  let q := i.value / step
  match i.contains (q * step), i.contains ((q + 1) * step) with
  | false, false => none
  | true, false => some q
  | false, true => some (q + 1)
  | true, true =>
    match compare (2 * (i.value % step)) step, tie with
    | .lt, _ => some q
    | .gt, _ => some (q + 1)
    | .eq, .even => some (q + q % 2)
    | .eq, .up => some (q + 1)

/-- Tries the powers of ten from the `k`-th down to the first for one with a multiple in the
interval. Every integer is a multiple of the first. -/
def Interval.coarsest (i : Interval) (tie : Tie) : Nat → Decimal
  | 0 => ⟨i.value, 0⟩
  | k + 1 =>
    match i.nearest? tie (Nat.pow 10 (k + 1)) with
    | some n => ⟨n, k + 1⟩
    | none => i.coarsest tie k

end Decimal

namespace Binary

variable {f : Format}

/-- The interval of `m * 2 ^ e` in units of `2 ^ (e - 2)`. Below a power of two the numbers of
the format lie twice as close. -/
def interval (f : Format) (m : Nat) (e : Int) : Decimal.Interval where
  low := if m = 1 <<< (f.precision - 1) ∧ f.least < e then 4 * m - 1 else 4 * m - 2
  value := 4 * m
  high := 4 * m + 2
  closed := m % 2 == 0

/-- The shortest decimal of a positive number `m * 2 ^ e`. -/
def shortest (f : Format) (tie : Decimal.Tie) (m : Nat) (e : Int) : Decimal :=
  let i := interval f m e
  let unit := e - 2
  -- a negative power of two is a power of five over a power of ten
  let (scale, point) : Nat × Int :=
    if 0 ≤ unit then (1 <<< unit.toNat, 0) else (Nat.pow 5 (-unit).toNat, unit)
  let i : Decimal.Interval := ⟨i.low * scale, i.value * scale, i.high * scale, i.closed⟩
  let d := i.coarsest tie (Decimal.length i.value - 1)
  Decimal.stripZeros ⟨d.digits, d.exponent + point⟩

end Binary

end RulePyramid
