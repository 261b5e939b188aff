import RulePyramid.Json.Form
import RulePyramid.Binary.Basic

/-!
The number that a numeral stands for. An integer of at most sixty-four bits is exact. Any other
numeral becomes a double from as many leading digits as fit into sixty-four bits, which are
rounded once and then multiplied or divided by a rounded power of ten; this is close to the
numeral but not always the nearest double.
-/

namespace RulePyramid.Json

inductive Number where
  | integer (n : Int)
  | real (x : Double)

namespace Number

/-- One more than the greatest number of sixty-four bits. -/
def wordSize : Nat := 1 <<< 64

/-- Appends digits to a number while it fits into a word; gives the number and how many digits
were taken. -/
def appendDigits (n : Nat) : List Nat → Nat × Nat
  | [] => (n, 0)
  | d :: ds =>
    if n * 10 + d < wordSize then
      let (m, taken) := appendDigits (n * 10 + d) ds
      (m, taken + 1)
    else (n, 0)

def digitsValue (ds : List Nat) : Nat := ds.foldl (fun n d => n * 10 + d) 0

/-- The double nearest to a power of ten. -/
def powerOfTen (k : Nat) : Double := .round false (Nat.pow 10 k) 1

/-- The greatest power of ten that is a double. -/
def maxPower : Nat := 308

/-- Multiplies by a power of ten. A number beyond the doubles is refused. -/
def scale (x : Double) (e : Int) : Except Fault Double :=
  if e.natAbs ≤ maxPower then
    if 0 ≤ e then
      match x * powerOfTen e.natAbs with
      | .infinite _ => .error .malformed
      | y => .ok y
    else .ok (x / powerOfTen e.natAbs)
  else if x = .zero false then .ok x
  else if 0 ≤ e then .error .malformed
  else scale (x / powerOfTen maxPower) (e + maxPower)
termination_by e.natAbs
decreasing_by simp only [maxPower] at *; omega

/-- A power of ten of more than thirty-one bits is not computed with. -/
def powerLimit : Nat := 1 <<< 31

/-- The double for a significand and a spelled power of ten. -/
def doubleOf (negative : Bool) (significand : Nat) (shift : Int)
    (power : Option (Bool × List Nat)) : Except Fault Double := do
  let (down, k) := match power with
    | none => (false, 0)
    | some (down, ds) => (down, digitsValue ds)
  let x ← if k < powerLimit then
      scale (.ofNat significand) (if down then shift - k else shift + k)
    else if significand ≠ 0 && !down then throw .malformed
    else pure (.zero false)
  return if negative then -x else x

end Number

/-- The number that a numeral stands for; one beyond the doubles is refused. Minus zero is a
double, and so is a negative integer of more than sixty-four bits. -/
def Numeral.number (n : Numeral) : Except Fault Number := do
  let (significand, taken) := Number.appendDigits 0 n.whole
  let dropped := n.whole.length - taken
  match n.fraction, n.power with
  | none, none =>
    if dropped = 0 && !n.negative then return .integer significand
    else if dropped = 0 && significand ≠ 0 && significand ≤ Number.wordSize / 2 then
      return .integer (-significand)
    else return .real (← Number.doubleOf n.negative significand dropped none)
  | fraction, power =>
    let (significand, places) := Number.appendDigits significand (fraction.getD [])
    return .real (← Number.doubleOf n.negative significand (dropped - places) power)

end RulePyramid.Json
