import RulePyramid.Binary.Basic

/-!
The numbers that coordinates are made of. A pyramid is laid out by the same formulas over binary
numbers, which round, and over rational numbers, which do not.
-/

namespace RulePyramid

class Scalar (α : Type) extends Add α, Sub α, Mul α, Div α, LT α, LE α, Max α, Min α where
  ofNat : Nat → α
  /-- The smallest of some numbers. -/
  smallest : List α → α
  decidableLT : DecidableLT α
  decidableLE : DecidableLE α

namespace Scalar

instance {α : Type} [Scalar α] : DecidableLT α := decidableLT

instance {α : Type} [Scalar α] : DecidableLE α := decidableLE

variable {α : Type} [Scalar α]

/-- The half of a number. -/
def half (x : α) : α := x / ofNat 2

end Scalar

/-- The smallest number is taken from infinity on, so it is never `nan`. -/
instance (f : Binary.Format) : Scalar (Binary f) where
  ofNat := Binary.ofNat
  smallest xs := xs.foldl min (.infinite false)
  decidableLT := inferInstance
  decidableLE := inferInstance

/-- No number is infinite, and the smallest of none is zero. -/
instance : Scalar Rat where
  toMax := Rat.instMax
  toMin := Rat.instMin
  ofNat n := n
  smallest xs := (@List.min? Rat Rat.instMin xs).getD 0
  decidableLT := inferInstance
  decidableLE := inferInstance

end RulePyramid
