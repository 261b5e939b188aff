/-!
Binary floating-point numbers of a given format. A finite number is a sign, a significand and a
power of two; every operation computes the exact result first and then rounds it once, to the
nearest number of the format, a tie going to the even significand.
-/

namespace RulePyramid

/-- A format: how many binary digits a significand has, the power of two of its unit for the
smallest numbers, and the same for the greatest. -/
structure Binary.Format where
  precision : Nat
  least : Int
  greatest : Int

def Binary.Format.single : Format := ⟨24, -149, 104⟩

def Binary.Format.double : Format := ⟨53, -1074, 971⟩

/-- A number of the format `f`: `finite n m e` stands for `m * 2 ^ e`, negated when `n` holds. -/
inductive Binary (f : Binary.Format) where
  | nan
  | infinite (negative : Bool)
  | finite (negative : Bool) (significand : Nat) (exponent : Int)
  deriving DecidableEq

abbrev Single := Binary .single

abbrev Double := Binary .double

namespace Binary

variable {f : Format}

def zero (negative : Bool) : Binary f := .finite negative 0 f.least

instance : Inhabited (Binary f) := ⟨zero false⟩

/-! ## Rounding -/

/-- The quotient rounded to the nearest integer, a tie to the even one. -/
def roundQuotient (num den : Nat) : Nat :=
  let q := num / den
  match compare (2 * (num % den)) den with
  | .lt => q
  | .gt => q + 1
  | .eq => q + q % 2

/-- `num / den` in units of `2 ^ e`, as a fraction. -/
def inUnits (num den : Nat) (e : Int) : Nat × Nat :=
  if 0 ≤ e then (num, den <<< e.toNat) else (num <<< (-e).toNat, den)

/-- The power of two of the unit in which `num / den` has `precision` binary digits, but not
below the least one of the format. -/
def unitOf (f : Format) (num den : Nat) : Int :=
  let e : Int := (num.log2 : Int) - den.log2 - f.precision
  let (n, d) := inUnits num den (e + 1)
  max f.least (if n < d <<< (f.precision - 1) then e else e + 1)

/-- The number with this sign that is nearest to `num / den`. -/
def round (negative : Bool) (num den : Nat) : Binary f :=
  if num = 0 then zero negative else
  let e := unitOf f num den
  let (n, d) := inUnits num den e
  let q := roundQuotient n d
  let (q, e) := if q = 1 <<< f.precision then (q / 2, e + 1) else (q, e)
  if f.greatest < e then .infinite negative else .finite negative q e

/-- The number nearest to `m * 2 ^ e`. -/
def roundScaled (negative : Bool) (m : Nat) (e : Int) : Binary f :=
  if 0 ≤ e then round negative (m <<< e.toNat) 1 else round negative m (1 <<< (-e).toNat)

def ofNat (n : Nat) : Binary f := round false n 1

def ofInt (n : Int) : Binary f := round (n < 0) n.natAbs 1

/-- The same number in another format, rounded where that has no room for it. -/
def convert {g : Format} : Binary f → Binary g
  | .nan => .nan
  | .infinite n => .infinite n
  | .finite n m e => roundScaled n m e

/-! ## Arithmetic -/

def neg : Binary f → Binary f
  | .nan => .nan
  | .infinite n => .infinite !n
  | .finite n m e => .finite (!n) m e

/-- The significand with its sign. -/
def signed (negative : Bool) (m : Nat) : Int := if negative then -(m : Int) else m

/-- A sum that vanishes is negative only when both numbers are. -/
def add : Binary f → Binary f → Binary f
  | .nan, _ | _, .nan => .nan
  | .infinite n, .infinite n' => if n = n' then .infinite n else .nan
  | .infinite n, .finite .. | .finite .., .infinite n => .infinite n
  | .finite n m e, .finite n' m' e' =>
    let low := min e e'
    let s := signed n (m <<< (e - low).toNat) + signed n' (m' <<< (e' - low).toNat)
    if s = 0 then zero (n && n') else roundScaled (s < 0) s.natAbs low

def sub (x y : Binary f) : Binary f := x.add y.neg

def mul : Binary f → Binary f → Binary f
  | .nan, _ | _, .nan => .nan
  | .infinite n, .infinite n' => .infinite (n != n')
  | .infinite n, .finite n' m _ | .finite n' m _, .infinite n =>
    if m = 0 then .nan else .infinite (n != n')
  | .finite n m e, .finite n' m' e' => roundScaled (n != n') (m * m') (e + e')

def div : Binary f → Binary f → Binary f
  | .nan, _ | _, .nan => .nan
  | .infinite _, .infinite _ => .nan
  | .infinite n, .finite n' _ _ => .infinite (n != n')
  | .finite n _ _, .infinite n' => zero (n != n')
  | .finite n m e, .finite n' m' e' =>
    if m' = 0 then (if m = 0 then .nan else .infinite (n != n'))
    else if 0 ≤ e - e' then round (n != n') (m <<< (e - e').toNat) m'
    else round (n != n') m (m' <<< (e' - e).toNat)

instance : Add (Binary f) := ⟨add⟩
instance : Sub (Binary f) := ⟨sub⟩
instance : Mul (Binary f) := ⟨mul⟩
instance : Div (Binary f) := ⟨div⟩
instance : Neg (Binary f) := ⟨neg⟩
instance {n : Nat} : OfNat (Binary f) n := ⟨ofNat n⟩

/-! ## Order -/

/-- How two numbers compare; a NaN compares with nothing. The two zeros are equal. -/
def compare? : Binary f → Binary f → Option Ordering
  | .nan, _ | _, .nan => none
  | .infinite n, .infinite n' => some (compare (signed n 1) (signed n' 1))
  | .infinite n, .finite .. => some (if n then .lt else .gt)
  | .finite .., .infinite n => some (if n then .gt else .lt)
  | .finite n m e, .finite n' m' e' =>
    let low := min e e'
    some (compare (signed n (m <<< (e - low).toNat)) (signed n' (m' <<< (e' - low).toNat)))

instance : LT (Binary f) := ⟨fun x y => compare? x y = some .lt⟩
instance : LE (Binary f) := ⟨fun x y => compare? x y = some .lt ∨ compare? x y = some .eq⟩
instance : DecidableLT (Binary f) := fun x y =>
  inferInstanceAs (Decidable (compare? x y = some .lt))
instance : DecidableLE (Binary f) := fun x y =>
  inferInstanceAs (Decidable (compare? x y = some .lt ∨ compare? x y = some .eq))

/-- The larger of two numbers; the first one when they are equal, and never a NaN when there
is a choice. -/
def larger (x y : Binary f) : Binary f :=
  match x, y with
  | .nan, y => y
  | x, .nan => x
  | x, y => if x < y then y else x

/-- The smaller of two numbers, with the same rules as for the larger. -/
def smaller (x y : Binary f) : Binary f :=
  match x, y with
  | .nan, y => y
  | x, .nan => x
  | x, y => if y < x then y else x

instance : Max (Binary f) := ⟨larger⟩
instance : Min (Binary f) := ⟨smaller⟩

end Binary

end RulePyramid
