import RulePyramid.Binary.Shortest

/-!
The text of a number. What differs between the places where numbers are written is one record:
which magnitudes are written without a power of ten, and whether a whole number keeps a point.
-/

namespace RulePyramid

/-- How decimals are written. The magnitude of a decimal is the power of ten of its first
digit. -/
structure Decimal.Style where
  tie : Tie
  /-- The magnitudes that are written without a power of ten. -/
  plain : Int → Bool
  /-- A number without a fraction is written with one that is zero. -/
  keepPoint : Bool

namespace Decimal

/-- The digits without a power of ten; `magnitude` is that of the first digit. -/
def plainChars (style : Style) (digits : List Char) (magnitude : Int) : List Char :=
  if magnitude < 0 then
    '0' :: '.' :: List.replicate (-magnitude - 1).toNat '0' ++ digits
  else
    let whole := magnitude.toNat + 1
    if digits.length ≤ whole then
      digits ++ List.replicate (whole - digits.length) '0' ++
        (if style.keepPoint then ['.', '0'] else [])
    else digits.take whole ++ '.' :: digits.drop whole

/-- One digit before the point and a signed power of ten. -/
def scientificChars (digits : List Char) (magnitude : Int) : List Char :=
  let power := (if magnitude < 0 then '-' else '+') :: Nat.toDigits 10 magnitude.natAbs
  match digits with
  | [d] => d :: 'e' :: power
  | d :: rest => d :: '.' :: rest ++ 'e' :: power
  | [] => []

def chars (style : Style) (d : Decimal) : List Char :=
  let digits := Nat.toDigits 10 d.digits
  let magnitude := d.exponent + digits.length - 1
  if style.plain magnitude then plainChars style digits magnitude
  else scientificChars digits magnitude

end Decimal

namespace Binary

variable {f : Format}

/-- The text of a finite number. -/
def finiteText (style : Decimal.Style) (negative : Bool) (m : Nat) (e : Int) : String :=
  let body :=
    if m = 0 then Decimal.plainChars style ['0'] 0
    else (shortest f style.tie m e).chars style
  .ofList (if negative then '-' :: body else body)

end Binary

end RulePyramid
