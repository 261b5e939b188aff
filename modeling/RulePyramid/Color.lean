import RulePyramid.Text.Blank
import RulePyramid.Graph.Node
import RulePyramid.Scalar

/-!
Colours and strokes. The colour of a group is given by a token: a name of the palette, or `#`
with one or two hexadecimal digits for each of red, green and blue. A token that says nothing
gives the neutral colour.
-/

namespace RulePyramid

structure Color where
  r : UInt8
  g : UInt8
  b : UInt8
  a : UInt8 := 255
  deriving DecidableEq

namespace Color

/-! ## Palette -/

def blue : Color := { r := 80, g := 130, b := 180 }
def green : Color := { r := 80, g := 140, b := 100 }
def orange : Color := { r := 220, g := 140, b := 60 }
def red : Color := { r := 190, g := 80, b := 80 }
def purple : Color := { r := 140, g := 100, b := 170 }
def teal : Color := { r := 70, g := 150, b := 150 }
def yellow : Color := { r := 200, g := 160, b := 80 }
def pink : Color := { r := 210, g := 120, b := 160 }

/-- For rules without a group and tokens that say nothing. -/
def neutral : Color := { r := 158, g := 158, b := 158 }

def edge : Color := { r := 120, g := 120, b := 120 }
def cycleEdge : Color := { r := 200, g := 60, b := 60 }

/-- The names are compared without regard to the case of ASCII letters. -/
def named? (name : String) : Option Color :=
  match name.map Char.toLower with
  | "blue" => some blue
  | "green" => some green
  | "orange" => some orange
  | "red" => some red
  | "purple" => some purple
  | "teal" => some teal
  | "yellow" => some yellow
  | "pink" => some pink
  | "gray" | "grey" => some neutral
  | _ => none

/-! ## Hexadecimal tokens -/

def hexDigit? (c : Char) : Option UInt8 :=
  if '0' ≤ c ∧ c ≤ '9' then some (c.toNat - '0'.toNat).toUInt8
  else if 'a' ≤ c ∧ c ≤ 'f' then some (c.toNat - 'a'.toNat + 10).toUInt8
  else if 'A' ≤ c ∧ c ≤ 'F' then some (c.toNat - 'A'.toNat + 10).toUInt8
  else none

/-- A channel of one digit, which counts as if it were written twice. -/
def shortChannel? (c : Char) : Option UInt8 := (hexDigit? c).map (· * 17)

/-- A channel of two characters: two digits, or one digit with a plus sign in front. -/
def channel? (c d : Char) : Option UInt8 :=
  if c = '+' then hexDigit? d else do return (← hexDigit? c) * 16 + (← hexDigit? d)

def ofHex? : List Char → Option Color
  | [r, g, b] => do
    return { r := ← shortChannel? r, g := ← shortChannel? g, b := ← shortChannel? b }
  | [r, r', g, g', b, b'] => do
    return { r := ← channel? r r', g := ← channel? g g', b := ← channel? b b' }
  | _ => none

def ofToken? (token : String) : Option Color :=
  match (Text.trim token).toList with
  | '#' :: digits => ofHex? digits
  | cs => named? (.ofList cs)

/-- The colour of a group with this token, or of none. -/
def ofGroup (token : Option String) : Color := (token.bind ofToken?).getD neutral

end Color

/-- How an edge is drawn. -/
structure EdgeStyle (α : Type) where
  color : Color
  width : α
  dashed : Bool
  arrowHead : Bool
  deriving DecidableEq

/-- An edge is solid when its dependency is declared, and has the warning colour on a cycle. -/
def Origin.edgeStyle {α : Type} [Scalar α] (origin : Origin) (inCycle : Bool) : EdgeStyle α where
  color := if inCycle then .cycleEdge else .edge
  width := if origin.isDeclared then Scalar.half (Scalar.ofNat 3) else Scalar.ofNat 1
  dashed := !origin.isDeclared
  arrowHead := true

end RulePyramid
