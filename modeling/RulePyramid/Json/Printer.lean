import RulePyramid.Json.Value
import RulePyramid.Binary.Text

/-!
The text of a JSON value, either without any blank or spread over lines with an indentation of
two blanks a level. Only quotes, backslashes and control characters are escaped. A number that is
not finite has no text of its own and is written as null.
-/

namespace RulePyramid.Json

/-! ## Numbers -/

/-- Single precision: plain from a millionth to the trillions. -/
def singleStyle : Decimal.Style := ⟨.even, fun e => -6 ≤ e && e ≤ 12, true⟩

/-- Double precision: plain from a hundred-thousandth up to sixteen digits. -/
def doubleStyle : Decimal.Style := ⟨.even, fun e => -5 ≤ e && e ≤ 15, true⟩

def numberText {f : Binary.Format} (style : Decimal.Style) : Binary f → String
  | .finite n m e => Binary.finiteText (f := f) style n m e
  | _ => "null"

/-! ## Strings -/

def hexDigit (n : Nat) : Char := (Nat.toDigits 16 n).headD '0'

def escapeChar (c : Char) : List Char :=
  if c = '"' then ['\\', '"']
  else if c = '\\' then ['\\', '\\']
  else if c = '\n' then ['\\', 'n']
  else if c = '\r' then ['\\', 'r']
  else if c = '\t' then ['\\', 't']
  else if c = '\x08' then ['\\', 'b']
  else if c = '\x0c' then ['\\', 'f']
  else if c.toNat < 0x20 then
    ['\\', 'u', '0', '0', hexDigit (c.toNat / 16), hexDigit (c.toNat % 16)]
  else [c]

def stringChars (s : String) : List Char := '"' :: s.toList.flatMap escapeChar ++ ['"']

/-! ## Values -/

/-- How values are spread out. -/
inductive Spread where
  | compact
  | pretty
  deriving DecidableEq

/-- What stands before an item or a closing bracket at a level. -/
def Spread.lineBreak : Spread → Nat → List Char
  | .compact, _ => []
  | .pretty, level => '\n' :: List.replicate (2 * level) ' '

def Spread.colon : Spread → List Char
  | .compact => [':']
  | .pretty => [':', ' ']

mutual

/-- The text of a value at a level. -/
def chars (spread : Spread) (level : Nat) : Json → List Char
  | .null => "null".toList
  | .bool true => "true".toList
  | .bool false => "false".toList
  | .integer n => (toString n).toList
  | .single x => (numberText singleStyle x).toList
  | .double x => (numberText doubleStyle x).toList
  | .string s => stringChars s
  | .array [] => ['[', ']']
  | .array (item :: items) =>
    '[' :: spread.lineBreak (level + 1) ++ chars spread (level + 1) item ++
      itemChars spread (level + 1) items ++ spread.lineBreak level ++ [']']
  | .object [] => ['\x7b', '\x7d']
  | .object ((name, value) :: members) =>
    '\x7b' :: spread.lineBreak (level + 1) ++ stringChars name ++ spread.colon ++
      chars spread (level + 1) value ++ memberChars spread (level + 1) members ++
      spread.lineBreak level ++ ['\x7d']

/-- The items after the first one. -/
def itemChars (spread : Spread) (level : Nat) : List Json → List Char
  | [] => []
  | item :: items =>
    ',' :: spread.lineBreak level ++ chars spread level item ++ itemChars spread level items

/-- The members after the first one. -/
def memberChars (spread : Spread) (level : Nat) : List (String × Json) → List Char
  | [] => []
  | (name, value) :: members =>
    ',' :: spread.lineBreak level ++ stringChars name ++ spread.colon ++
      chars spread level value ++ memberChars spread level members

end

def render (spread : Spread) (j : Json) : String := .ofList (j.chars spread 0)

end RulePyramid.Json
