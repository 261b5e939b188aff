import RulePyramid.Text.CharTable

/-!
Blank characters and trimming. A character is blank when it has the Unicode property
White_Space; trimming takes all blank characters off both ends of a text.
-/

namespace RulePyramid.Text

/-- The characters with the property White_Space. -/
def whiteSpace : CharTable :=
  [(0x0009, 0x000D), (0x0020, 0x0020), (0x0085, 0x0085), (0x00A0, 0x00A0), (0x1680, 0x1680),
   (0x2000, 0x200A), (0x2028, 0x2029), (0x202F, 0x202F), (0x205F, 0x205F), (0x3000, 0x3000)]

def isBlank (c : Char) : Bool := whiteSpace.contains c

/-- Takes the blank characters off the front. -/
def trimFront (cs : List Char) : List Char := cs.dropWhile isBlank

/-- Takes the blank characters off the back. -/
def trimBack (cs : List Char) : List Char := (cs.reverse.dropWhile isBlank).reverse

/-- Takes the blank characters off both ends. -/
def trim (s : String) : String := .ofList (trimBack (trimFront s.toList))

/-- All characters are blank. -/
def isBlankText (s : String) : Bool := s.toList.all isBlank

end RulePyramid.Text
