import RulePyramid.Text.Pattern

/-!
The rules that an expression reads. This is a scan for names, not a parser: text in double quotes
is blanked out, and of the words that remain those count that are spelled the way rules are named,
with a capital in front and a small letter somewhere. Functions are spelled in capitals only.
-/

namespace RulePyramid.Expression

/-- Text between two quotes. -/
def quotedLiteral : Text.Pattern := [.one (· = '"'), .many (· ≠ '"'), .one (· = '"')]

def isNameChar (c : Char) : Bool := c.isAlphanum || c = '_'

/-- A word that is spelled like the name of a rule. -/
def ruleName : Text.Pattern :=
  [.wordBorder, .one Char.isUpper, .many isNameChar, .one Char.isLower, .many isNameChar,
    .wordBorder]

/-- Puts a blank in the place of each quoted literal. -/
def blankLiterals (cs : List Char) : List Char := quotedLiteral.replaceAll [' '] cs

def stripLiterals (expression : String) : String := .ofList (blankLiterals expression.toList)

/-- The words outside of quotes that are spelled like names of rules, each once, in order of
first appearance. -/
def candidates (expression : String) : List String :=
  ((ruleName.findAll (blankLiterals expression.toList)).map String.ofList).eraseDups

/-- The names of known rules, other than the rule itself, that an expression mentions, in
ascending order. -/
def references (expression : String) (known : String → Bool) (self : String) : List String :=
  ((candidates expression).filter fun name => name ≠ self && known name).mergeSort

end RulePyramid.Expression
