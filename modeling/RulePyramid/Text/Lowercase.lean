import RulePyramid.Text.Lowercase.Table

/-!
Lower-casing of whole texts. Each character goes to its lower case by itself, with two
exceptions: a capital I with a dot above becomes two characters, and a capital sigma becomes
the final form at the end of a word.
-/

namespace RulePyramid.Text

namespace CaseRun

def contains (r : CaseRun) (c : Char) : Bool :=
  r.first ≤ c.toNat && c.toNat ≤ r.last && (c.toNat - r.first) % r.step == 0

def lower (r : CaseRun) (c : Char) : Char := .ofNat (c.toNat + r.shift).toNat

end CaseRun

/-- The lower case of a character that stands alone. -/
def lowerChar (c : Char) : List Char :=
  if c = 'İ' then ['i', '\u0307']
  else match caseRuns.find? (·.contains c) with
    | some r => [r.lower c]
    | none => [c]

/-- Whether the first character that counts is a cased one; the ignorable ones do not count. -/
def startsCased (cs : List Char) : Bool :=
  match cs.dropWhile caseIgnorable.contains with
  | [] => false
  | c :: _ => cased.contains c

/-- A sigma ends its word when a cased character precedes it and none follows. The characters
before it are given from the nearest one on. -/
def lowerSigma (before after : List Char) : Char :=
  if startsCased before && !startsCased after then 'ς' else 'σ'

/-- Lower-cases what follows `before`, whose last character comes first. -/
def lowerAfter (before : List Char) : List Char → List Char
  | [] => []
  | c :: rest =>
    (if c = 'Σ' then [lowerSigma before rest] else lowerChar c) ++ lowerAfter (c :: before) rest

def lowercase (s : String) : String := .ofList (lowerAfter [] s.toList)

end RulePyramid.Text
