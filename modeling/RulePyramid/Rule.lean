import RulePyramid.Date
import RulePyramid.Json.Value

/-!
Payroll rules. A rule computes its target from an expression; it may declare the rules that it
reads, and its metadata say which group it belongs to, when it is in effect, and whatever else
its owner notes.
-/

namespace RulePyramid

structure Metadata where
  group : Option String := none
  effectiveFrom : Option Date := none
  effectiveTo : Option Date := none
  /-- Further notes, in ascending order of their names. -/
  extra : List (String × Json) := []

structure Rule where
  target : String
  expression : String := ""
  dependsOn : List String := []
  metadata : Metadata := {}

namespace Rule

instance : Inhabited Rule := ⟨⟨"", "", [], {}⟩⟩

def group (r : Rule) : Option String := r.metadata.group

def withGroup (r : Rule) (group : String) : Rule :=
  { r with metadata := { r.metadata with group := some group } }

def withDependsOn (r : Rule) (names : List String) : Rule := { r with dependsOn := names }

def withEffectiveWindow (r : Rule) (start stop : Option Date) : Rule :=
  { r with metadata := { r.metadata with effectiveFrom := start, effectiveTo := stop } }

end Rule

structure Ruleset where
  id : String := ""
  name : String := ""
  rules : List Rule := []

/-- The first definition of a target. -/
def Ruleset.rule? (s : Ruleset) (target : String) : Option Rule :=
  s.rules.find? (·.target = target)

end RulePyramid
