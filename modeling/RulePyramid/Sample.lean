import RulePyramid.Rule
import RulePyramid.Group

/-!
Rulesets of any size for measurements. The rules are spread evenly over five groups and read
earlier rules, so that their graph has no cycle. Some also hold a quoted text and a function,
which a scan has to pass over.
-/

namespace RulePyramid.Sample

def groupNames : List String := ["base", "allowance", "bonus", "deduction", "total"]

/-- A catalog with all the groups that the rules are in. -/
def catalog : Catalog where
  groups := groupNames.zipIdx.map fun (name, i) => ⟨name, name.map Char.toUpper, "blue", i + 1⟩

def ruleName (i : Nat) : String := s!"Component{i}"

/-- The rules that the `i`-th one reads: every third one before it, at most `fanIn`. -/
def referencesOf (fanIn i : Nat) : List String :=
  ((List.range fanIn).filter fun k => (k + 1) * 3 ≤ i).map fun k => ruleName (i - (k + 1) * 3)

def expressionOf (fanIn i : Nat) : String :=
  let sum := match referencesOf fanIn i with
    | [] => toString i
    | names => " + ".intercalate names
  if i % 7 = 0 then s!"MAX({sum}, 0) + IF(\"Code Word\", 1, 0)" else sum

/-- The `i`-th of `count` rules. -/
def rule (count fanIn i : Nat) : Rule where
  target := ruleName i
  expression := expressionOf fanIn i
  dependsOn := if i % 11 = 0 ∧ 0 < i then [ruleName (i - 1)] else []
  metadata := { group := groupNames[i * groupNames.length / max count 1]? }

def rules (count fanIn : Nat) : List Rule := (List.range count).map (rule count fanIn)

end RulePyramid.Sample
