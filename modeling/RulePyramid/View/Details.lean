import RulePyramid.Graph.Basic

/-!
The details of one rule: its first definition, and the rules that depend on it.
-/

namespace RulePyramid

structure RuleDetails where
  target : String
  expression : String
  dependsOn : List String
  group : Option String
  effectiveFrom : Option Date
  effectiveTo : Option Date
  usedBy : List String

namespace RuleDetails

def ofRule (g : RuleGraph) (r : Rule) : RuleDetails where
  target := r.target
  expression := r.expression
  dependsOn := r.dependsOn
  group := r.metadata.group
  effectiveFrom := r.metadata.effectiveFrom
  effectiveTo := r.metadata.effectiveTo
  usedBy := g.dependentsOf r.target

/-- The details of the rule with this target, if there is one. -/
def select (rules : List Rule) (g : RuleGraph) (id : String) : Option RuleDetails :=
  (rules.find? (·.target = id)).map (ofRule g)

end RuleDetails

end RulePyramid
