import RulePyramid.View.Details
import RulePyramid.Proofs.Graph.Dependents
import RulePyramid.Proofs.View.Completeness

/-!
The details of a rule. They are those of the definition from which its node is made
(`RuleDetails.select_eq_some_iff`), and the rules that they list as its dependents are where the
arrows from its box lead. So details, graph and view agree about which rule depends on which
(`agrees_componentsGraph`).
-/

namespace RulePyramid

/-- Some details repeat what a rule says. -/
structure RuleDetails.Describes (d : RuleDetails) (r : Rule) : Prop where
  target_eq : d.target = r.target
  expression_eq : d.expression = r.expression
  dependsOn_eq : d.dependsOn = r.dependsOn
  group_eq : d.group = r.group
  effectiveFrom_eq : d.effectiveFrom = r.metadata.effectiveFrom
  effectiveTo_eq : d.effectiveTo = r.metadata.effectiveTo

/-- A graph of some rules, the details that it gives and a view of it agree about which rule `t`
depends on which rule `d`. -/
structure RuleGraph.Agrees {α : Type} (g : RuleGraph) (v : View α) (rules : List Rule) : Prop where
  mem_edges_iff_dependsOn : ∀ d t, ⟨d, t⟩ ∈ g.edges ↔ ∃ n, g.get? t = some n ∧ n.dependsOn d
  mem_edges_iff_mem_dependencyIds : ∀ d t,
    ⟨d, t⟩ ∈ g.edges ↔ ∃ n, g.get? t = some n ∧ d ∈ n.dependencyIds
  mem_edges_iff_mem_dependentsOf : ∀ d t, ⟨d, t⟩ ∈ g.edges ↔ t ∈ g.dependentsOf d
  /-- The edges are listed by source and target, none twice. -/
  edges_ascending : Ascending Edge.key g.edges
  dependentsOf_ascending : ∀ d, (g.dependentsOf d).Pairwise (· < ·)
  isSome_select_iff : ∀ id, (RuleDetails.select rules g id).isSome ↔ g.contains id
  /-- Details are those of the first definition, from which the node is made as well. -/
  select_eq : ∀ id details, RuleDetails.select rules g id = some details →
    ∃ r, rules.find? (·.target = id) = some r ∧ details.Describes r ∧
      g.get? id = some (Node.ofRule (rules.map (·.target)).contains r)
  /-- The dependents are listed like the arrows that lead to them. -/
  usedBy_eq : ∀ id details, RuleDetails.select rules g id = some details →
    details.usedBy = (v.edges.filter (·.source = id)).map (·.target)

namespace RuleDetails

variable {rules : List Rule} {g : RuleGraph} {id : String} {details : RuleDetails}

theorem select_eq_some_iff :
    select rules g id = some details ↔
      ∃ r, rules.find? (·.target = id) = some r ∧ ofRule g r = details :=
  Option.map_eq_some_iff

theorem isSome_select_iff : (select rules g id).isSome ↔ ∃ r ∈ rules, r.target = id := by
  simp only [select, Option.isSome_map, List.find?_isSome, decide_eq_true_eq]

theorem describes_ofRule (g : RuleGraph) (r : Rule) : (ofRule g r).Describes r :=
  ⟨rfl, rfl, rfl, rfl, rfl, rfl⟩

end RuleDetails

namespace RuleGraph

variable {rules : List Rule} {r : Rule} {id : String}

/-- The node of a target is made from its first definition. -/
theorem get?_ofRules_of_find? (hr : rules.find? (·.target = id) = some r) :
    (ofRules rules).get? id = some (Node.ofRule (Node.isTarget rules) r) := by
  have hid := List.find?_some hr
  rw [decide_eq_true_eq] at hid
  rw [(WellFormed.ofRules rules).get?_eq_some_iff, toList_ofRules, Node.mem_ofRules]
  exact ⟨⟨r, by rw [Node.ofRule, hid]; exact hr, rfl⟩, hid⟩

/-- The arrows from a box lead where the edges from its node do, in the same order. -/
theorem WellFormed.map_target_edges_view {α : Type} [Scalar α] {g : RuleGraph} (H : g.WellFormed)
    (catalog : Catalog) (config : LayoutConfig α) (id : String) :
    ((g.view catalog config).edges.filter (·.source = id)).map (·.target) =
      (g.edges.filter (·.source = id)).map (·.target) := by
  rw [← H.map_edges_view catalog config, List.filter_map, List.map_map]
  rfl

end RuleGraph

/-- **Details, graph and view agree about which rule depends on which.** -/
theorem agrees_componentsGraph {α : Type} [Scalar α] (rules : List Rule) (catalog : Catalog)
    (config : LayoutConfig α) :
    (RuleGraph.ofRules rules).Agrees (componentsGraph rules catalog config) rules where
  mem_edges_iff_dependsOn d t := by rw [RuleGraph.get?_dependsOn_iff, RuleGraph.mem_edges_ofRules]
  mem_edges_iff_mem_dependencyIds _ _ := RuleGraph.mem_edges_ofRules
  mem_edges_iff_mem_dependentsOf _ _ := RuleGraph.mem_dependentsOf_ofRules.symm
  edges_ascending := RuleGraph.ascending_edges_ofRules rules
  dependentsOf_ascending := (RuleGraph.WellFormed.ofRules rules).ascending_dependentsOf
  isSome_select_iff id := by
    rw [RuleDetails.isSome_select_iff, RuleGraph.contains_ofRules, List.mem_map]
  select_eq id details hdetails := by
    obtain ⟨r, hr, rfl⟩ := RuleDetails.select_eq_some_iff.mp hdetails
    exact ⟨r, hr, RuleDetails.describes_ofRule _ r, RuleGraph.get?_ofRules_of_find? hr⟩
  usedBy_eq id details hdetails := by
    obtain ⟨r, hr, rfl⟩ := RuleDetails.select_eq_some_iff.mp hdetails
    have hid := List.find?_some hr
    rw [decide_eq_true_eq] at hid
    rw [componentsGraph, (RuleGraph.WellFormed.ofRules rules).map_target_edges_view,
      ← RuleGraph.dependentsOf_ofRules, RuleDetails.ofRule, hid]

end RulePyramid
