import RulePyramid.View.Basic
import RulePyramid.Proofs.Graph.Cycles
import RulePyramid.Proofs.Layout.Bands

/-!
What a view depends on. Graphs with the same nodes have the same view, in whatever order the nodes
were added (`RuleGraph.view_congr`). So of the rules only the first definition of each target
counts, and of the names that it declares only the set (`componentsGraph_congr`).
-/

namespace RulePyramid

variable {α : Type} [Scalar α]

namespace RuleGraph

variable {g g' : RuleGraph}

theorem view_congr (H : g.WellFormed) (H' : g'.WellFormed)
    (h : g.nodes.toList.Perm g'.nodes.toList) (catalog : Catalog) (config : LayoutConfig α) :
    g.view catalog config = g'.view catalog config := by
  have hget : g.get? = g'.get? := funext (H.get?_congr H' h)
  have hedges : g.edges = g'.edges := H.edges_congr H' h
  have hcycles : g.cycles = g'.cycles := H.cycles_congr H' hedges
  have horigin : g.originOf = g'.originOf := funext fun e => by
    rw [originOf, originOf, node, node, hget]
  have hpyramid : config.pyramid g.nodes.toList (.ofGroups catalog.groups) =
      config.pyramid g'.nodes.toList (.ofGroups catalog.groups) := by
    simp only [LayoutConfig.pyramid, LayoutConfig.partition_congr h]
  rw [view, view, hpyramid]
  generalize config.pyramid g'.nodes.toList (.ofGroups catalog.groups) = p
  -- The scenes differ in their graphs only, and of a graph a scene reads no more than the above.
  have hnode : Scene.node? ⟨g, p, catalog, config⟩ = Scene.node? ⟨g', p, catalog, config⟩ :=
    funext fun id => by simp only [Scene.node?, hget]; rfl
  have hedge : Scene.edge? ⟨g, p, catalog, config⟩ = Scene.edge? ⟨g', p, catalog, config⟩ :=
    funext fun cycles => funext fun e => by simp only [Scene.edge?, horigin]; rfl
  simp only [Scene.view, Scene.nodes, Scene.edges, Scene.edges?, hnode, hedge, hedges, hcycles]
  rfl

end RuleGraph

/-! ## Rule lists -/

/-- Without rules there is nothing to draw. -/
theorem componentsGraph_nil (catalog : Catalog) (config : LayoutConfig α) :
    componentsGraph [] catalog config = {} := by
  have hcycles : RuleGraph.empty.cycles = [] := by
    simp [RuleGraph.cycles, RuleGraph.cyclePositions, RuleGraph.reach, Reach.close,
      RuleGraph.empty]
  have hedges : RuleGraph.empty.edges = [] := List.mergeSort_nil
  have hbands : LayoutConfig.partition [] (.ofGroups catalog.groups) = [] := by
    rw [LayoutConfig.partition_eq, List.map_nil, List.eraseDups_nil, List.mergeSort_nil,
      List.map_nil]
  change Scene.view ⟨.empty, config.pyramid [] (.ofGroups catalog.groups), catalog, config⟩ = {}
  rw [LayoutConfig.pyramid, hbands, Scene.view]
  simp only [hcycles, Scene.edges, Scene.edges?, hedges]
  rfl

/-- Two rule lists have the same targets, and the first definitions of a target agree in what the
graph reads of them. -/
structure SameDefinitions (rules rules' : List Rule) : Prop where
  targets : ∀ t, t ∈ rules.map (·.target) ↔ t ∈ rules'.map (·.target)
  first : ∀ t r r', rules.find? (·.target = t) = some r → rules'.find? (·.target = t) = some r' →
    r.expression = r'.expression ∧ r.group = r'.group ∧
      ∀ d, d ∈ r.dependsOn.map Text.trim ↔ d ∈ r'.dependsOn.map Text.trim

namespace SameDefinitions

variable {rules rules' : List Rule}

theorem symm (h : SameDefinitions rules rules') : SameDefinitions rules' rules where
  targets t := (h.targets t).symm
  first t r r' hr hr' := by
    obtain ⟨hexpression, hgroup, hdeclared⟩ := h.first t r' r hr' hr
    exact ⟨hexpression.symm, hgroup.symm, fun d => (hdeclared d).symm⟩

theorem mem_ofRules {n : Node} (h : SameDefinitions rules rules') (hn : n ∈ Node.ofRules rules) :
    n ∈ Node.ofRules rules' := by
  have hknown : Node.isTarget rules = Node.isTarget rules' := funext fun t => by
    rw [Bool.eq_iff_iff, Node.isTarget_iff, Node.isTarget_iff, h.targets]
  obtain ⟨r, hr, rfl⟩ := Node.mem_ofRules.mp hn
  have hmem : r.target ∈ rules.map (·.target) :=
    List.mem_map_of_mem (List.mem_of_find?_eq_some hr)
  have hid : r.target ∈ (Node.ofRules rules').map (·.id) :=
    Node.mem_map_id_ofRules.mpr ((h.targets _).mp hmem)
  obtain ⟨n', hn', hid'⟩ := List.mem_map.mp hid
  obtain ⟨r', hr', rfl⟩ := Node.mem_ofRules.mp hn'
  obtain ⟨hexpression, hgroup, hdeclared⟩ := h.first r.target r r' hr (hid' ▸ hr')
  rwa [hknown, Node.ofRule_congr hid'.symm hexpression hgroup hdeclared]

/-- The nodes of the rules differ in their order at most. -/
theorem perm_ofRules (h : SameDefinitions rules rules') :
    (Node.ofRules rules).Perm (Node.ofRules rules') :=
  (List.perm_ext_iff_of_nodup (Node.nodup_ids_ofRules rules).of_map
    (Node.nodup_ids_ofRules rules').of_map).mpr fun _ => ⟨h.mem_ofRules, h.symm.mem_ofRules⟩

end SameDefinitions

/-- **Nothing but the first definition of each target counts**: not the order of the rules, not
further definitions, and of the declared names neither the order nor repetitions. -/
theorem componentsGraph_congr {rules rules' : List Rule} (h : SameDefinitions rules rules')
    (catalog : Catalog) (config : LayoutConfig α) :
    componentsGraph rules catalog config = componentsGraph rules' catalog config := by
  refine RuleGraph.view_congr (.ofRules rules) (.ofRules rules') ?_ catalog config
  rw [RuleGraph.toList_ofRules, RuleGraph.toList_ofRules]
  exact h.perm_ofRules

/-- The same rules from the last one on, with a name declared twice and a second definition. -/
theorem componentsGraph_reversed :
    let gross : Rule := ⟨"Gross", "100", [], {}⟩
    let net : Rule := ⟨"Net", "Gross * 0.7", ["Gross", "Net"], {}⟩
    let rules := [gross, net]
    let rules' := [net.withDependsOn [" Net", "Gross ", "Gross"], gross, ⟨"Net", "0", [], {}⟩]
    SameDefinitions rules rules' ∧
      componentsGraph rules .fallback (.default : LayoutConfig Single) =
        componentsGraph rules' .fallback .default := by
  intro gross net rules rules'
  have h : SameDefinitions rules rules' := by
    refine ⟨fun t => ?_, fun t r r' hr hr' => ?_⟩
    · simp [rules, rules', gross, net, Rule.withDependsOn]
      tauto
    · have ht : t = r.target := by simpa [eq_comm] using List.find?_some hr
      obtain rfl | rfl : r = gross ∨ r = net := by
        simpa [rules] using List.mem_of_find?_eq_some hr
      · subst ht
        cases hr'
        exact ⟨rfl, rfl, fun d => Iff.rfl⟩
      · subst ht
        cases hr'
        refine ⟨rfl, rfl, fun d => ?_⟩
        have htrim : [" Net", "Gross ", "Gross"].map Text.trim = ["Net", "Gross", "Gross"] := by
          decide +kernel
        have htrim' : ["Gross", "Net"].map Text.trim = ["Gross", "Net"] := by decide +kernel
        simp only [Rule.withDependsOn, net, htrim, htrim']
        simp [or_comm]
  exact ⟨h, componentsGraph_congr h .fallback .default⟩

end RulePyramid
