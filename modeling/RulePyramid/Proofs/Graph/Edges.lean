import Mathlib.Logic.Relation
import RulePyramid.Proofs.Graph.Nodes

/-!
The edges of a graph. An edge runs from each dependency that is in the graph to the node that has it
(`WellFormed.mem_edges`), and the edges do not tell in which order the nodes were added
(`WellFormed.edges_congr`). In a graph of rules no dependency is missing (`mem_edges_ofRules`).
-/

namespace RulePyramid
namespace RuleGraph

variable {g g' : RuleGraph} {rules : List Rule}

namespace WellFormed

theorem mem_edges (H : g.WellFormed) {e : Edge} :
    e ∈ g.edges ↔ ∃ n, g.get? e.target = some n ∧ e.source ∈ n.dependencyIds ∧
      g.contains e.source := by
  obtain ⟨source, target⟩ := e
  simp only [edges, List.mem_mergeSort, List.mem_flatMap, List.mem_map, List.mem_filter,
    Edge.mk.injEq, H.get?_eq_some_iff]
  constructor
  · rintro ⟨n, hn, _, ⟨hd, hin⟩, rfl, htarget⟩
    exact ⟨n, ⟨hn, htarget⟩, hd, hin⟩
  · rintro ⟨n, ⟨hn, htarget⟩, hd, hin⟩
    exact ⟨n, hn, source, ⟨hd, hin⟩, rfl, htarget⟩

/-- Both ends of an edge are in the graph. -/
theorem contains_of_mem_edges (H : g.WellFormed) {e : Edge} (he : e ∈ g.edges) :
    g.contains e.source ∧ g.contains e.target := by
  obtain ⟨n, hn, -, hsource⟩ := H.mem_edges.mp he
  exact ⟨hsource, H.contains_iff.mpr ⟨n, H.get?_eq_some_iff.mp hn⟩⟩

/-- The origin of an edge is the one that its target notes for its source. -/
theorem exists_originOf (H : g.WellFormed) {e : Edge} (he : e ∈ g.edges) :
    ∃ n o, g.get? e.target = some n ∧ g.originOf e = .ok o ∧ ⟨e.source, o⟩ ∈ n.dependencies := by
  obtain ⟨n, hn, hd, -⟩ := H.mem_edges.mp he
  have hsome : (n.dependencies.find? (·.id = e.source)).isSome := by
    obtain ⟨d, hd, hid⟩ := List.mem_map.mp hd
    rw [List.find?_isSome]
    exact ⟨d, hd, decide_eq_true hid⟩
  obtain ⟨d, hfind⟩ := Option.isSome_iff_exists.mp hsome
  have hid := List.find?_some hfind
  rw [decide_eq_true_eq] at hid
  refine ⟨n, d.origin, hn, ?_, hid ▸ List.mem_of_find?_eq_some hfind⟩
  rw [originOf, node, hn]
  simp only [hfind, Bind.bind, Except.bind, Pure.pure, Except.pure, Option.elim_some]

/-- The edges ascend if no node lists a dependency twice. -/
theorem ascending_edges (H : g.WellFormed)
    (hdeps : ∀ n ∈ g.nodes.toList, n.dependencyIds.Nodup) : Ascending Edge.key g.edges := by
  refine sortsBy_edges.ascending_mergeSort (List.nodup_flatMap.mpr ⟨fun n hn => ?_, ?_⟩)
  · refine ((hdeps n hn).filter _).map fun a b hab => ?_
    exact (Edge.mk.inj hab).1
  · have hids := H.nodup_ids
    rw [List.Nodup, List.pairwise_map] at hids
    refine hids.imp fun hne => ?_
    simp only [Function.onFun, List.disjoint_left, List.mem_map, not_exists, not_and]
    rintro e ⟨_, _, rfl⟩ _ _ heq
    exact hne (Edge.mk.inj heq).2.symm

/-! ## Graphs with the same nodes -/

theorem contains_congr (H : g.WellFormed) (H' : g'.WellFormed)
    (h : g.nodes.toList.Perm g'.nodes.toList) (id : String) : g.contains id = g'.contains id := by
  rw [Bool.eq_iff_iff, H.contains_iff, H'.contains_iff]
  simp only [h.mem_iff]

theorem get?_congr (H : g.WellFormed) (H' : g'.WellFormed)
    (h : g.nodes.toList.Perm g'.nodes.toList) (id : String) : g.get? id = g'.get? id := by
  ext n
  rw [H.get?_eq_some_iff, H'.get?_eq_some_iff, h.mem_iff]

theorem edges_congr (H : g.WellFormed) (H' : g'.WellFormed)
    (h : g.nodes.toList.Perm g'.nodes.toList) : g.edges = g'.edges := by
  have hcontains : g.contains = g'.contains := funext (H.contains_congr H' h)
  rw [edges, edges, hcontains]
  exact sortsBy_edges.mergeSort_congr (h.flatMap_right _)

end WellFormed

/-! ## Graphs of rules -/

theorem contains_ofRules {id : String} :
    (ofRules rules).contains id ↔ id ∈ rules.map (·.target) := by
  rw [(WellFormed.ofRules rules).contains_iff, toList_ofRules, ← Node.mem_map_id_ofRules,
    List.mem_map]

theorem ascending_dependencyIds_ofRules {n : Node} (hn : n ∈ (ofRules rules).nodes.toList) :
    n.dependencyIds.Pairwise (· < ·) := by
  rw [toList_ofRules, Node.mem_ofRules] at hn
  obtain ⟨r, -, rfl⟩ := hn
  exact Node.ascending_dependencyIds _ r

theorem ascending_edges_ofRules (rules : List Rule) : Ascending Edge.key (ofRules rules).edges :=
  (WellFormed.ofRules rules).ascending_edges fun _ hn =>
    (ascending_dependencyIds_ofRules hn).imp ne_of_lt

/-- Rules depend on rules only, so no edge is left out. -/
theorem mem_edges_ofRules {e : Edge} :
    e ∈ (ofRules rules).edges ↔
      ∃ n, (ofRules rules).get? e.target = some n ∧ e.source ∈ n.dependencyIds := by
  rw [(WellFormed.ofRules rules).mem_edges]
  refine exists_congr fun n => and_congr_right fun hn => and_iff_left_of_imp fun hd => ?_
  rw [(WellFormed.ofRules rules).get?_eq_some_iff, toList_ofRules, Node.mem_ofRules] at hn
  obtain ⟨⟨r, -, rfl⟩, -⟩ := hn
  exact contains_ofRules.mpr (Node.isTarget_iff.mp (Node.mem_dependencyIds_ofRule.mp hd).2.1)

end RuleGraph
end RulePyramid
