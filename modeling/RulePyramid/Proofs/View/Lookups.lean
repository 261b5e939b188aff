import RulePyramid.Proofs.View.Completeness

/-!
What may be relied on when a graph is drawn, however its nodes were added. An id leads to the first
node with it, and both ends of an edge are ids of nodes. So a scene with the graph has its arrows
whatever its pyramid was made for (`Scene.exists_edges?_eq_ok`), and no look-up fails
(`RuleGraph.records_addNodes`).
-/

namespace RulePyramid

/-! ## Arrows -/

variable {α : Type}

/-- Whether both ends of an edge have a position. -/
def Pyramid.joins (p : Pyramid α) (e : Edge) : Bool :=
  (p.position? e.source).isSome && (p.position? e.target).isSome

namespace Scene

variable [Scalar α] {s : Scene α} {e : Edge}

/-- No edge of the graph fails; it has an arrow just if both its ends have a position. -/
theorem exists_edge?_eq_ok (H : s.graph.WellFormed) (he : e ∈ s.graph.edges)
    (cycles : List (List String)) :
    ∃ a, s.edge? cycles e = .ok a ∧
      a.map (fun a => ⟨a.source, a.target⟩) = Option.guard s.pyramid.joins e := by
  obtain ⟨n, o, -, ho, -⟩ := H.exists_originOf he
  rw [Option.guard, Pyramid.joins]
  cases hp : s.pyramid.position? e.source with
  | none => exact ⟨none, by rw [edge?, hp], rfl⟩
  | some p =>
    cases hq : s.pyramid.position? e.target with
    | none => exact ⟨none, by rw [edge?, hp, hq], rfl⟩
    | some q => exact ⟨_, edge?_eq_ok_some_iff.mpr ⟨p, q, o, hp, hq, ho, rfl⟩, rfl⟩

/-- The arrows are those of the edges whose ends have a position, in the same order. -/
theorem exists_edges?_eq_ok (H : s.graph.WellFormed) (cycles : List (List String)) :
    ∃ arrows, s.edges? cycles = .ok arrows ∧
      arrows.map (fun a => ⟨a.source, a.target⟩) = s.graph.edges.filter s.pyramid.joins := by
  have hok : ∀ e ∈ s.graph.edges, ∃ a, s.edge? cycles e = .ok a := fun e he => by
    obtain ⟨a, ha, -⟩ := exists_edge?_eq_ok H he cycles
    exact ⟨a, ha⟩
  refine ⟨_, edges?_eq hok, ?_⟩
  rw [List.map_filterMap, ← List.filterMap_eq_filter]
  refine List.filterMap_congr fun e he => ?_
  obtain ⟨a, ha, hends⟩ := exists_edge?_eq_ok H he cycles
  rw [ha]
  exact hends

end Scene

/-! ## What a graph knows of its nodes -/

namespace RuleGraph

/-- What a graph knows of the nodes that were added to it, in this order. -/
structure Records (g : RuleGraph) (added : List Node) : Prop where
  nodup_ids : (g.nodes.toList.map (·.id)).Nodup
  /-- A node is kept just if it is the first one with its id. -/
  mem_nodes_iff : ∀ n, n ∈ g.nodes.toList ↔ added.find? (·.id = n.id) = some n
  /-- Each position in the index is that of a node with the id. -/
  index_iff : ∀ id i, g.index[id]? = some i ↔ ∃ h : i < g.nodes.size, g.nodes[i].id = id
  contains_eq : ∀ id, g.contains id = (added.find? (·.id = id)).isSome
  get?_eq : ∀ id, g.get? id = added.find? (·.id = id)
  node_eq : ∀ id, g.node id = (added.find? (·.id = id)).elim (.error ⟨id⟩) .ok
  /-- One more node is refused just if its id is taken, and then nothing changes. -/
  refused_iff : ∀ n, (g.addNode n).1 = false ↔ ∃ m ∈ added, m.id = n.id
  eq_of_refused : ∀ n, (g.addNode n).1 = false → (g.addNode n).2 = g
  contains_ends : ∀ e ∈ g.edges, g.contains e.source ∧ g.contains e.target
  /-- Whatever the pyramid was made for, its arrows are found. -/
  exists_arrows : ∀ (α : Type) [Scalar α] (pyramid : Pyramid α) (catalog : Catalog)
    (config : LayoutConfig α) (cycles : List (List String)),
    ∃ arrows, Scene.edges? ⟨g, pyramid, catalog, config⟩ cycles = .ok arrows ∧
      arrows.map (fun a => ⟨a.source, a.target⟩) = g.edges.filter pyramid.joins

/-- All follows from what is found under each id. -/
theorem WellFormed.records {g : RuleGraph} {added : List Node} (H : g.WellFormed)
    (hget : ∀ id, g.get? id = added.find? (·.id = id)) : g.Records added := by
  have hcontains : ∀ id, g.contains id = (added.find? (·.id = id)).isSome := fun id => by
    rw [H.contains_eq_isSome, hget]
  exact {
    nodup_ids := H.nodup_ids
    mem_nodes_iff n := by
      rw [← hget, H.get?_eq_some_iff, and_iff_left rfl]
    index_iff _ _ := H.index_eq_some_iff
    contains_eq := hcontains
    get?_eq := hget
    node_eq id := by
      rw [node, hget]
      cases added.find? (·.id = id) <;> rfl
    refused_iff n := by
      rw [addNode_fst_eq_false_iff, hcontains, List.find?_isSome]
      simp only [decide_eq_true_eq]
    eq_of_refused n h := addNode_snd_of_contains (addNode_fst_eq_false_iff.mp h)
    contains_ends _ := H.contains_of_mem_edges
    exists_arrows _ _ _ _ _ := Scene.exists_edges?_eq_ok H }

/-- **An id leads to the first node that was added with it**, whether the graph was empty at first
or made of some nodes, and no arrow leads to a node that the graph does not have. -/
theorem records_addNodes (start more : List Node) :
    ((ofNodes start).addNodes more).Records (start ++ more) := by
  rw [addNodes_ofNodes]
  refine (WellFormed.empty.addNodes _).records fun id => ?_
  rw [WellFormed.empty.get?_addNodes, get?_empty, Option.none_or]

end RuleGraph
end RulePyramid
