import RulePyramid.View.Basic
import RulePyramid.Proofs.Graph.Edges
import RulePyramid.Proofs.Layout.Bands

/-!
A view shows all of its graph and nothing else. A scene skips a node without a position, an edge
with such an end and a band without a caption; in the view of a graph there is none of these
(`RuleGraph.WellFormed.exists_node?`, `exists_edge?`, `RuleGraph.exists_layer?`). So the view of
some rules has a box for each target, an arrow for each dependency and a caption for each band that
has a box (`draws_componentsGraph`).
-/

namespace RulePyramid

variable {α : Type} [Scalar α]

/-- Nothing is skipped if `f` gives each member a value, with the member's key. -/
theorem map_filterMap_of_forall {β γ δ : Type} {f : β → Option γ} {key : γ → δ}
    {bs : List β} (key' : β → δ) (h : ∀ b ∈ bs, ∃ c, f b = some c ∧ key c = key' b) :
    (bs.filterMap f).map key = bs.map key' := by
  have hsome : ∀ b ∈ bs, (f b).map key = some (key' b) := fun b hb => by
    obtain ⟨c, hc, hkey⟩ := h b hb
    rw [hc, Option.map_some, hkey]
  rw [List.map_filterMap, List.filterMap_congr hsome, List.filterMap_eq_map']

/-! ## Scenes -/

namespace Scene

variable {s : Scene α} {cycles : List (List String)} {id : String} {x : ViewNode α} {e : Edge}
  {a : ViewEdge α} {l : Layer α} {y : ViewLayer α}

omit [Scalar α] in
theorem node?_eq_some_iff :
    s.node? id = some x ↔ ∃ n p, s.graph.get? id = some n ∧ s.pyramid.position? id = some p ∧
      x = ⟨n.id, n.id, n.group, s.colorOf n.group, p, ⟨s.config.nodeWidth, s.config.nodeHeight⟩,
        n.dependencyIds⟩ := by
  simp only [node?, Option.bind_eq_bind, Option.bind_eq_some_iff, Option.pure_def,
    Option.some.injEq, @eq_comm _ x, exists_and_left]

theorem edge?_eq_ok_some_iff :
    s.edge? cycles e = .ok (some a) ↔ ∃ p q o, s.pyramid.position? e.source = some p ∧
      s.pyramid.position? e.target = some q ∧ s.graph.originOf e = .ok o ∧
      a = ⟨e.source, e.target, o, s.bottomCenter p, s.topCenter q, RuleGraph.joinsCycle cycles e,
        o.edgeStyle (RuleGraph.joinsCycle cycles e)⟩ := by
  unfold edge?
  split
  · next p q hp hq =>
    rw [hp, hq]
    cases s.graph.originOf e with
    | error missing => simp [Bind.bind, Except.bind]
    | ok o => simp [Bind.bind, Except.bind, Pure.pure, Except.pure, @eq_comm _ a]
  · next hskip =>
    constructor
    · nofun
    · rintro ⟨p, q, -, hp, hq, -⟩
      exact (hskip p q hp hq).elim

/-- A caption says of its band what the band is. -/
theorem layer?_eq_some (h : s.layer? l = some y) :
    y.key = l.key ∧ y.group = l.group ∧ y.displayName = s.displayName l ∧
      y.color = s.colorOf l.group := by
  simp only [layer?, Option.bind_eq_bind, Option.bind_eq_some_iff, Option.pure_def,
    Option.some.injEq] at h
  obtain ⟨label, -, rfl⟩ := h
  exact ⟨rfl, rfl, rfl, rfl⟩

theorem isSome_layer?_iff : (s.layer? l).isSome ↔ (s.pyramid.label? l.key).isSome := by
  cases h : s.pyramid.label? l.key <;> simp [layer?, h]

/-- If no edge fails, the arrows are those that the edges have. -/
theorem edges?_eq (h : ∀ e ∈ s.graph.edges, ∃ a, s.edge? cycles e = .ok a) :
    s.edges? cycles =
      .ok (s.graph.edges.filterMap fun e => (s.edge? cycles e).toOption.join) := by
  have hmap : ∀ es : List Edge, (∀ e ∈ es, ∃ a, s.edge? cycles e = .ok a) →
      es.mapM (s.edge? cycles) = .ok (es.map fun e => (s.edge? cycles e).toOption.join) := by
    intro es hes
    induction es with
    | nil => rfl
    | cons e es ih =>
      obtain ⟨a, ha⟩ := hes e List.mem_cons_self
      rw [List.mapM_cons, ha, ih fun e he => hes e (List.mem_cons_of_mem _ he), List.map_cons, ha]
      rfl
  rw [edges?, hmap _ h]
  exact congrArg Except.ok List.filterMap_map

theorem edges_eq (h : ∀ e ∈ s.graph.edges, ∃ a, s.edge? cycles e = .ok a) :
    s.edges cycles = s.graph.edges.filterMap fun e => (s.edge? cycles e).toOption.join := by
  rw [edges, edges?_eq h]
  rfl

end Scene

/-! ## Views of graphs -/

namespace RuleGraph

/-- What the view of a graph is made of. -/
def scene (g : RuleGraph) (catalog : Catalog) (config : LayoutConfig α) : Scene α :=
  ⟨g, config.pyramid g.nodes.toList (.ofGroups catalog.groups), catalog, config⟩

variable {g : RuleGraph} {catalog : Catalog} {config : LayoutConfig α} {n : Node} {e : Edge}

theorem exists_position? (hn : n ∈ g.nodes.toList) (catalog : Catalog) (config : LayoutConfig α) :
    ∃ p, (g.scene catalog config).pyramid.position? n.id = some p :=
  Option.isSome_iff_exists.mp (LayoutConfig.isSome_position?_iff.mpr ⟨n, hn, rfl⟩)

theorem nodes_view (g : RuleGraph) (catalog : Catalog) (config : LayoutConfig α) :
    (g.view catalog config).nodes =
      ((LayoutConfig.partition g.nodes.toList (.ofGroups catalog.groups)).flatMap (·.2)).filterMap
        (g.scene catalog config).node? := by
  rw [← LayoutConfig.flatMap_rows config]
  rfl

/-- The boxes are those of the nodes. -/
theorem mem_nodes_view {x : ViewNode α} :
    x ∈ (g.view catalog config).nodes ↔
      ∃ n ∈ g.nodes.toList, (g.scene catalog config).node? n.id = some x := by
  rw [nodes_view, List.mem_filterMap]
  simp only [LayoutConfig.mem_flatMap_partition]
  constructor
  · rintro ⟨_, ⟨n, hn, rfl⟩, hx⟩
    exact ⟨n, hn, hx⟩
  · rintro ⟨n, hn, hx⟩
    exact ⟨n.id, ⟨n, hn, rfl⟩, hx⟩

/-- Every band has a caption. -/
theorem exists_layer? {l : Layer α} (h : l ∈ (g.scene catalog config).pyramid.layers) :
    ∃ y, (g.scene catalog config).layer? l = some y := by
  rw [← Option.isSome_iff_exists, Scene.isSome_layer?_iff, Option.isSome_iff_exists]
  exact LayoutConfig.exists_label? h

/-- The captions are those of the bands, in the same order. -/
theorem map_key_layers_view (g : RuleGraph) (catalog : Catalog) (config : LayoutConfig α) :
    (g.view catalog config).layers.map (·.key) =
      (LayoutConfig.partition g.nodes.toList (.ofGroups catalog.groups)).map (·.1) := by
  rw [← LayoutConfig.map_key_layers config]
  refine map_filterMap_of_forall Layer.key fun l hl => ?_
  obtain ⟨y, hy⟩ := exists_layer? hl
  exact ⟨y, hy, (Scene.layer?_eq_some hy).1⟩

namespace WellFormed

/-- Every node has a box. -/
theorem exists_node? (H : g.WellFormed) (hn : n ∈ g.nodes.toList) (catalog : Catalog)
    (config : LayoutConfig α) :
    ∃ x, (g.scene catalog config).node? n.id = some x := by
  obtain ⟨p, hp⟩ := exists_position? hn catalog config
  exact ⟨_, Scene.node?_eq_some_iff.mpr ⟨n, p, H.get?_eq_some_iff.mpr ⟨hn, rfl⟩, hp, rfl⟩⟩

/-- A box says what its node says. -/
theorem get?_of_mem_nodes_view (H : g.WellFormed) {x : ViewNode α}
    (hx : x ∈ (g.view catalog config).nodes) :
    ∃ n, g.get? x.id = some n ∧ x.group = n.group ∧ x.dependencies = n.dependencyIds ∧
      (g.scene catalog config).pyramid.position? x.id = some x.position := by
  obtain ⟨m, hm, hx⟩ := mem_nodes_view.mp hx
  obtain ⟨n, p, hn, hp, rfl⟩ := Scene.node?_eq_some_iff.mp hx
  obtain ⟨-, hid⟩ := H.get?_eq_some_iff.mp hn
  rw [← hid] at hn hp
  exact ⟨n, hn, rfl, rfl, hp⟩

theorem exists_mem_nodes_view (H : g.WellFormed) {id : String} :
    (∃ x ∈ (g.view catalog config).nodes, x.id = id) ↔ g.contains id := by
  rw [H.contains_iff]
  constructor
  · rintro ⟨x, hx, rfl⟩
    obtain ⟨n, hn, -⟩ := H.get?_of_mem_nodes_view hx
    exact ⟨n, H.get?_eq_some_iff.mp hn⟩
  · rintro ⟨n, hn, rfl⟩
    obtain ⟨x, hx⟩ := H.exists_node? hn catalog config
    obtain ⟨m, p, hm, -, rfl⟩ := Scene.node?_eq_some_iff.mp hx
    exact ⟨_, mem_nodes_view.mpr ⟨n, hn, hx⟩, (H.get?_eq_some_iff.mp hm).2⟩

theorem ascending_nodes_view (H : g.WellFormed) :
    Ascending (fun x : ViewNode α => (Ranking.ofGroups catalog.groups).place x.group x.id)
      (g.view catalog config).nodes := by
  rw [Ascending, nodes_view, List.pairwise_filterMap]
  refine (LayoutConfig.pairwise_flatMap_partition H.nodup_ids).imp ?_
  intro a b hlt x hx y hy
  obtain ⟨n, p, hn, -, rfl⟩ := Scene.node?_eq_some_iff.mp hx
  obtain ⟨m, q, hm, -, rfl⟩ := Scene.node?_eq_some_iff.mp hy
  obtain ⟨hnmem, hnid⟩ := H.get?_eq_some_iff.mp hn
  obtain ⟨hmmem, hmid⟩ := H.get?_eq_some_iff.mp hm
  simpa only [hnid, hmid] using hlt n hnmem m hmmem hnid hmid

theorem nodup_ids_view (H : g.WellFormed) :
    ((g.view catalog config).nodes.map (·.id)).Nodup := by
  rw [List.Nodup, List.pairwise_map]
  refine H.ascending_nodes_view.imp_of_mem ?_
  intro x y hx hy hlt hid
  obtain ⟨n, hn, hgroup, -⟩ := H.get?_of_mem_nodes_view hx
  obtain ⟨m, hm, hgroup', -⟩ := H.get?_of_mem_nodes_view hy
  rw [hid, hm] at hn
  cases hn
  simp only [hgroup, hgroup', hid, lt_self_iff_false] at hlt

/-- Every edge has an arrow. -/
theorem exists_edge? (H : g.WellFormed) (he : e ∈ g.edges) (catalog : Catalog)
    (config : LayoutConfig α) (cycles : List (List String)) :
    ∃ a, (g.scene catalog config).edge? cycles e = .ok (some a) := by
  obtain ⟨n, o, hn, ho, -⟩ := H.exists_originOf he
  obtain ⟨hmem, htarget⟩ := H.get?_eq_some_iff.mp hn
  obtain ⟨m, hm, hsource⟩ := H.contains_iff.mp (H.contains_of_mem_edges he).1
  obtain ⟨p, hp⟩ := exists_position? hm catalog config
  obtain ⟨q, hq⟩ := exists_position? hmem catalog config
  rw [hsource] at hp
  rw [htarget] at hq
  exact ⟨_, Scene.edge?_eq_ok_some_iff.mpr ⟨p, q, o, hp, hq, ho, rfl⟩⟩

theorem edges_view (H : g.WellFormed) :
    (g.view catalog config).edges = g.edges.filterMap fun e =>
      ((g.scene catalog config).edge? g.cycles e).toOption.join :=
  Scene.edges_eq fun _ he => by
    obtain ⟨a, ha⟩ := H.exists_edge? he catalog config g.cycles
    exact ⟨some a, ha⟩

theorem mem_edges_view (H : g.WellFormed) {a : ViewEdge α} :
    a ∈ (g.view catalog config).edges ↔
      ∃ e ∈ g.edges, (g.scene catalog config).edge? g.cycles e = .ok (some a) := by
  rw [H.edges_view, List.mem_filterMap]
  refine exists_congr fun e => and_congr_right fun he => ?_
  obtain ⟨a', ha'⟩ := H.exists_edge? he catalog config g.cycles
  simp [ha', Except.toOption]

/-- The arrows are those of the edges, in the same order. -/
theorem map_edges_view (H : g.WellFormed) (catalog : Catalog) (config : LayoutConfig α) :
    (g.view catalog config).edges.map (fun a => ⟨a.source, a.target⟩) = g.edges := by
  rw [H.edges_view, map_filterMap_of_forall id fun e he => ?_, List.map_id]
  obtain ⟨a, ha⟩ := H.exists_edge? he catalog config g.cycles
  obtain ⟨p, q, o, -, -, -, heq⟩ := Scene.edge?_eq_ok_some_iff.mp ha
  refine ⟨a, by rw [ha]; rfl, ?_⟩
  rw [heq, id]

theorem origin_of_mem_edges_view (H : g.WellFormed) {a : ViewEdge α}
    (ha : a ∈ (g.view catalog config).edges) :
    ∃ n, g.get? a.target = some n ∧ ⟨a.source, a.origin⟩ ∈ n.dependencies := by
  obtain ⟨e, he, ha⟩ := H.mem_edges_view.mp ha
  obtain ⟨n, o, hn, ho, hmem⟩ := H.exists_originOf he
  obtain ⟨p, q, o', -, -, ho', rfl⟩ := Scene.edge?_eq_ok_some_iff.mp ha
  cases ho.symm.trans ho'
  exact ⟨n, hn, hmem⟩

/-- The position of the box for an id is the one that the pyramid has for it. -/
theorem exists_mem_nodes_view_position (H : g.WellFormed) {id : String} {p : Point α}
    (hid : g.contains id) (hp : (g.scene catalog config).pyramid.position? id = some p) :
    ∃ x ∈ (g.view catalog config).nodes, x.id = id ∧ x.position = p := by
  obtain ⟨x, hx, rfl⟩ : ∃ x ∈ (g.view catalog config).nodes, x.id = id :=
    H.exists_mem_nodes_view.mpr hid
  obtain ⟨-, -, -, -, hpos⟩ := H.get?_of_mem_nodes_view hx
  exact ⟨x, hx, rfl, Option.some.inj (hpos.symm.trans hp)⟩

theorem ends_of_mem_edges_view (H : g.WellFormed) {a : ViewEdge α}
    (ha : a ∈ (g.view catalog config).edges) :
    ∃ x ∈ (g.view catalog config).nodes, ∃ y ∈ (g.view catalog config).nodes,
      x.id = a.source ∧ y.id = a.target ∧
        a.start = ⟨x.position.x, x.position.y + Scalar.half config.nodeHeight⟩ ∧
        a.stop = ⟨y.position.x, y.position.y - Scalar.half config.nodeHeight⟩ := by
  obtain ⟨e, he, ha⟩ := H.mem_edges_view.mp ha
  obtain ⟨p, q, o, hp, hq, -, rfl⟩ := Scene.edge?_eq_ok_some_iff.mp ha
  obtain ⟨hsource, htarget⟩ := H.contains_of_mem_edges he
  obtain ⟨x, hx, hxid, rfl⟩ := H.exists_mem_nodes_view_position hsource hp
  obtain ⟨y, hy, hyid, rfl⟩ := H.exists_mem_nodes_view_position htarget hq
  exact ⟨x, hx, y, hy, hxid, hyid, rfl, rfl⟩

theorem mem_layers_view (H : g.WellFormed) {key : LayerKey} :
    (∃ l ∈ (g.view catalog config).layers, l.key = key) ↔
      ∃ x ∈ (g.view catalog config).nodes,
        (Ranking.ofGroups catalog.groups).layerKey x.group = key := by
  rw [← List.mem_map, map_key_layers_view, LayoutConfig.mem_keys_partition]
  constructor
  · rintro ⟨n, hn, rfl⟩
    obtain ⟨x, hx⟩ := H.exists_node? hn catalog config
    have hmem := mem_nodes_view.mpr ⟨n, hn, hx⟩
    obtain ⟨m, p, hm, -, rfl⟩ := Scene.node?_eq_some_iff.mp hx
    obtain ⟨hm, hid⟩ := H.get?_eq_some_iff.mp hm
    rw [H.eq_of_id_eq hm hn hid] at hmem
    exact ⟨_, hmem, rfl⟩
  · rintro ⟨x, hx, rfl⟩
    obtain ⟨n, hn, hgroup, -⟩ := H.get?_of_mem_nodes_view hx
    exact ⟨n, (H.get?_eq_some_iff.mp hn).1, by rw [hgroup]⟩

end WellFormed
end RuleGraph

/-! ## Views of rules -/

/-- A view shows some rules, with the bands that a catalog gives. -/
structure View.Draws (v : View α) (rules : List Rule) (catalog : Catalog)
    (config : LayoutConfig α) : Prop where
  /-- There is a box for each target. -/
  mem_nodes : ∀ t, (∃ x ∈ v.nodes, x.id = t) ↔ t ∈ rules.map (·.target)
  nodes_nodup : (v.nodes.map (·.id)).Nodup
  /-- The boxes are listed by band and id; the last band is the catch-all's. -/
  nodes_ascending :
    Ascending (fun x => (Ranking.ofGroups catalog.groups).place x.group x.id) v.nodes
  node_eq : ∀ x ∈ v.nodes, ∃ n, (RuleGraph.ofRules rules).get? x.id = some n ∧
    x.group = n.group ∧ x.dependencies = n.dependencyIds
  /-- There is an arrow for each dependency. -/
  mem_edges : ∀ d t, (∃ a ∈ v.edges, a.source = d ∧ a.target = t) ↔
    ∃ n, (RuleGraph.ofRules rules).get? t = some n ∧ d ∈ n.dependencyIds
  /-- No two arrows are alike, and they are listed by source and target. -/
  edges_ascending : Ascending (fun a => toLex (a.source, a.target)) v.edges
  origin_eq : ∀ a ∈ v.edges, ∃ n, (RuleGraph.ofRules rules).get? a.target = some n ∧
    ⟨a.source, a.origin⟩ ∈ n.dependencies
  /-- An arrow leads from the bottom of one box to the top of another one. -/
  ends_eq : ∀ a ∈ v.edges, ∃ x ∈ v.nodes, ∃ y ∈ v.nodes, x.id = a.source ∧ y.id = a.target ∧
    a.start = ⟨x.position.x, x.position.y + Scalar.half config.nodeHeight⟩ ∧
    a.stop = ⟨y.position.x, y.position.y - Scalar.half config.nodeHeight⟩
  /-- There is a caption for each band that has a box. -/
  mem_layers : ∀ key, (∃ l ∈ v.layers, l.key = key) ↔
    ∃ x ∈ v.nodes, (Ranking.ofGroups catalog.groups).layerKey x.group = key
  /-- No two captions are for one band, and they are listed from the lowest band on. -/
  layers_ascending : Ascending (fun l => l.key.height) v.layers

/-- **The view of some rules loses nothing and invents nothing.** -/
theorem draws_componentsGraph (rules : List Rule) (catalog : Catalog) (config : LayoutConfig α) :
    (componentsGraph rules catalog config).Draws rules catalog config where
  mem_nodes t := by
    rw [componentsGraph, (RuleGraph.WellFormed.ofRules rules).exists_mem_nodes_view,
      RuleGraph.contains_ofRules]
  nodes_nodup := (RuleGraph.WellFormed.ofRules rules).nodup_ids_view
  nodes_ascending := (RuleGraph.WellFormed.ofRules rules).ascending_nodes_view
  node_eq x hx := by
    obtain ⟨n, hn, hgroup, hdeps, -⟩ :=
      (RuleGraph.WellFormed.ofRules rules).get?_of_mem_nodes_view hx
    exact ⟨n, hn, hgroup, hdeps⟩
  mem_edges d t := by
    have hmap := (RuleGraph.WellFormed.ofRules rules).map_edges_view catalog config
    rw [← RuleGraph.mem_edges_ofRules (e := ⟨d, t⟩), ← hmap, List.mem_map]
    simp only [Edge.mk.injEq, componentsGraph]
  edges_ascending := by
    have hasc := RuleGraph.ascending_edges_ofRules rules
    rw [← (RuleGraph.WellFormed.ofRules rules).map_edges_view catalog config, Ascending,
      List.pairwise_map] at hasc
    exact hasc
  origin_eq _ ha := (RuleGraph.WellFormed.ofRules rules).origin_of_mem_edges_view ha
  ends_eq _ ha := (RuleGraph.WellFormed.ofRules rules).ends_of_mem_edges_view ha
  mem_layers _ := (RuleGraph.WellFormed.ofRules rules).mem_layers_view
  layers_ascending := by
    have hasc := LayoutConfig.ascending_keys_partition (RuleGraph.ofRules rules).nodes.toList
      (.ofGroups catalog.groups)
    rwa [← RuleGraph.map_key_layers_view _ _ config, Ascending, List.pairwise_map] at hasc

end RulePyramid
