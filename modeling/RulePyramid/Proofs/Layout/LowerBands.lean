import RulePyramid.Proofs.Layout.Arrangement

/-!
What stands below the rest of a pyramid. Bands are stacked from the lowest one on, and what a band
takes is known before the next one is placed, so the bands up to a key are stacked as if there were
no others (`stack_filter`). The lower part of a pyramid is therefore the pyramid of the lower nodes
(`layers_upTo`, `labels_upTo`, `position?_upTo`), whatever stands above them
(`agreesUpTo_pyramid`).
-/

namespace RulePyramid

/-- The nodes of the bands up to a key. -/
def Ranking.upTo (r : Ranking) (key : LayerKey) (nodes : List Node) : List Node :=
  nodes.filter fun n => (r.layerKey n.group).le key

/-- Two pyramids of some nodes are the same in the bands up to a key. -/
structure Pyramid.AgreesUpTo {α : Type} (p p' : Pyramid α) (nodes : List Node) (ranking : Ranking)
    (key : LayerKey) : Prop where
  layers_eq : p.layers.filter (·.key.le key) = p'.layers.filter (·.key.le key)
  labels_eq : p.labels.filter (·.key.le key) = p'.labels.filter (·.key.le key)
  position_eq : ∀ n ∈ nodes, (ranking.layerKey n.group).le key →
    p.position? n.id = p'.position? n.id

theorem LayerKey.le_iff {key key' : LayerKey} : key.le key' ↔ key.height ≤ key'.height :=
  sortsBy_layerKeys.le_iff key key'

theorem Ranking.mem_upTo {r : Ranking} {key : LayerKey} {nodes : List Node} {n : Node} :
    n ∈ r.upTo key nodes ↔ n ∈ nodes ∧ (r.layerKey n.group).le key :=
  List.mem_filter

namespace LayoutConfig

variable {nodes nodes' : List Node} {ranking : Ranking} {key key' : LayerKey} {n : Node}

/-! ## Bands -/

theorem idsOf_upTo (h : key'.le key) :
    idsOf (ranking.upTo key nodes) ranking key' = idsOf nodes ranking key' := by
  rw [idsOf, idsOf, Ranking.upTo, List.filter_filter]
  congr 2
  refine List.filter_congr fun n _ => ?_
  by_cases hkey : ranking.layerKey n.group = key'
  · simp [hkey, h]
  · simp [hkey]

theorem keys_partition_upTo (nodes : List Node) (ranking : Ranking) (key : LayerKey) :
    ((partition nodes ranking).map (·.1)).filter (·.le key) =
      (partition (ranking.upTo key nodes) ranking).map (·.1) := by
  have hasc : Ascending LayerKey.height
      (((partition nodes ranking).map (·.1)).filter (·.le key)) :=
    (ascending_keys_partition nodes ranking).sublist List.filter_sublist
  refine hasc.ext (ascending_keys_partition _ _) fun key' => ?_
  rw [List.mem_filter, mem_keys_partition, mem_keys_partition]
  constructor
  · rintro ⟨⟨n, hn, rfl⟩, hle⟩
    exact ⟨n, Ranking.mem_upTo.mpr ⟨hn, hle⟩, rfl⟩
  · rintro ⟨n, hn, rfl⟩
    obtain ⟨hn, hle⟩ := Ranking.mem_upTo.mp hn
    exact ⟨⟨n, hn, rfl⟩, hle⟩

/-- The bands up to a key are those of the nodes up to it. -/
theorem partition_upTo (nodes : List Node) (ranking : Ranking) (key : LayerKey) :
    (partition nodes ranking).filter (·.1.le key) =
      partition (ranking.upTo key nodes) ranking := by
  have hkeys := keys_partition_upTo nodes ranking key
  rw [map_fst_partition, map_fst_partition] at hkeys
  rw [partition_eq, partition_eq, ← hkeys, List.filter_map]
  refine List.map_congr_left fun key' hkey' => ?_
  rw [idsOf_upTo (List.mem_filter.mp hkey').2]

variable {α : Type} [Scalar α] (c : LayoutConfig α)

/-- Bands are stacked as if there were none above them. -/
theorem stack_filter (ranking : Ranking) (offset : α) {bands : List (LayerKey × List String)}
    (h : Ascending (fun band => band.1.height) bands) (key : LayerKey) :
    (c.stack ranking offset bands).filter (·.key.le key) =
      c.stack ranking offset (bands.filter (·.1.le key)) := by
  induction bands generalizing offset with
  | nil => rfl
  | cons band bands ih =>
    obtain ⟨key', ids⟩ := band
    obtain ⟨habove, hrest⟩ := List.pairwise_cons.mp h
    rw [stack, List.filter_cons, List.filter_cons]
    by_cases hle : key'.le key
    · rw [if_pos hle, if_pos hle, stack, ih _ hrest]
    · -- The bands that follow are higher still, so the key is below all that is left.
      have hnone : bands.filter (·.1.le key) = [] := by
        refine List.filter_eq_nil_iff.mpr fun band hband hband_le => hle ?_
        rw [LayerKey.le_iff] at hband_le ⊢
        exact (habove band hband).le.trans hband_le
      rw [if_neg hle, if_neg hle, ih _ hrest, hnone, stack, stack]

/-! ## The pyramid -/

theorem layers_upTo (nodes : List Node) (ranking : Ranking) (key : LayerKey) :
    (c.pyramid nodes ranking).layers.filter (·.key.le key) =
      (c.pyramid (ranking.upTo key nodes) ranking).layers := by
  have hasc := ascending_keys_partition nodes ranking
  rw [Ascending, List.pairwise_map] at hasc
  exact (c.stack_filter ranking _ hasc key).trans (by rw [partition_upTo]; rfl)

theorem filter_labelOf? (ls : List (Layer α)) (key : LayerKey) :
    (ls.filterMap c.labelOf?).filter (·.key.le key) =
      (ls.filter (·.key.le key)).filterMap c.labelOf? := by
  rw [List.filter_filterMap, List.filterMap_filter]
  refine List.filterMap_congr fun l _ => ?_
  cases hlabel : c.labelOf? l with
  | none => simp
  | some label =>
    rw [Option.filter_some, (labelOf?_eq_some_iff.mp hlabel).1]

theorem labels_upTo (nodes : List Node) (ranking : Ranking) (key : LayerKey) :
    (c.pyramid nodes ranking).labels.filter (·.key.le key) =
      (c.pyramid (ranking.upTo key nodes) ranking).labels :=
  (c.filter_labelOf? _ key).trans (congrArg _ (c.layers_upTo nodes ranking key))

theorem nodup_ids_upTo (h : (nodes.map (·.id)).Nodup) (ranking : Ranking) (key : LayerKey) :
    ((ranking.upTo key nodes).map (·.id)).Nodup :=
  h.sublist (List.filter_sublist.map _)

/-- A node up to a key is where it is without the nodes above. -/
theorem position?_upTo (h : (nodes.map (·.id)).Nodup) (hn : n ∈ nodes)
    (hkey : (ranking.layerKey n.group).le key) :
    (c.pyramid nodes ranking).position? n.id =
      (c.pyramid (ranking.upTo key nodes) ranking).position? n.id := by
  obtain ⟨l, hl, hlkey, hid⟩ := exists_layer_of_mem hn ranking c
  have hl' : l ∈ (c.pyramid (ranking.upTo key nodes) ranking).layers := by
    rw [← layers_upTo]
    exact List.mem_filter.mpr ⟨hl, hlkey ▸ hkey⟩
  rw [← map_fst_places c, List.mem_map] at hid
  obtain ⟨⟨id, p⟩, hp, rfl : id = n.id⟩ := hid
  rw [position?_eq_some_of_mem_places h hl hp,
    position?_eq_some_of_mem_places (nodup_ids_upTo h ranking key) hl' hp]

/-- **The bands up to a key do not depend on what is above them.** -/
theorem agreesUpTo_pyramid (hids : (nodes.map (·.id)).Nodup) (hids' : (nodes'.map (·.id)).Nodup)
    (hlower : (ranking.upTo key nodes).Perm (ranking.upTo key nodes')) :
    (c.pyramid nodes ranking).AgreesUpTo (c.pyramid nodes' ranking) nodes ranking key := by
  -- Both are compared with the pyramid of the nodes that they share.
  have hpyramid : c.pyramid (ranking.upTo key nodes) ranking =
      c.pyramid (ranking.upTo key nodes') ranking := by
    rw [pyramid, pyramid, partition_congr hlower]
  refine ⟨?_, ?_, fun n hn hkey => ?_⟩
  · rw [layers_upTo, layers_upTo, hpyramid]
  · rw [labels_upTo, labels_upTo, hpyramid]
  · obtain ⟨hn', -⟩ := Ranking.mem_upTo.mp (hlower.mem_iff.mp (Ranking.mem_upTo.mpr ⟨hn, hkey⟩))
    rw [position?_upTo c hids hn hkey, position?_upTo c hids' hn' hkey, hpyramid]

/-- Other nodes in a higher band and in the one for all other nodes make no difference. -/
theorem agreesUpTo_pyramid_of_others_above :
    let nodes : List Node := [⟨"Net", "core", []⟩, ⟨"Gross", "core", []⟩, ⟨"Premium", "bonus", []⟩]
    let nodes' : List Node := [⟨"Note", "misc", []⟩, ⟨"Gross", "core", []⟩, ⟨"Sum", "total", []⟩,
      ⟨"Net", "core", []⟩]
    let ranking : Ranking := ⟨["core", "bonus", "total"]⟩
    let c : LayoutConfig Single := .default
    (nodes.map (·.id)).Nodup ∧ (nodes'.map (·.id)).Nodup ∧
      (ranking.upTo (.ranked 1) nodes).Perm (ranking.upTo (.ranked 1) nodes') ∧
      (c.pyramid nodes ranking).AgreesUpTo (c.pyramid nodes' ranking) nodes ranking
        (.ranked 1) := by
  intro nodes nodes' ranking c
  have hids : (nodes.map (·.id)).Nodup := by decide
  have hids' : (nodes'.map (·.id)).Nodup := by decide
  have hlower : (ranking.upTo (.ranked 1) nodes).Perm (ranking.upTo (.ranked 1) nodes') := by decide
  exact ⟨hids, hids', hlower, agreesUpTo_pyramid c hids hids' hlower⟩

end LayoutConfig
end RulePyramid
