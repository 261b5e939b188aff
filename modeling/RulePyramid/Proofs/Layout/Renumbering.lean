import RulePyramid.Proofs.Layout.Arrangement

/-!
What the geometry of a pyramid depends on. Of a node it is the id and the group
(`partition_congr_membership`); of a ranking it is which of the groups in use have a rank and how
these are ordered (`Ranking.SameOrder`). Between two such rankings the ranks are renumbered in
order, and of the pyramid nothing but these numbers changes (`pyramid_renumber`).
-/

namespace RulePyramid

/-! ## Other numbers for the same bands -/

section
variable {α : Type} (f : Nat → Nat)

/-- The key with another rank. -/
def LayerKey.renumber : LayerKey → LayerKey
  | .ranked ordinal => .ranked (f ordinal)
  | .ungrouped => .ungrouped

def Layer.renumber (l : Layer α) : Layer α := { l with key := l.key.renumber f }

def LayerLabel.renumber (label : LayerLabel α) : LayerLabel α :=
  { label with key := label.key.renumber f }

/-- The pyramid with other ranks in the keys of its bands and captions, and all else as it is. -/
def Pyramid.renumber (p : Pyramid α) : Pyramid α :=
  { p with layers := p.layers.map (·.renumber f), labels := p.labels.map (·.renumber f) }

end

/-! ## Rankings with the same order -/

namespace Ranking

/-- Two rankings rank the same ones of some groups and order these in the same way. -/
structure SameOrder (groups : List String) (r r' : Ranking) : Prop where
  isSome_iff : ∀ g ∈ groups, (r.ordinal? g).isSome ↔ (r'.ordinal? g).isSome
  lt_iff : ∀ g ∈ groups, ∀ h ∈ groups, ∀ i j i' j', r.ordinal? g = some i → r.ordinal? h = some j →
    r'.ordinal? g = some i' → r'.ordinal? h = some j' → (i < j ↔ i' < j')

/-- The rank that `r'` gives to the group with a rank in `r`. -/
def renumbering (r r' : Ranking) (ordinal : Nat) : Nat :=
  (r'.ordinal? (r.layerGroup (.ranked ordinal))).getD ordinal

namespace SameOrder

variable {groups : List String} {r r' : Ranking} {g h : String}

/-- Either both rankings leave a group out or both have a rank for it. -/
theorem ordinal?_cases (H : SameOrder groups r r') (hg : g ∈ groups) :
    (r.ordinal? g = none ∧ r'.ordinal? g = none) ∨
      ∃ i i', r.ordinal? g = some i ∧ r'.ordinal? g = some i' := by
  have hiff := H.isSome_iff g hg
  cases hr : r.ordinal? g <;> cases hr' : r'.ordinal? g <;> simp [hr, hr'] at hiff ⊢

theorem layerKey_renumber (H : SameOrder groups r r') (hg : g ∈ groups) :
    (r.layerKey g).renumber (r.renumbering r') = r'.layerKey g := by
  rcases H.ordinal?_cases hg with ⟨hr, hr'⟩ | ⟨i, i', hr, hr'⟩
  · rw [layerKey, layerKey, hr, hr']
    rfl
  · have hi : r.renumbering r' i = i' := by
      rw [renumbering, layerGroup_of_ordinal?_eq_some hr, hr', Option.getD_some]
    rw [layerKey, layerKey, hr, hr']
    exact congrArg LayerKey.ranked hi

/-- The name of a band does not change with its number. -/
theorem layerGroup_renumber (H : SameOrder groups r r') (hg : g ∈ groups) :
    r'.layerGroup ((r.layerKey g).renumber (r.renumbering r')) = r.layerGroup (r.layerKey g) := by
  rw [H.layerKey_renumber hg]
  rcases H.ordinal?_cases hg with ⟨hr, hr'⟩ | ⟨i, i', hr, hr'⟩
  · rw [layerKey, layerKey, hr, hr']
    rfl
  · rw [layerKey, layerKey, hr, hr']
    exact (layerGroup_of_ordinal?_eq_some hr').trans (layerGroup_of_ordinal?_eq_some hr).symm

/-- Bands are stacked in the same order. -/
theorem height_lt_iff (H : SameOrder groups r r') (hg : g ∈ groups) (hh : h ∈ groups) :
    (r.layerKey g).height < (r.layerKey h).height ↔
      (r'.layerKey g).height < (r'.layerKey h).height := by
  rcases H.ordinal?_cases hg with ⟨hr, hr'⟩ | ⟨i, i', hr, hr'⟩ <;>
    rcases H.ordinal?_cases hh with ⟨hs, hs'⟩ | ⟨j, j', hs, hs'⟩ <;>
    simp only [layerKey, hr, hr', hs, hs', Option.elim_none, Option.elim_some, LayerKey.height,
      lt_self_iff_false, not_top_lt, WithTop.coe_lt_top]
  exact WithTop.coe_lt_coe.trans ((H.lt_iff g hg h hh i j i' j' hr hs hr' hs').trans
    WithTop.coe_lt_coe.symm)

/-- No two bands become one. -/
theorem layerKey_eq_layerKey_iff (H : SameOrder groups r r') (hg : g ∈ groups) (hh : h ∈ groups) :
    r'.layerKey g = r'.layerKey h ↔ r.layerKey g = r.layerKey h := by
  rw [← sortsBy_layerKeys.injective.eq_iff, ← sortsBy_layerKeys.injective.eq_iff (a := r.layerKey g),
    eq_iff_le_not_lt, eq_iff_le_not_lt, ← not_lt, ← not_lt, H.height_lt_iff hg hh,
    H.height_lt_iff hh hg]

end SameOrder
end Ranking

/-! ## Nodes -/

/-- What the layout reads of a node. -/
def Node.membership (n : Node) : String × String := (n.id, n.group)

namespace LayoutConfig

variable {nodes nodes' : List Node} {r r' : Ranking}

/-- The node without its dependencies. -/
private def bare (n : Node) : Node := { n with dependencies := [] }

private theorem partition_map_bare (nodes : List Node) (r : Ranking) :
    partition (nodes.map bare) r = partition nodes r := by
  simp only [partition, List.map_map]
  rfl

/-- The bands tell neither in which order the nodes came nor what they depend on. -/
theorem partition_congr_membership (hids : (nodes.map (·.id)).Nodup)
    (hids' : (nodes'.map (·.id)).Nodup)
    (h : ∀ m, m ∈ nodes.map Node.membership ↔ m ∈ nodes'.map Node.membership) :
    partition nodes r = partition nodes' r := by
  have hbare : ∀ ns : List Node, ns.map bare =
      (ns.map Node.membership).map fun m => ⟨m.1, m.2, []⟩ := fun ns => by
    rw [List.map_map]
    rfl
  have hnodup : ∀ {ns : List Node}, (ns.map (·.id)).Nodup → (ns.map Node.membership).Nodup :=
    fun hns => by
      refine List.Nodup.of_map Prod.fst ?_
      rwa [List.map_map]
  have hperm := (List.perm_ext_iff_of_nodup (hnodup hids) (hnodup hids')).mpr h
  rw [← partition_map_bare, ← partition_map_bare nodes', hbare, hbare]
  exact partition_congr (hperm.map _)

/-! ## Bands -/

theorem idsOf_renumber (H : Ranking.SameOrder (nodes.map (·.group)) r r') {g : String}
    (hg : g ∈ nodes.map (·.group)) :
    idsOf nodes r' ((r.layerKey g).renumber (r.renumbering r')) = idsOf nodes r (r.layerKey g) := by
  rw [H.layerKey_renumber hg, idsOf, idsOf]
  congr 2
  refine List.filter_congr fun n hn => ?_
  rw [decide_eq_decide, H.layerKey_eq_layerKey_iff (List.mem_map_of_mem hn) hg]

theorem keys_partition_renumber (H : Ranking.SameOrder (nodes.map (·.group)) r r') :
    ((partition nodes r).map (·.1)).map (·.renumber (r.renumbering r')) =
      (partition nodes r').map (·.1) := by
  have hkey : ∀ {key}, key ∈ (partition nodes r).map (·.1) →
      ∃ g ∈ nodes.map (·.group), r.layerKey g = key := fun hkey => by
    obtain ⟨n, hn, rfl⟩ := mem_keys_partition.mp hkey
    exact ⟨n.group, List.mem_map_of_mem hn, rfl⟩
  have hasc : Ascending LayerKey.height
      (((partition nodes r).map (·.1)).map (·.renumber (r.renumbering r'))) := by
    refine List.pairwise_map.mpr ((ascending_keys_partition nodes r).imp_of_mem ?_)
    intro a b ha hb hlt
    obtain ⟨g, hg, rfl⟩ := hkey ha
    obtain ⟨g', hg', rfl⟩ := hkey hb
    rw [H.layerKey_renumber hg, H.layerKey_renumber hg']
    exact (H.height_lt_iff hg hg').mp hlt
  refine hasc.ext (ascending_keys_partition nodes r') fun key => ?_
  rw [mem_keys_partition, List.mem_map]
  constructor
  · rintro ⟨_, ha, rfl⟩
    obtain ⟨n, hn, rfl⟩ := mem_keys_partition.mp ha
    exact ⟨n, hn, (H.layerKey_renumber (List.mem_map_of_mem hn)).symm⟩
  · rintro ⟨n, hn, rfl⟩
    exact ⟨_, mem_keys_partition.mpr ⟨n, hn, rfl⟩, H.layerKey_renumber (List.mem_map_of_mem hn)⟩

/-- Renumbered ranks leave the bands in their order, with their ids. -/
theorem partition_renumber (H : Ranking.SameOrder (nodes.map (·.group)) r r') :
    partition nodes r' =
      (partition nodes r).map fun band => (band.1.renumber (r.renumbering r'), band.2) := by
  have hkeys := keys_partition_renumber H
  rw [map_fst_partition, map_fst_partition] at hkeys
  rw [partition_eq, ← hkeys, partition_eq, List.map_map, List.map_map]
  refine List.map_congr_left fun key hkey => ?_
  rw [← map_fst_partition, mem_keys_partition] at hkey
  obtain ⟨n, hn, rfl⟩ := hkey
  exact congrArg (Prod.mk _) (idsOf_renumber H (List.mem_map_of_mem hn))

/-! ## The pyramid -/

variable {α : Type} [Scalar α] (c : LayoutConfig α) {f : Nat → Nat}

/-- Bands of the same names are stacked alike, whatever their numbers. -/
theorem stack_renumber (offset : α) {bands : List (LayerKey × List String)}
    (h : ∀ band ∈ bands, r'.layerGroup (band.1.renumber f) = r.layerGroup band.1) :
    c.stack r' offset (bands.map fun band => (band.1.renumber f, band.2)) =
      (c.stack r offset bands).map (·.renumber f) := by
  induction bands generalizing offset with
  | nil => rfl
  | cons band bands ih =>
    obtain ⟨key, ids⟩ := band
    rw [List.map_cons, stack, stack, List.map_cons, h _ List.mem_cons_self,
      ih _ fun band hband => h band (.tail _ hband)]
    rfl

theorem places_renumber (l : Layer α) : c.places (l.renumber f) = c.places l := rfl

theorem labelOf?_renumber (l : Layer α) :
    c.labelOf? (l.renumber f) = (c.labelOf? l).map (·.renumber f) := by
  unfold labelOf?
  rw [places_renumber]
  split <;> rfl

/-- Rankings of the same order make the same pyramid but for the ranks. -/
theorem pyramid_renumber (H : Ranking.SameOrder (nodes.map (·.group)) r r') :
    c.pyramid nodes r' = (c.pyramid nodes r).renumber (r.renumbering r') := by
  have hgroup : ∀ band ∈ partition nodes r,
      r'.layerGroup (band.1.renumber (r.renumbering r')) = r.layerGroup band.1 := by
    rintro ⟨key, ids⟩ hband
    obtain ⟨⟨n, hn, rfl⟩, -⟩ := mem_partition.mp hband
    exact H.layerGroup_renumber (List.mem_map_of_mem hn)
  simp only [pyramid, Pyramid.renumber, partition_renumber H, stack_renumber c _ hgroup,
    List.flatMap_map, places_renumber, List.filterMap_map, Function.comp_def, labelOf?_renumber,
    List.map_filterMap]

/-- **The geometry of a pyramid depends on nothing but ids, groups and the order of the groups in
use.** Nodes with the same ids and groups and rankings of the same order give the same positions,
rows, offsets, names and captions; only the ranks in the keys may be others. -/
theorem exists_pyramid_eq_renumber (hids : (nodes.map (·.id)).Nodup)
    (hids' : (nodes'.map (·.id)).Nodup)
    (hnodes : ∀ m, m ∈ nodes.map Node.membership ↔ m ∈ nodes'.map Node.membership)
    (horder : Ranking.SameOrder (nodes.map (·.group)) r r') :
    ∃ f, c.pyramid nodes' r' = (c.pyramid nodes r).renumber f := by
  refine ⟨r.renumbering r', ?_⟩
  rw [← pyramid_renumber c horder, pyramid, pyramid, partition_congr_membership hids hids' hnodes]

/-- Groups that are not in use and cycles of dependencies make no difference. -/
theorem exists_pyramid_eq_renumber_of_unused_groups :
    let nodes : List Node := [⟨"Net", "bonus", [⟨"Gross", .inferred⟩]⟩,
      ⟨"Gross", "core", [⟨"Net", .explicit⟩]⟩, ⟨"Note", "misc", []⟩]
    let nodes' : List Node := [⟨"Note", "misc", []⟩, ⟨"Gross", "core", []⟩, ⟨"Net", "bonus", []⟩]
    let r : Ranking := ⟨["core", "bonus"]⟩
    let r' : Ranking := ⟨["base", "core", "extra", "bonus"]⟩
    let c : LayoutConfig Single := .default
    (nodes.map (·.id)).Nodup ∧ (nodes'.map (·.id)).Nodup ∧
      (∀ m, m ∈ nodes.map Node.membership ↔ m ∈ nodes'.map Node.membership) ∧
      Ranking.SameOrder (nodes.map (·.group)) r r' ∧
      ∃ f, c.pyramid nodes' r' = (c.pyramid nodes r).renumber f := by
  intro nodes nodes' r r' c
  have hids : (nodes.map (·.id)).Nodup := by decide
  have hids' : (nodes'.map (·.id)).Nodup := by decide
  have hnodes : ∀ m, m ∈ nodes.map Node.membership ↔ m ∈ nodes'.map Node.membership := fun m => by
    simp only [nodes, nodes', Node.membership, List.map_cons, List.map_nil, List.mem_cons,
      List.not_mem_nil, or_false]
    tauto
  have horder : Ranking.SameOrder (nodes.map (·.group)) r r' := by
    refine ⟨by decide, fun g hg h hh i j i' j' hi hj hi' hj' => ?_⟩
    simp only [nodes, List.map_cons, List.map_nil, List.mem_cons, List.not_mem_nil, or_false]
      at hg hh
    rcases hg with rfl | rfl | rfl <;> rcases hh with rfl | rfl | rfl <;> cases hi <;> cases hj <;>
      cases hi' <;> cases hj' <;> decide
  exact ⟨hids, hids', hnodes, horder, exists_pyramid_eq_renumber c hids hids' hnodes horder⟩

end LayoutConfig
end RulePyramid
