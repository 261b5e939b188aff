import RulePyramid.Proofs.Layout.Distances
import RulePyramid.Proofs.Ranking

/-!
How bands are stacked. As soon as one of the two gaps between rows and between bands is positive,
every box of a band is below every box of a later one (`Accepted.pairwise_below`), so groups are
stacked by display order and the nodes without a rank are on top (`Accepted.stacksUpwards`). Accepted
settings may have neither gap; then all boxes are at the same height (`y_eq_baseY`) and nothing is
stacked at all.
-/

namespace RulePyramid

/-- The box of `a` is below that of `b`. -/
def Pyramid.Below (p : Pyramid ℚ) (a b : String) : Prop :=
  ∃ q r, p.position? a = some q ∧ p.position? b = some r ∧ r.y < q.y

/-- The bands of a pyramid do not mix, and they are stacked by the order of their groups. -/
structure Pyramid.StacksUpwards (p : Pyramid ℚ) (nodes : List Node) (groups : List Group) :
    Prop where
  layers_apart : p.layers.Pairwise fun l l' =>
    ∀ a ∈ l.rows.flatten, ∀ b ∈ l'.rows.flatten, p.Below a b
  /-- The lesser the display order of a group, the lower are its nodes. -/
  below_of_precedes : ∀ n ∈ nodes, ∀ m ∈ nodes, Ranking.Precedes groups n.group m.group →
    p.Below n.id m.id
  /-- Nodes of no listed group are above all others. -/
  below_unlisted : ∀ n ∈ nodes, ∀ m ∈ nodes, (∃ g ∈ groups, g.normalizedName = n.group) →
    (¬∃ g ∈ groups, g.normalizedName = m.group) → p.Below n.id m.id

namespace LayoutConfig

variable {c : LayoutConfig ℚ} {nodes : List Node} {ranking : Ranking} {n m : Node} {l : Layer ℚ}
  {id : String} {p : Point ℚ}

/-! ## With a gap -/

/-- A member of a layer has a position in one of its rows. -/
theorem exists_position?_of_mem_rows (hnodes : (nodes.map (·.id)).Nodup)
    (hl : l ∈ (c.pyramid nodes ranking).layers) (hid : id ∈ l.rows.flatten) :
    ∃ q, (c.pyramid nodes ranking).position? id = some q ∧
      ∃ r < l.rowCount, q.y = c.rowY l.offset r := by
  rw [← map_fst_places c, List.mem_map] at hid
  obtain ⟨⟨a, q⟩, hq, rfl⟩ := hid
  obtain ⟨r, row, i, hr, -, rfl⟩ := mem_places.mp hq
  exact ⟨_, position?_eq_some_of_mem_places hnodes hl hq, r,
    (List.getElem?_eq_some_iff.mp hr).1, rfl⟩

theorem Accepted.pairwise_below (H : c.Accepted) (hgap : 0 < c.rowGap ∨ 0 < c.layerGap)
    (hnodes : (nodes.map (·.id)).Nodup) (ranking : Ranking) :
    (c.pyramid nodes ranking).layers.Pairwise fun l l' =>
      ∀ a ∈ l.rows.flatten, ∀ b ∈ l'.rows.flatten, (c.pyramid nodes ranking).Below a b := by
  have hgaps : 0 < c.rowGap + c.layerGap := by
    have hrow := H.rowGap_nonneg
    have hlayer := H.layerGap_nonneg
    rcases hgap with h | h <;> linarith
  refine (H.pairwise_rowY nodes ranking).imp_of_mem fun {l l'} hl hl' hrows a ha b hb => ?_
  obtain ⟨q, hq, r, hr, hqy⟩ := exists_position?_of_mem_rows hnodes hl ha
  obtain ⟨q', hq', r', -, hqy'⟩ := exists_position?_of_mem_rows hnodes hl' hb
  refine ⟨q, q', hq, hq', ?_⟩
  have hbelow := hrows r hr r'
  rw [hqy, hqy']
  linarith

/-- Nodes of a lower band are below. -/
theorem Accepted.below_of_height_lt (H : c.Accepted) (hgap : 0 < c.rowGap ∨ 0 < c.layerGap)
    (hnodes : (nodes.map (·.id)).Nodup) (hn : n ∈ nodes) (hm : m ∈ nodes)
    (hlt : (ranking.layerKey n.group).height < (ranking.layerKey m.group).height) :
    (c.pyramid nodes ranking).Below n.id m.id := by
  obtain ⟨l, hl, hkey, hnl⟩ := exists_layer_of_mem hn ranking c
  obtain ⟨l', hl', hkey', hml'⟩ := exists_layer_of_mem hm ranking c
  have hasc : Ascending (fun l => l.key.height) (c.pyramid nodes ranking).layers := by
    have hasc := ascending_keys_partition nodes ranking
    rwa [← map_key_layers c, Ascending, List.pairwise_map] at hasc
  rw [← hkey, ← hkey'] at hlt
  exact hasc.rel_of_lt (H.pairwise_below hgap hnodes ranking) hl hl' hlt n.id hnl m.id hml'

theorem Accepted.stacksUpwards (H : c.Accepted) (hgap : 0 < c.rowGap ∨ 0 < c.layerGap)
    (hnodes : (nodes.map (·.id)).Nodup) (groups : List Group) :
    (c.pyramid nodes (.ofGroups groups)).StacksUpwards nodes groups where
  layers_apart := H.pairwise_below hgap hnodes _
  below_of_precedes n hn m hm hprecedes := by
    obtain ⟨i, j, hi, hj, hij⟩ := hprecedes.ordinal?_lt
    refine H.below_of_height_lt hgap hnodes hn hm ?_
    rw [Ranking.layerKey, Ranking.layerKey, hi, hj]
    exact WithTop.coe_lt_coe.mpr hij
  below_unlisted n hn m hm hlisted hunlisted := by
    rw [← Ranking.mem_names_ofGroups, ← Ranking.isSome_ordinal?_iff] at hlisted hunlisted
    obtain ⟨i, hi⟩ := Option.isSome_iff_exists.mp hlisted
    refine H.below_of_height_lt hgap hnodes hn hm ?_
    rw [Ranking.layerKey, Ranking.layerKey, hi, Option.not_isSome_iff_eq_none.mp hunlisted]
    exact WithTop.coe_lt_top i

/-! ## Without a gap -/

theorem offset_eq_of_mem_stack (hrow : c.rowGap = 0) (hlayer : c.layerGap = 0) {offset : ℚ}
    {bands : List (LayerKey × List String)} (hl : l ∈ c.stack ranking offset bands) :
    l.offset = offset := by
  induction bands generalizing offset with
  | nil => cases hl
  | cons band bands ih =>
    obtain ⟨key, ids⟩ := band
    rw [stack, List.mem_cons] at hl
    rcases hl with rfl | hl
    · rfl
    · rw [ih hl, layerExtent_eq, hrow, hlayer, mul_zero, add_zero, add_zero]

/-- Without gaps all boxes are at the height of the base. -/
theorem y_eq_baseY (hrow : c.rowGap = 0) (hlayer : c.layerGap = 0)
    (hnodes : (nodes.map (·.id)).Nodup) (hp : (c.pyramid nodes ranking).position? id = some p) :
    p.y = c.baseY := by
  obtain ⟨l, hl, hp⟩ := (position?_eq_some_iff hnodes).mp hp
  obtain ⟨r, row, i, -, -, rfl⟩ := mem_places.mp hp
  have hoffset : l.offset = 0 := (offset_eq_of_mem_stack hrow hlayer hl).trans Nat.cast_zero
  rw [rowY_eq, hoffset, hrow, mul_zero, sub_zero, sub_zero]

theorem not_below_of_no_gaps (hrow : c.rowGap = 0) (hlayer : c.layerGap = 0)
    (hnodes : (nodes.map (·.id)).Nodup) (ranking : Ranking) (a b : String) :
    ¬(c.pyramid nodes ranking).Below a b := by
  rintro ⟨q, r, hq, hr, hlt⟩
  rw [y_eq_baseY hrow hlayer hnodes hq, y_eq_baseY hrow hlayer hnodes hr] at hlt
  exact lt_irrefl _ hlt

/-- A node of each of two groups. -/
def twoBands : List Node := [⟨"Gross", "base", []⟩, ⟨"Premium", "bonus", []⟩]

theorem nodup_ids_twoBands : (twoBands.map (·.id)).Nodup := by decide

theorem precedes_fallback : Ranking.Precedes Catalog.fallback.groups "base" "bonus" where
  exists_lt := by decide +kernel
  exists_entry := by decide +kernel

theorem not_stacksUpwards_twoBands (hrow : c.rowGap = 0) (hlayer : c.layerGap = 0) :
    ¬(c.pyramid twoBands (.ofGroups Catalog.fallback.groups)).StacksUpwards twoBands
      Catalog.fallback.groups := fun H =>
  not_below_of_no_gaps hrow hlayer nodup_ids_twoBands _ _ _ (H.below_of_precedes _ (.head _) _
    (.tail _ (.head _)) precedes_fallback)

/-- **Accepted settings stack bands upwards just if one of the two gaps is positive.** -/
theorem stacksUpwards_iff (hc : c.validate = .ok ()) :
    (∀ (nodes : List Node) (groups : List Group), (nodes.map (·.id)).Nodup →
      (c.pyramid nodes (.ofGroups groups)).StacksUpwards nodes groups) ↔
      0 < c.rowGap ∨ 0 < c.layerGap := by
  have H := accepted_iff.mp hc
  constructor
  · intro hall
    by_contra hgap
    rw [not_or, not_lt, not_lt] at hgap
    exact not_stacksUpwards_twoBands (le_antisymm hgap.1 H.rowGap_nonneg)
      (le_antisymm hgap.2 H.layerGap_nonneg) (hall _ _ nodup_ids_twoBands)
  · exact fun hgap nodes groups hnodes => H.stacksUpwards hgap hnodes groups

/-- Bands need no gap between them if rows have one. -/
theorem stacksUpwards_iff_of_no_layer_gap :
    let c : LayoutConfig ℚ := { LayoutConfig.default with rowGap := 1, layerGap := 0 }
    c.validate = .ok () ∧
      ((∀ (nodes : List Node) (groups : List Group), (nodes.map (·.id)).Nodup →
        (c.pyramid nodes (.ofGroups groups)).StacksUpwards nodes groups) ↔
        0 < c.rowGap ∨ 0 < c.layerGap) := by
  intro c
  have hc : c.validate = .ok () := by decide
  exact ⟨hc, stacksUpwards_iff hc⟩

/-- Settings without any gap are accepted, and the second band is drawn over the first one. -/
theorem not_stacksUpwards_of_no_gaps :
    let c : LayoutConfig ℚ := { LayoutConfig.default with rowGap := 0, layerGap := 0 }
    let nodes : List Node := [⟨"Gross", "base", []⟩, ⟨"Premium", "bonus", []⟩]
    let groups := Catalog.fallback.groups
    c.validate = .ok () ∧ (nodes.map (·.id)).Nodup ∧
      ¬(c.pyramid nodes (.ofGroups groups)).StacksUpwards nodes groups := by
  intro c nodes groups
  have hc : c.validate = .ok () := by decide
  exact ⟨hc, nodup_ids_twoBands, not_stacksUpwards_twoBands rfl rfl⟩

end LayoutConfig
end RulePyramid
