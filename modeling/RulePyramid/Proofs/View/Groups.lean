import RulePyramid.Proofs.Group
import RulePyramid.Proofs.Layout.Arrangement
import RulePyramid.Proofs.View.Completeness

/-!
What a view shows of the groups. The name of a group is normalized when a node is made, when the
groups are ranked and at each look-up; since it is its own normal form, all of them find the same
entry of the catalog, or none. So the band of a box, its caption and the colours of both are those
of the entry that the catalog has for the group of the rule (`showsGroups_componentsGraph`).
-/

namespace RulePyramid

variable {α : Type}

/-- The colour of what belongs to an entry; the catch-all stays neutral. -/
def Group.bandColor (g : Group) : Color :=
  if g.normalizedName = ungrouped then .neutral else .ofGroup (some g.color)

/-- A box and the caption of its band show the entry that the catalog has, or that it has none. -/
structure ShowsEntry (x : ViewNode α) (y : ViewLayer α) (found : Option Group) : Prop where
  ranked_iff : (∃ ordinal, y.key = .ranked ordinal) ↔ ∃ entry, found = some entry
  of_some : ∀ entry, found = some entry → y.group = entry.normalizedName ∧
    y.displayName = entry.label ∧ x.color = entry.bandColor ∧ y.color = entry.bandColor
  of_none : found = none → y.key = .ungrouped ∧ y.displayName = "Ungrouped" ∧
    x.color = .neutral ∧ y.color = .neutral

/-- A view of some rules and its pyramid show each box in the group of the rule that counts for it,
as the catalog has this group. -/
structure View.ShowsGroups (v : View α) (p : Pyramid α) (rules : List Rule) (catalog : Catalog) :
    Prop where
  exists_caption : ∀ x ∈ v.nodes, ∃ r l y, rules.find? (·.target = x.id) = some r ∧
    p.layerOf? x.id = some l ∧ y ∈ v.layers ∧ y.key = l.key ∧ y.group = l.group ∧
      ShowsEntry x y (catalog.find? (r.group.getD ""))
  /-- A band has no other caption. -/
  nodup_keys : (v.layers.map (·.key)).Nodup

/-! ## Entries -/

theorem Color.ofGroup_none : Color.ofGroup none = .neutral := rfl

namespace Scene

variable {s : Scene α} {x : ViewNode α} {l : Layer α} {y : ViewLayer α} {raw : Option String}
  {entry : Group} {ordinal : Nat}

theorem colorOf_normalizeGroupName (s : Scene α) (raw : Option String) :
    s.colorOf (normalizeGroupName raw) =
      (s.catalog.find? (raw.getD "")).elim .neutral Group.bandColor := by
  rw [colorOf, Catalog.find?_normalizeGroupName]
  cases hfind : s.catalog.find? (raw.getD "") with
  | none => rw [Option.map_none, ite_self, Color.ofGroup_none, Option.elim_none]
  | some entry =>
    have hname := Catalog.normalizedName_of_find?_eq_some hfind
    rw [normalizeGroupName_getD] at hname
    rw [Option.map_some, Option.elim_some, Group.bandColor, hname, Color.ofGroup_none]

theorem colorOf_ungrouped (s : Scene α) : s.colorOf ungrouped = .neutral := by
  rw [colorOf, if_pos rfl, Color.ofGroup_none]

theorem displayName_of_key_eq_ranked (h : l.key = .ranked ordinal) :
    s.displayName l = ((s.catalog.find? l.group).map (·.label)).getD l.group := by
  rw [displayName, h]

theorem displayName_of_key_eq_ungrouped (h : l.key = .ungrouped) :
    s.displayName l = "Ungrouped" := by
  rw [displayName, h]

variable [Scalar α]

/-- The band without a rank says that there is no entry. -/
theorem showsEntry_none (hy : s.layer? l = some y) (hkey : l.key = .ungrouped)
    (hgroup : l.group = ungrouped) (hx : x.color = .neutral) : ShowsEntry x y none := by
  obtain ⟨hykey, -, hyname, hycolor⟩ := layer?_eq_some hy
  rw [hkey] at hykey
  rw [displayName_of_key_eq_ungrouped hkey] at hyname
  rw [hgroup, colorOf_ungrouped] at hycolor
  refine ⟨⟨?_, ?_⟩, ?_, fun _ => ⟨hykey, hyname, hx, hycolor⟩⟩
  · rintro ⟨ordinal, hranked⟩
    rw [hykey] at hranked
    cases hranked
  · rintro ⟨entry, ⟨⟩⟩
  · rintro entry ⟨⟩

/-- A band with a rank shows the entry for its name. -/
theorem showsEntry_some (hy : s.layer? l = some y) (hkey : l.key = .ranked ordinal)
    (hgroup : l.group = normalizeGroupName raw)
    (hentry : s.catalog.find? (raw.getD "") = some entry) (hx : x.color = entry.bandColor) :
    ShowsEntry x y (some entry) := by
  obtain ⟨hykey, hygroup, hyname, hycolor⟩ := layer?_eq_some hy
  have hname := Catalog.normalizedName_of_find?_eq_some hentry
  rw [normalizeGroupName_getD, ← hgroup, ← hygroup] at hname
  rw [displayName_of_key_eq_ranked hkey, hgroup, Catalog.find?_normalizeGroupName, hentry,
    Option.map_some, Option.getD_some] at hyname
  rw [hgroup, colorOf_normalizeGroupName, hentry, Option.elim_some] at hycolor
  refine ⟨⟨fun _ => ⟨entry, rfl⟩, fun _ => ⟨ordinal, hykey.trans hkey⟩⟩, ?_, ?_⟩
  · rintro _ ⟨⟩
    exact ⟨hname.symm, hyname, hx, hycolor⟩
  · rintro ⟨⟩

/-- The caption of the band that a group is in shows the entry of this group. -/
theorem showsEntry (hy : s.layer? l = some y)
    (hgroup : l.group = (Ranking.ofGroups s.catalog.groups).layerGroup l.key)
    (hkey : (Ranking.ofGroups s.catalog.groups).layerKey (normalizeGroupName raw) = l.key)
    (hx : x.color = s.colorOf (normalizeGroupName raw)) :
    ShowsEntry x y (s.catalog.find? (raw.getD "")) := by
  have hordinal := Ranking.layerKey_eq_iff.mp hkey
  have hlisted := @Catalog.isSome_ordinal?_iff s.catalog (raw.getD "")
  rw [normalizeGroupName_getD, hordinal] at hlisted
  rw [colorOf_normalizeGroupName] at hx
  cases hl : l.key with
  | ungrouped =>
    rw [hl] at hgroup hlisted
    have hnone : s.catalog.find? (raw.getD "") = none :=
      Option.not_isSome_iff_eq_none.mp (mt hlisted.mpr Bool.false_ne_true)
    rw [hnone, Option.elim_none] at hx
    rw [hnone]
    exact showsEntry_none hy hl hgroup hx
  | ranked ordinal =>
    rw [hl] at hgroup hlisted hordinal
    obtain ⟨entry, hentry⟩ := Option.isSome_iff_exists.mp (hlisted.mp rfl)
    rw [hentry, Option.elim_some] at hx
    rw [Ranking.layerGroup_of_ordinal?_eq_some hordinal] at hgroup
    rw [hentry]
    exact showsEntry_some hy hl hgroup hentry hx

end Scene

/-! ## Views of rules -/

variable [Scalar α]

namespace RuleGraph

variable {rules : List Rule} {catalog : Catalog} {config : LayoutConfig α} {x : ViewNode α}

/-- A box has the colour of its group. -/
theorem color_of_mem_nodes_view {g : RuleGraph} (hx : x ∈ (g.view catalog config).nodes) :
    x.color = (g.scene catalog config).colorOf x.group := by
  obtain ⟨m, -, hx⟩ := mem_nodes_view.mp hx
  obtain ⟨n, p, -, -, rfl⟩ := Scene.node?_eq_some_iff.mp hx
  rfl

/-- A box is for the first definition of its target. -/
theorem exists_find?_of_mem_nodes_view (hx : x ∈ ((ofRules rules).view catalog config).nodes) :
    ∃ r n, rules.find? (·.target = x.id) = some r ∧ n ∈ (ofRules rules).nodes.toList ∧
      n.id = x.id ∧ n.group = normalizeGroupName r.group ∧ x.group = n.group := by
  obtain ⟨n, hn, hgroup, -⟩ := (WellFormed.ofRules rules).get?_of_mem_nodes_view hx
  obtain ⟨hmem, hid⟩ := (WellFormed.ofRules rules).get?_eq_some_iff.mp hn
  have hrule := hmem
  rw [toList_ofRules, Node.mem_ofRules] at hrule
  obtain ⟨r, hr, rfl⟩ := hrule
  exact ⟨r, _, hid ▸ hr, hmem, hid, rfl, hgroup⟩

end RuleGraph

/-- **Ranking, layout and rendering agree on the groups.** -/
theorem showsGroups_componentsGraph (rules : List Rule) (catalog : Catalog)
    (config : LayoutConfig α) :
    (componentsGraph rules catalog config).ShowsGroups
      (config.pyramid (RuleGraph.ofRules rules).nodes.toList (.ofGroups catalog.groups))
      rules catalog where
  exists_caption x hx := by
    obtain ⟨r, n, hr, hn, hid, hgroup, hxgroup⟩ := RuleGraph.exists_find?_of_mem_nodes_view hx
    obtain ⟨l, hl, hlayer, hkey, hlgroup⟩ := LayoutConfig.exists_layerOf?
      (RuleGraph.WellFormed.ofRules rules).nodup_ids hn (.ofGroups catalog.groups) config
    obtain ⟨y, hy⟩ := RuleGraph.exists_layer? (g := .ofRules rules) hl
    obtain ⟨hykey, hygroup, -⟩ := Scene.layer?_eq_some hy
    have hcolor := RuleGraph.color_of_mem_nodes_view hx
    rw [hid] at hlayer
    rw [hgroup] at hkey
    rw [hxgroup, hgroup] at hcolor
    exact ⟨r, l, y, hr, hlayer, List.mem_filterMap.mpr ⟨l, hl, hy⟩, hykey, hygroup,
      Scene.showsEntry hy hlgroup hkey hcolor⟩
  nodup_keys := by
    rw [componentsGraph, RuleGraph.map_key_layers_view]
    exact (LayoutConfig.ascending_keys_partition _ _).nodup

end RulePyramid
