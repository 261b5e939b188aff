import RulePyramid.Proofs.View.Groups

/-!
The rules without a group. All of them have the name of the catch-all, so they share a band
(`RuleGraph.exists_layerOf?_of_hasNoGroup`). This is the band on top of the pyramid unless a listed
group has that name as well: a catalog drops the entries without a name, but an entry may spell the
name of the catch-all out (`Catalog.exists_ungrouped_resolve_iff`), and then it draws these rules
into a band of its own (`catchesUngrouped_iff`).
-/

namespace RulePyramid

open Text (trim lowercase)

/-! ## Rules without a group -/

/-- The group is missing or blank. -/
def Rule.HasNoGroup (r : Rule) : Prop := ∀ name ∈ r.group, Text.isBlankText name

theorem Rule.HasNoGroup.normalizeGroupName_eq {r : Rule} (h : r.HasNoGroup) :
    normalizeGroupName r.group = ungrouped := by
  cases hgroup : r.group with
  | none => rfl
  | some name =>
    have hblank : trim name = "" := Text.trim_eq_empty_iff.mpr (h name hgroup)
    rw [normalizeGroupName_some, if_pos hblank]

/-- In a view of some rules and its pyramid, each rule that counts for its target and has no group
is in the catch-all and in no ranked band, and the catch-all is the last band. -/
structure View.CatchesUngrouped {α : Type} (v : View α) (p : Pyramid α) (rules : List Rule) :
    Prop where
  exists_layerOf? : ∀ r, rules.find? (·.target = r.target) = some r → r.HasNoGroup →
    ∃ l, p.layerOf? r.target = some l ∧ l.key = .ungrouped
  key_eq : ∀ r, rules.find? (·.target = r.target) = some r → r.HasNoGroup →
    ∀ l ∈ p.layers, l.contains r.target → l.key = .ungrouped
  key_last : ∀ r, rules.find? (·.target = r.target) = some r → r.HasNoGroup →
    ∃ y, v.layers.getLast? = some y ∧ y.key = .ungrouped

/-! ## Catalogs with an entry for the catch-all -/

namespace Catalog

variable {groups : List Group} {g : Group}

/-- The name of the catch-all is spelled out by the entries that have it and are not blank. -/
theorem lowercase_trim_eq_ungrouped_iff :
    lowercase (trim g.groupName) = ungrouped ↔
      Text.isBlankText g.groupName = false ∧ g.normalizedName = ungrouped := by
  rw [Group.normalizedName, normalizeGroupName_some, ← Bool.not_eq_true, ← Text.trim_eq_empty_iff]
  by_cases hblank : trim g.groupName = ""
  · rw [hblank]
    decide +kernel
  · simp only [hblank, if_false, not_false_eq_true, true_and]

theorem groups_resolve_ok (groups : List Group) :
    (resolve (.ok groups)).1.groups =
      if groups.filter (!Text.isBlankText ·.groupName) = [] then fallback.groups
      else groups.filter (!Text.isBlankText ·.groupName) := by
  simp only [resolve]
  split
  · next hnil => rw [if_pos hnil]
  · next hne => rw [if_neg hne]

theorem not_exists_ungrouped_fallback : ¬∃ g ∈ fallback.groups, g.normalizedName = ungrouped := by
  decide +kernel

/-- A catalog has an entry for the catch-all just if the response spells its name out. -/
theorem exists_ungrouped_resolve_iff (response : Except String (List Group)) :
    (∃ g ∈ (resolve response).1.groups, g.normalizedName = ungrouped) ↔
      ∃ groups, response = .ok groups ∧ ∃ g ∈ groups, lowercase (trim g.groupName) = ungrouped := by
  cases response with
  | error reason =>
    refine ⟨fun h => (not_exists_ungrouped_fallback h).elim, ?_⟩
    rintro ⟨groups, ⟨⟩, -⟩
  | ok groups =>
    have hkept : (∃ g ∈ groups.filter (!Text.isBlankText ·.groupName),
        g.normalizedName = ungrouped) ↔ ∃ g ∈ groups, lowercase (trim g.groupName) = ungrouped := by
      simp only [List.mem_filter, Bool.not_eq_true', lowercase_trim_eq_ungrouped_iff, and_assoc]
    simp only [Except.ok.injEq, exists_eq_left', ← hkept, groups_resolve_ok]
    split
    · next hnil =>
      rw [hnil]
      exact iff_of_false not_exists_ungrouped_fallback (by simp)
    · exact Iff.rfl

/-- The rules without a group have no rank just if no entry is for the catch-all. -/
theorem layerKey_ungrouped_eq_iff (c : Catalog) :
    (Ranking.ofGroups c.groups).layerKey ungrouped = .ungrouped ↔
      ¬∃ g ∈ c.groups, g.normalizedName = ungrouped := by
  rw [Ranking.layerKey_eq_iff, LayerKey.ordinal?, ← Option.not_isSome_iff_eq_none,
    Ranking.isSome_ordinal?_iff, Ranking.mem_names_ofGroups]

end Catalog

/-! ## The band of the rules without a group -/

section
variable {α : Type} [Scalar α] {rules : List Rule} {r : Rule} {catalog : Catalog}

namespace RuleGraph

/-- A rule that counts for its target has a node. -/
theorem exists_node_of_find? (hr : rules.find? (·.target = r.target) = some r) :
    ∃ n ∈ (ofRules rules).nodes.toList, n.id = r.target ∧ n.group = normalizeGroupName r.group :=
  ⟨Node.ofRule (Node.isTarget rules) r,
    by rw [toList_ofRules, Node.mem_ofRules]; exact ⟨r, hr, rfl⟩, rfl, rfl⟩

theorem exists_layerOf?_of_hasNoGroup (hr : rules.find? (·.target = r.target) = some r)
    (hgroup : r.HasNoGroup) (ranking : Ranking) (config : LayoutConfig α) :
    ∃ l, (config.pyramid (ofRules rules).nodes.toList ranking).layerOf? r.target = some l ∧
      l.key = ranking.layerKey ungrouped := by
  obtain ⟨n, hn, hid, hname⟩ := exists_node_of_find? hr
  obtain ⟨l, -, hlayer, hkey, -⟩ :=
    LayoutConfig.exists_layerOf? (WellFormed.ofRules rules).nodup_ids hn ranking config
  rw [hid] at hlayer
  rw [hname, hgroup.normalizeGroupName_eq] at hkey
  exact ⟨l, hlayer, hkey.symm⟩

/-- No other band has a rule without a group. -/
theorem key_eq_of_contains_hasNoGroup (hr : rules.find? (·.target = r.target) = some r)
    (hgroup : r.HasNoGroup) {ranking : Ranking} {config : LayoutConfig α} {l : Layer α}
    (hl : l ∈ (config.pyramid (ofRules rules).nodes.toList ranking).layers)
    (hcontains : l.contains r.target) : l.key = ranking.layerKey ungrouped := by
  obtain ⟨n, hn, hid, hname⟩ := exists_node_of_find? hr
  obtain ⟨m, hm, hmid, hordinal⟩ :=
    (LayoutConfig.mem_flatten_rows_iff hl).mp (Layer.contains_iff.mp hcontains)
  obtain rfl := (WellFormed.ofRules rules).eq_of_id_eq hm hn (hmid.trans hid.symm)
  rw [hname, hgroup.normalizeGroupName_eq] at hordinal
  exact (Ranking.layerKey_eq_iff.mpr hordinal).symm

end RuleGraph

/-- A caption of the catch-all stands last: no band is higher. -/
theorem View.Draws.getLast?_layers {v : View α} {config : LayoutConfig α}
    (H : v.Draws rules catalog config) {y : ViewLayer α} (hy : y ∈ v.layers)
    (hkey : y.key = .ungrouped) : v.layers.getLast? = some y := by
  obtain ⟨before, after, hsplit⟩ := List.append_of_mem hy
  have hasc := H.layers_ascending
  rw [hsplit, Ascending] at hasc
  have hafter : after = [] := by
    refine List.eq_nil_iff_forall_not_mem.mpr fun z hz => ?_
    have hlt := (List.pairwise_cons.mp (List.pairwise_append.mp hasc).2.1).1 z hz
    rw [hkey] at hlt
    exact not_top_lt hlt
  rw [hsplit, hafter, List.getLast?_concat]

/-! ## Views of rules -/

theorem catchesUngrouped_of_layerKey (rules : List Rule) (config : LayoutConfig α)
    (hkey : (Ranking.ofGroups catalog.groups).layerKey ungrouped = .ungrouped) :
    (componentsGraph rules catalog config).CatchesUngrouped
      (config.pyramid (RuleGraph.ofRules rules).nodes.toList (.ofGroups catalog.groups)) rules where
  exists_layerOf? r hr hgroup := by
    obtain ⟨l, hlayer, hlkey⟩ := RuleGraph.exists_layerOf?_of_hasNoGroup hr hgroup _ config
    exact ⟨l, hlayer, hlkey.trans hkey⟩
  key_eq r hr hgroup l hl hcontains :=
    (RuleGraph.key_eq_of_contains_hasNoGroup hr hgroup hl hcontains).trans hkey
  key_last r hr hgroup := by
    obtain ⟨n, hn, -, hname⟩ := RuleGraph.exists_node_of_find? hr
    rw [hgroup.normalizeGroupName_eq] at hname
    have hcaption : ∃ y ∈ (componentsGraph rules catalog config).layers, y.key = .ungrouped := by
      rw [← List.mem_map, componentsGraph, RuleGraph.map_key_layers_view,
        LayoutConfig.mem_keys_partition]
      exact ⟨n, hn, by rw [hname, hkey]⟩
    obtain ⟨y, hy, hykey⟩ := hcaption
    exact ⟨y, (draws_componentsGraph rules catalog config).getLast?_layers hy hykey, hykey⟩

/-- **The catch-all has the rules without a group just if no group that is listed is called like
it.** -/
theorem catchesUngrouped_iff (response : Except String (List Group)) (config : LayoutConfig α) :
    let catalog := (Catalog.resolve response).1
    (∀ rules, (componentsGraph rules catalog config).CatchesUngrouped
      (config.pyramid (RuleGraph.ofRules rules).nodes.toList (.ofGroups catalog.groups)) rules) ↔
      ∀ groups, response = .ok groups → ∀ g ∈ groups, lowercase (trim g.groupName) ≠ ungrouped := by
  intro catalog
  have hlisted := Catalog.exists_ungrouped_resolve_iff response
  have hrank := catalog.layerKey_ungrouped_eq_iff
  rw [hlisted] at hrank
  constructor
  · intro hall groups hresponse g hg hname
    have hr : [({ target := "Note" } : Rule)].find? (·.target = "Note") = some { target := "Note" } :=
      List.find?_cons_of_pos (decide_eq_true rfl)
    have hgroup : ({ target := "Note" } : Rule).HasNoGroup := fun _ h => nomatch h
    obtain ⟨l, hlayer, hkey⟩ := (hall _).exists_layerOf? _ hr hgroup
    obtain ⟨l', hlayer', hkey'⟩ := RuleGraph.exists_layerOf?_of_hasNoGroup hr hgroup
      (.ofGroups catalog.groups) config
    obtain rfl := Option.some.inj (hlayer.symm.trans hlayer')
    exact hrank.mp (hkey'.symm.trans hkey) ⟨groups, hresponse, g, hg, hname⟩
  · intro hnone rules
    refine catchesUngrouped_of_layerKey rules config (hrank.mpr ?_)
    rintro ⟨groups, hresponse, g, hg, hname⟩
    exact hnone groups hresponse g hg hname

/-- A response may list a group with the name of the catch-all, which then ranks the rules without a
group. -/
theorem not_catchesUngrouped_of_listed :
    let catalog := (Catalog.resolve (.ok [⟨"Ungrouped", "Loose", "blue", 1⟩])).1
    let rules : List Rule := [{ target := "Note", expression := "1" }]
    let config : LayoutConfig Single := LayoutConfig.default
    let p := config.pyramid (RuleGraph.ofRules rules).nodes.toList (.ofGroups catalog.groups)
    (∃ l, p.layerOf? "Note" = some l ∧ l.key = .ranked 1) ∧
      ¬(componentsGraph rules catalog config).CatchesUngrouped p rules := by
  intro catalog rules config p
  have hr : rules.find? (·.target = "Note") = some { target := "Note", expression := "1" } :=
    List.find?_cons_of_pos (decide_eq_true rfl)
  have hgroup : ({ target := "Note", expression := "1" } : Rule).HasNoGroup := fun _ h => nomatch h
  have hrank : (Ranking.ofGroups catalog.groups).layerKey ungrouped = .ranked 1 := by decide +kernel
  obtain ⟨l, hlayer, hkey⟩ := RuleGraph.exists_layerOf?_of_hasNoGroup hr hgroup
    (.ofGroups catalog.groups) config
  rw [hrank] at hkey
  refine ⟨⟨l, hlayer, hkey⟩, fun H => ?_⟩
  obtain ⟨l', hlayer', hkey'⟩ := H.exists_layerOf? _ hr hgroup
  cases hlayer.symm.trans hlayer'
  cases hkey.symm.trans hkey'

end
end RulePyramid
