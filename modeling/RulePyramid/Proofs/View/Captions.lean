import RulePyramid.Proofs.View.CatchAll

/-!
Which entry of a catalog captions a band. A name may be listed more than once, in any spelling and
with any display order. A look-up finds the entry that is listed first
(`Catalog.exists_isLeastEntry_of_find?`), while a rank comes from the one with the least display
order (`Ranking.isLeastEntry_of_mem_leaders`). So a band with a rank shows the first entry with its
name, and this is the one that gave the band its rank just if no other entry with the name has a
lesser display order (`captionsBands_componentsGraph`).
-/

namespace RulePyramid

/-! ## Entries with a name -/

/-- Of the entries with a name, each with its position, one has the least key. -/
structure IsLeastEntry {β : Type} [LE β] (key : Group × Nat → β) (groups : List Group)
    (name : String) (entry : Group × Nat) : Prop where
  getElem?_eq : groups[entry.2]? = some entry.1
  name_eq : entry.1.normalizedName = name
  le : ∀ g i, groups[i]? = some g → g.normalizedName = name → key entry ≤ key (g, i)

open Ranking (leaders standing standings)

variable {groups : List Group} {name : String} {entry shown leading : Group × Nat}

/-- Standings compare display orders first. -/
theorem Ranking.displayOrder_le_of_standing_le (h : standing shown ≤ standing leading) :
    shown.1.displayOrder ≤ leading.1.displayOrder := by
  rcases Prod.Lex.toLex_le_toLex.mp h with hlt | ⟨heq, -⟩
  · exact hlt.le
  · exact heq.le

/-- The entry that is listed first is the one with the least standing just if its display order is
the least one. -/
theorem IsLeastEntry.eq_iff (hshown : IsLeastEntry Prod.snd groups name shown)
    (hleading : IsLeastEntry standing groups name leading) :
    shown = leading ↔
      ∀ g ∈ groups, g.normalizedName = name → shown.1.displayOrder ≤ g.displayOrder := by
  constructor
  · intro heq g hg hname
    obtain ⟨i, hi⟩ := List.mem_iff_getElem?.mp hg
    have hle : standing leading ≤ standing (g, i) := hleading.le g i hi hname
    rw [heq]
    exact Ranking.displayOrder_le_of_standing_le hle
  · intro hleast
    have horder : shown.1.displayOrder ≤ leading.1.displayOrder :=
      hleast _ (List.mem_of_getElem? hleading.getElem?_eq) hleading.name_eq
    have horder' : leading.1.displayOrder ≤ shown.1.displayOrder :=
      Ranking.displayOrder_le_of_standing_le
        (hleading.le _ _ hshown.getElem?_eq hshown.name_eq)
    have hposition : shown.2 ≤ leading.2 :=
      hshown.le _ _ hleading.getElem?_eq hleading.name_eq
    have hposition' : leading.2 ≤ shown.2 := by
      have hle := hleading.le _ _ hshown.getElem?_eq hshown.name_eq
      rcases Prod.Lex.toLex_le_toLex.mp hle with hlt | ⟨-, hle⟩
      · exact (hlt.not_ge horder).elim
      · exact hle
    have hsame : shown.2 = leading.2 := le_antisymm hposition hposition'
    have hentry := hshown.getElem?_eq
    rw [hsame, hleading.getElem?_eq] at hentry
    exact Prod.ext (Option.some.inj hentry).symm hsame

/-- A look-up finds the entry that is listed first. -/
theorem Catalog.exists_isLeastEntry_of_find? {c : Catalog} {g : Group}
    (h : c.find? name = some g) :
    ∃ i, IsLeastEntry Prod.snd c.groups (normalizeGroupName (some name)) (g, i) := by
  obtain ⟨hname, i, hi, hget, hbefore⟩ := List.find?_eq_some_iff_getElem.mp h
  refine ⟨i, List.getElem?_eq_some_iff.mpr ⟨hi, hget⟩, of_decide_eq_true hname, ?_⟩
  intro other j hj hother
  by_contra hlt
  obtain ⟨hjlt, rfl⟩ := List.getElem?_eq_some_iff.mp hj
  have hnot := hbefore j (not_le.mp hlt)
  rw [decide_eq_true hother] at hnot
  cases hnot

/-- A rank comes from the entry with the least standing. -/
theorem Ranking.isLeastEntry_of_mem_leaders (h : entry ∈ leaders groups) :
    IsLeastEntry standing groups entry.1.normalizedName entry where
  getElem?_eq := mem_entries.mp ((sublist_eraseDupsBy _).subset h)
  name_eq := rfl
  le g i hg hname := (isLeast_standing h).2 ⟨g, i, hg, hname, rfl⟩

/-! ## Captions -/

variable {α : Type}

/-- A caption shows the label and the colour of an entry. -/
structure ViewLayer.Shows (y : ViewLayer α) (g : Group) : Prop where
  displayName_eq : y.displayName = g.label
  color_eq : y.color = g.bandColor

/-- The entry that a band with a rank shows, and the one that the rank comes from. -/
structure ViewLayer.CaptionedBy (y : ViewLayer α) (ordinal : Nat) (groups : List Group)
    (shown leading : Group × Nat) : Prop where
  shows : y.Shows shown.1
  /-- The entry is listed before all others with the name. -/
  first : IsLeastEntry Prod.snd groups y.group shown
  ordinal?_eq : (Ranking.ofGroups groups).ordinal? y.group = some ordinal
  /-- The rank is the place of that one among the entries that give names their ranks. -/
  rank_eq : ∃ i, i + 1 = ordinal ∧ (leaders groups)[i]? = some leading
  /-- Of all entries with the name that one has the least display order, and it is listed before
  those with an equal one. -/
  least : IsLeastEntry standing groups y.group leading
  same_iff : shown = leading ↔
    ∀ g ∈ groups, g.normalizedName = y.group → shown.1.displayOrder ≤ g.displayOrder

/-- Each band with a rank is captioned by the first entry with its name. -/
def View.CaptionsBands (v : View α) (groups : List Group) : Prop :=
  ∀ y ∈ v.layers, ∀ ordinal, y.key = .ranked ordinal →
    ∃ shown leading, y.CaptionedBy ordinal groups shown leading

/-- Each band with a rank shows the label and the colour of the entry that the rank comes from. -/
def View.ShowsLeaders (v : View α) (groups : List Group) : Prop :=
  ∀ y ∈ v.layers, ∀ ordinal, y.key = .ranked ordinal →
    ∃ leading, IsLeastEntry standing groups y.group leading ∧
      y.displayName = leading.1.label ∧ y.color = .ofGroup (some leading.1.color)

variable [Scalar α] {rules : List Rule} {catalog : Catalog} {config : LayoutConfig α}

/-- The group of a band with a rank is the name that has the rank. -/
theorem LayoutConfig.ordinal?_group_of_mem_layers {nodes : List Node} {ranking : Ranking}
    {l : Layer α} {ordinal : Nat} (hl : l ∈ (config.pyramid nodes ranking).layers)
    (hkey : l.key = .ranked ordinal) : ranking.ordinal? l.group = some ordinal := by
  obtain ⟨ids, hmem, -, hgroup⟩ := exists_ids_of_mem_stack hl
  obtain ⟨⟨n, -, hn⟩, -⟩ := mem_partition.mp hmem
  rw [hkey] at hgroup hn
  have hordinal : ranking.ordinal? n.group = some ordinal := Ranking.layerKey_eq_iff.mp hn
  rw [hgroup, Ranking.layerGroup_of_ordinal?_eq_some hordinal, hordinal]

namespace Scene

variable {s : Scene α} {l : Layer α} {y : ViewLayer α} {g : Group}

/-- The caption of a band that is called like an entry shows the first entry with the name. -/
theorem exists_shows_of_layer? {ordinal : Nat} (hy : s.layer? l = some y)
    (hkey : l.key = .ranked ordinal) (hg : g ∈ s.catalog.groups)
    (hname : g.normalizedName = l.group) :
    ∃ shown, y.Shows shown.1 ∧ IsLeastEntry Prod.snd s.catalog.groups y.group shown := by
  obtain ⟨-, hygroup, hyname, hycolor⟩ := layer?_eq_some hy
  have hlisted : (s.catalog.find? g.groupName).isSome :=
    Catalog.isSome_find?_iff.mpr ⟨g, hg, rfl⟩
  obtain ⟨entry, hentry⟩ := Option.isSome_iff_exists.mp hlisted
  obtain ⟨i, hfirst⟩ := Catalog.exists_isLeastEntry_of_find? hentry
  have hgroup : l.group = normalizeGroupName (some g.groupName) := hname.symm
  rw [← hgroup, ← hygroup] at hfirst
  rw [displayName_of_key_eq_ranked hkey, hgroup, Catalog.find?_normalizeGroupName,
    Option.getD_some, hentry, Option.map_some, Option.getD_some] at hyname
  rw [hgroup, colorOf_normalizeGroupName, Option.getD_some, hentry, Option.elim_some] at hycolor
  exact ⟨(entry, i), ⟨hyname, hycolor⟩, hfirst⟩

end Scene

/-- The caption of a band with a rank in the view of a graph. -/
theorem RuleGraph.exists_captionedBy {g : RuleGraph} {y : ViewLayer α} {ordinal : Nat}
    (hy : y ∈ (g.view catalog config).layers) (hkey : y.key = .ranked ordinal) :
    ∃ shown leading, y.CaptionedBy ordinal catalog.groups shown leading := by
  obtain ⟨l, hl, hlayer⟩ := List.mem_filterMap.mp hy
  obtain ⟨hykey, hygroup, -⟩ := Scene.layer?_eq_some hlayer
  rw [hykey] at hkey
  have hordinal := LayoutConfig.ordinal?_group_of_mem_layers hl hkey
  obtain ⟨i, hi, hrank, hname⟩ := Ranking.exists_leader_of_ordinal?_eq_some hordinal
  have hleast := Ranking.isLeastEntry_of_mem_leaders (List.getElem_mem hi)
  rw [hname, ← hygroup] at hleast
  obtain ⟨shown, hshows, hfirst⟩ := Scene.exists_shows_of_layer? hlayer hkey
    (List.mem_of_getElem? hleast.getElem?_eq) hname
  rw [← hygroup] at hordinal
  exact ⟨shown, _, hshows, hfirst, hordinal, ⟨i, hrank, List.getElem?_eq_getElem hi⟩, hleast,
    hfirst.eq_iff hleast⟩

/-- The group of a rule that counts for its target has a caption. -/
theorem RuleGraph.exists_mem_layers_of_find? {r : Rule}
    (hr : rules.find? (·.target = r.target) = some r) :
    ∃ y ∈ ((ofRules rules).view catalog config).layers,
      y.key = (Ranking.ofGroups catalog.groups).layerKey (normalizeGroupName r.group) := by
  obtain ⟨n, hn, -, hname⟩ := exists_node_of_find? hr
  rw [← List.mem_map, map_key_layers_view, LayoutConfig.mem_keys_partition]
  exact ⟨n, hn, by rw [hname]⟩

/-- **A band with a rank is captioned by the first entry with its name, which is the one that the
rank comes from just if its display order is the least one.** -/
theorem captionsBands_componentsGraph (rules : List Rule) (catalog : Catalog)
    (config : LayoutConfig α) :
    (componentsGraph rules catalog config).CaptionsBands catalog.groups :=
  fun _ hy _ hkey => RuleGraph.exists_captionedBy hy hkey

/-- Where a name is listed again with a lesser display order the rank comes from that entry, but the
caption shows the first one. -/
theorem not_showsLeaders_of_relisted :
    let groups : List Group := [⟨"core", "Second", "red", 2⟩, ⟨" Core ", "First", "blue", 1⟩]
    let r := ({ target := "Gross", expression := "100" } : Rule).withGroup "core"
    let v := componentsGraph [r] ⟨groups⟩ (LayoutConfig.default : LayoutConfig Single)
    (∃ y ∈ v.layers, y.key = .ranked 1 ∧ y.displayName = "Second" ∧ y.color = .red) ∧
      ¬v.ShowsLeaders groups := by
  intro groups r v
  have hcore : ∀ g ∈ groups, g.normalizedName = "core" := by decide +kernel
  have hr : [r].find? (·.target = r.target) = some r :=
    List.find?_cons_of_pos (decide_eq_true rfl)
  have hnames : (Ranking.ofGroups groups).names = ["core"] := by
    have hsorted : groups.mergeSort (·.displayOrder ≤ ·.displayOrder) = [groups[1], groups[0]] := by
      simp [groups, List.mergeSort, List.MergeSort.Internal.splitInTwo]
    rw [Ranking.ofGroups, hsorted]
    decide +kernel
  have hrank : (Ranking.ofGroups groups).layerKey (normalizeGroupName r.group) = .ranked 1 := by
    rw [Ranking.layerKey, Ranking.ordinal?, hnames]
    decide +kernel
  obtain ⟨y, hy, hkey⟩ : ∃ y ∈ v.layers, y.key = _ := RuleGraph.exists_mem_layers_of_find? hr
  rw [hrank] at hkey
  obtain ⟨shown, leader, hcaption⟩ := RuleGraph.exists_captionedBy hy hkey
  have hfirst := hcaption.first
  have hgroup : y.group = "core" :=
    hfirst.name_eq.symm.trans (hcore _ (List.mem_of_getElem? hfirst.getElem?_eq))
  have hshown : shown.1 = groups[0] := by
    have hle : shown.2 ≤ 0 := hfirst.le groups[0] 0 rfl ((hcore _ (.head _)).trans hgroup.symm)
    have hget := hfirst.getElem?_eq
    rw [Nat.le_zero.mp hle] at hget
    exact (Option.some.inj hget).symm
  obtain ⟨hlabel, hcolor⟩ := hcaption.shows
  rw [hshown] at hlabel hcolor
  refine ⟨⟨y, hy, hkey, hlabel.trans (by decide +kernel), hcolor.trans (by decide +kernel)⟩, ?_⟩
  intro H
  obtain ⟨leading, hleast, hname, -⟩ := H y hy 1 hkey
  have horder : leading.1.displayOrder ≤ 1 :=
    Ranking.displayOrder_le_of_standing_le
      (hleast.le groups[1] 1 rfl ((hcore _ (.tail _ (.head _))).trans hgroup.symm))
  have hlabels : ∀ g ∈ groups, g.displayOrder ≤ 1 → g.label ≠ groups[0].label := by decide +kernel
  exact hlabels _ (List.mem_of_getElem? hleast.getElem?_eq) horder (hname.symm.trans hlabel)

end RulePyramid
