import RulePyramid.Proofs.Graph.Nodes
import RulePyramid.Proofs.Text.Lowercase

/-!
What the nodes of some rules say about them. There is one node for each target, in the order in
which the targets come up, and it tells which other rules the first definition of the target
declares or mentions, and which of the two (`Node.recordAll_ofRules`). Declared names are trimmed
and targets are not. So a rule whose target has a blank around it cannot be declared, and what is
depended on in its place is the rule for the trimmed name, if there is one
(`Node.honoursDeclared_iff`).
-/

namespace RulePyramid

/-- How a dependency is known that is declared, mentioned, or both. -/
inductive Origin.Tells (declared mentioned : Prop) : Origin → Prop where
  | explicit : declared → ¬mentioned → Tells declared mentioned .explicit
  | inferred : ¬declared → mentioned → Tells declared mentioned .inferred
  | both : declared → mentioned → Tells declared mentioned .both

theorem Origin.Tells.isDeclared_iff {declared mentioned : Prop} {o : Origin}
    (H : o.Tells declared mentioned) : o.isDeclared ↔ declared := by
  cases H with
  | explicit hdeclared => exact iff_of_true rfl hdeclared
  | inferred hdeclared => exact iff_of_false Bool.false_ne_true hdeclared
  | both hdeclared => exact iff_of_true rfl hdeclared

/-- There is one origin that tells this. -/
theorem Origin.Tells.unique {declared mentioned : Prop} {o o' : Origin}
    (H : o.Tells declared mentioned) (H' : o'.Tells declared mentioned) : o = o' := by
  cases H <;> cases H' <;> first | rfl | contradiction

namespace Node

open Expression (candidates references)

variable {rules : List Rule} {r : Rule} {d : Dependency} {id name : String} {known : String → Bool}

/-! ## What a node records -/

/-- A node says of a rule what group it is in and which of the other rules it depends on. -/
structure Records (n : Node) (rules : List Rule) (r : Rule) : Prop where
  id_eq : n.id = r.target
  group_eq : n.group = normalizeGroupName r.group
  ascending : n.dependencyIds.Pairwise (· < ·)
  mem_dependencyIds_iff : ∀ id, id ∈ n.dependencyIds ↔
    id ≠ r.target ∧ id ∈ rules.map (·.target) ∧
      (id ∈ r.dependsOn.map Text.trim ∨ id ∈ candidates r.expression)
  tells : ∀ d ∈ n.dependencies,
    d.origin.Tells (d.id ∈ r.dependsOn.map Text.trim) (d.id ∈ candidates r.expression)

/-- Nodes record some rules: each target once, in the order in which the targets come up. -/
structure RecordAll (nodes : List Node) (rules : List Rule) : Prop where
  mem_ids_iff : ∀ t, t ∈ nodes.map (·.id) ↔ t ∈ rules.map (·.target)
  pairwise_first : nodes.Pairwise fun m n =>
    (rules.map (·.target)).idxOf m.id < (rules.map (·.target)).idxOf n.id
  /-- Of several definitions of a target the first one is recorded. -/
  exists_records : ∀ n ∈ nodes, ∃ r, rules.find? (·.target = n.id) = some r ∧ n.Records rules r

theorem tells_originOf {declared mentioned : Bool} (h : declared ∨ mentioned) :
    (originOf declared mentioned).Tells declared mentioned := by
  cases declared with
  | false =>
    obtain rfl := h.resolve_left Bool.false_ne_true
    exact .inferred Bool.false_ne_true rfl
  | true =>
    cases mentioned with
    | false => exact .explicit rfl Bool.false_ne_true
    | true => exact .both rfl rfl

theorem tells_ofRule (hd : d ∈ (ofRule known r).dependencies) :
    d.origin.Tells (d.id ∈ r.dependsOn.map Text.trim) (d.id ∈ candidates r.expression) := by
  obtain ⟨hne, hknown, hsource⟩ := mem_dependencyIds_ofRule.mp (List.mem_map_of_mem hd)
  obtain ⟨id, -, rfl⟩ := List.mem_map.mp hd
  -- A dependency is known and not the rule itself, so dropping other names does not lose it.
  have hdeclared : (declaredIds r known).contains id ↔ id ∈ r.dependsOn.map Text.trim := by
    rw [List.contains_iff_mem, mem_declaredIds]
    exact and_iff_left ⟨hne, hknown⟩
  have hmentioned : (references r.expression known r.target).contains id ↔
      id ∈ candidates r.expression := by
    rw [List.contains_iff_mem, mem_references]
    exact and_iff_left ⟨hne, hknown⟩
  rw [← hdeclared, ← hmentioned] at hsource ⊢
  exact tells_originOf hsource

theorem mem_dependencies_ofRule :
    d ∈ (ofRule known r).dependencies ↔ d.id ∈ (ofRule known r).dependencyIds ∧
      d.origin.Tells (d.id ∈ r.dependsOn.map Text.trim) (d.id ∈ candidates r.expression) := by
  constructor
  · exact fun hd => ⟨List.mem_map_of_mem hd, tells_ofRule hd⟩
  · rintro ⟨hid, htells⟩
    obtain ⟨e, he, hsame⟩ := List.mem_map.mp hid
    have hkept := tells_ofRule he
    rw [hsame] at hkept
    have hde : d = e := by
      cases d
      cases e
      cases hsame
      exact congrArg _ (htells.unique hkept)
    exact hde ▸ he

theorem records_ofRule (rules : List Rule) (r : Rule) :
    (ofRule (isTarget rules) r).Records rules r where
  id_eq := rfl
  group_eq := rfl
  ascending := ascending_dependencyIds _ r
  mem_dependencyIds_iff id := by rw [mem_dependencyIds_ofRule, isTarget_iff]
  tells _ hd := tells_ofRule hd

/-- **The nodes of some rules record them all.** -/
theorem recordAll_ofRules (rules : List Rule) : RecordAll (ofRules rules) rules where
  mem_ids_iff _ := mem_map_id_ofRules
  pairwise_first := by
    have hids : (ofRules rules).map (·.id) = (rules.map (·.target)).eraseDups := by
      rw [map_id_ofRules, eraseDups_map]
      rfl
    have hfirst := pairwise_idxOf_eraseDups (rules.map (·.target))
    rwa [← hids, List.pairwise_map] at hfirst
  exists_records n hn := by
    obtain ⟨r, hr, rfl⟩ := mem_ofRules.mp hn
    exact ⟨r, hr, records_ofRule rules r⟩

/-! ## Declared names -/

/-- What a rule depends on for declaring a name, when it declares nothing else and mentions
nothing. -/
def contributed (known : String → Bool) (r : Rule) (name : String) : List String :=
  (ofRule known { r with expression := "", dependsOn := [name] }).dependencyIds

theorem candidates_empty : candidates "" = [] := by
  have hblank : Expression.blankLiterals [] = [] := by
    rw [Expression.blankLiterals, Text.Pattern.replaceAll, Text.Pattern.split, List.flatMap_nil]
  have hfind : Expression.ruleName.findAll [] = [] := by
    rw [Text.Pattern.findAll, Text.Pattern.split, List.filterMap_nil]
  rw [candidates, String.toList_empty, hblank, hfind, List.map_nil, List.eraseDups_nil]

theorem mem_contributed :
    id ∈ contributed known r name ↔ id = Text.trim name ∧ id ≠ r.target ∧ known id := by
  rw [contributed, mem_dependencyIds_ofRule, candidates_empty, List.map_singleton,
    List.mem_singleton]
  simp only [List.not_mem_nil, or_false]
  tauto

/-- The declared dependencies of a rule are what the names that it declares contribute. -/
theorem exists_isDeclared_iff :
    (∃ d ∈ (ofRule known r).dependencies, d.id = id ∧ d.origin.isDeclared) ↔
      ∃ name ∈ r.dependsOn, id ∈ contributed known r name := by
  simp only [mem_contributed]
  constructor
  · rintro ⟨d, hd, rfl, hdeclared⟩
    obtain ⟨hne, hknown, -⟩ := mem_dependencyIds_ofRule.mp (List.mem_map_of_mem hd)
    obtain ⟨name, hname, heq⟩ := List.mem_map.mp ((tells_ofRule hd).isDeclared_iff.mp hdeclared)
    exact ⟨name, hname, heq.symm, hne, hknown⟩
  · rintro ⟨name, hname, rfl, hne, hknown⟩
    have hmem : Text.trim name ∈ r.dependsOn.map Text.trim := List.mem_map_of_mem hname
    obtain ⟨d, hd, hid⟩ :=
      List.mem_map.mp (mem_dependencyIds_ofRule.mpr ⟨hne, hknown, .inl hmem⟩)
    exact ⟨d, hd, hid, (tells_ofRule hd).isDeclared_iff.mpr (hid ▸ hmem)⟩

/-- Another rule that is declared is depended on just if its target has no blank around it. -/
theorem exists_isDeclared_iff_trim_eq (hname : name ∈ r.dependsOn) (hne : name ≠ r.target)
    (hknown : known name) :
    (∃ d ∈ (ofRule known r).dependencies, d.id = name ∧ d.origin.isDeclared) ↔
      Text.trim name = name := by
  simp only [exists_isDeclared_iff, mem_contributed, hne, hknown, ne_eq, not_false_eq_true,
    and_true]
  constructor
  · rintro ⟨other, -, rfl⟩
    exact (Text.isTrimmed_trim other).trim_eq_self
  · intro htrim
    exact ⟨name, hname, htrim.symm⟩

/-- A rule that declares itself depends on nothing for this just if its target has no blank around
it, or no rule is called like what is left of it without the blanks. -/
theorem contributed_self_eq_nil_iff :
    contributed (isTarget rules) r r.target = [] ↔
      Text.trim r.target = r.target ∨ Text.trim r.target ∉ rules.map (·.target) := by
  rw [List.eq_nil_iff_forall_not_mem]
  simp only [mem_contributed, isTarget_iff]
  constructor
  · intro hnone
    exact or_iff_not_imp_left.mpr fun hne hmem => hnone _ ⟨rfl, hne, hmem⟩
  · rintro (htrim | hmissing) id ⟨rfl, hne, hmem⟩
    · exact hne htrim
    · exact hmissing hmem

/-- Some rules depend on all other rules that they declare, and for declaring themselves on none. -/
structure HonoursDeclared (rules : List Rule) : Prop where
  exists_isDeclared : ∀ r, rules.find? (·.target = r.target) = some r → ∀ name ∈ r.dependsOn,
    name ∈ rules.map (·.target) → name ≠ r.target →
      ∃ n ∈ ofRules rules, n.id = r.target ∧
        ∃ d ∈ n.dependencies, d.id = name ∧ d.origin.isDeclared
  contributed_self : ∀ r, rules.find? (·.target = r.target) = some r → r.target ∈ r.dependsOn →
    contributed (isTarget rules) r r.target = []

/-- There is one node for a rule that counts for its target. -/
theorem exists_mem_ofRules_iff (hr : rules.find? (·.target = r.target) = some r)
    {p : Node → Prop} :
    (∃ n ∈ ofRules rules, n.id = r.target ∧ p n) ↔ p (ofRule (isTarget rules) r) := by
  constructor
  · rintro ⟨n, hn, hid, hp⟩
    obtain ⟨r', hr', rfl⟩ := mem_ofRules.mp hn
    rw [hid, hr] at hr'
    obtain rfl := Option.some.inj hr'
    exact hp
  · intro hp
    exact ⟨_, mem_ofRules.mpr ⟨r, hr, rfl⟩, rfl, hp⟩

/-- **Declared rules are honoured just if trimming leaves their targets as they are**, or turns the
target of the rule that declares them into none. -/
theorem honoursDeclared_iff (rules : List Rule) :
    HonoursDeclared rules ↔ ∀ r, rules.find? (·.target = r.target) = some r →
      ∀ name ∈ r.dependsOn, name ∈ rules.map (·.target) →
        Text.trim name = name ∨ name = r.target ∧ Text.trim name ∉ rules.map (·.target) := by
  constructor
  · intro H r hr name hname hmem
    by_cases hself : name = r.target
    · subst hself
      have hcase := contributed_self_eq_nil_iff.mp (H.contributed_self r hr hname)
      exact hcase.imp_right fun hmissing => ⟨rfl, hmissing⟩
    · have hexists := H.exists_isDeclared r hr name hname hmem hself
      rw [exists_mem_ofRules_iff hr,
        exists_isDeclared_iff_trim_eq hname hself (isTarget_iff.mpr hmem)] at hexists
      exact .inl hexists
  · intro hall
    refine ⟨fun r hr name hname hmem hself => ?_, fun r hr hname => ?_⟩
    · rw [exists_mem_ofRules_iff hr,
        exists_isDeclared_iff_trim_eq hname hself (isTarget_iff.mpr hmem)]
      exact (hall r hr name hname hmem).resolve_right fun h => hself h.1
    · have hmem : r.target ∈ rules.map (·.target) :=
        List.mem_map_of_mem (List.mem_of_find?_eq_some hr)
      exact contributed_self_eq_nil_iff.mpr ((hall r hr _ hname hmem).imp_right And.right)

/-- A rule with a blank in front of its target is not depended on where it is declared, and where it
declares itself it depends on the rule for the rest of its target. -/
theorem not_honoursDeclared_of_padded :
    let rules : List Rule := [{ target := "Base", expression := "100" },
      { target := " Base", expression := "1", dependsOn := [" Base"] },
      { target := "Total", expression := "2", dependsOn := [" Base"] }]
    (ofRules rules).map (fun n => (n.id, n.dependencyIds)) =
        [("Base", []), (" Base", ["Base"]), ("Total", ["Base"])] ∧
      ¬HonoursDeclared rules := by
  intro rules
  refine ⟨by rw [ofRules_eq]; decide +kernel, fun H => ?_⟩
  have hmem : " Base" ∈ rules.map (·.target) := by decide
  have hexists := H.exists_isDeclared ⟨"Total", "2", [" Base"], {}⟩ rfl " Base"
    (List.mem_singleton.mpr rfl) hmem (by decide)
  rw [exists_mem_ofRules_iff (by rfl), exists_isDeclared_iff_trim_eq (List.mem_singleton.mpr rfl)
    (by decide) (isTarget_iff.mpr hmem)] at hexists
  exact absurd hexists (by decide +kernel)

end Node

end RulePyramid
