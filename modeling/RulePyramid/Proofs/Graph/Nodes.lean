import Std.Data.HashSet.Lemmas
import RulePyramid.Proofs.Graph.Index

/-!
The nodes that rules make. There is one node for each target, made from its first definition
(`Node.mem_ofRules`); its dependencies are in ascending order, and which they are depends only on
the set of names that the rule declares, on those that its expression mentions and on the targets
(`Node.mem_dependencyIds_ofRule`, `Node.ofRule_congr`).
-/

namespace RulePyramid
namespace Node

open Expression (candidates references)

variable {rules : List Rule} {r : Rule} {t d : String} {known : String → Bool}

/-! ## First definitions -/

theorem mem_firstDefinitions :
    r ∈ firstDefinitions rules ↔ rules.find? (·.target = r.target) = some r :=
  mem_eraseDupsBy_key _

theorem nodup_targets (rules : List Rule) : ((firstDefinitions rules).map (·.target)).Nodup := by
  rw [List.Nodup, List.pairwise_map]
  exact (pairwise_eraseDupsBy rules).imp fun h => (ne_of_beq_false h).symm

/-! ## Dependencies -/

theorem mem_declaredIds :
    d ∈ declaredIds r known ↔ d ∈ r.dependsOn.map Text.trim ∧ d ≠ r.target ∧ known d := by
  simp only [declaredIds, List.mem_filter, Bool.and_eq_true, decide_eq_true_eq]

theorem mem_references :
    d ∈ references r.expression known r.target ↔
      d ∈ candidates r.expression ∧ d ≠ r.target ∧ known d := by
  simp only [references, List.mem_mergeSort, List.mem_filter, Bool.and_eq_true, decide_eq_true_eq]

theorem dependencyIds_ofRule (known : String → Bool) (r : Rule) :
    (ofRule known r).dependencyIds =
      (declaredIds r known ++ references r.expression known r.target).eraseDups.mergeSort := by
  simp only [dependencyIds, ofRule, List.map_map, Function.comp_def, List.map_id']

theorem ascending_dependencyIds (known : String → Bool) (r : Rule) :
    (ofRule known r).dependencyIds.Pairwise (· < ·) := by
  rw [dependencyIds_ofRule]
  exact sortsBy_ids.ascending_mergeSort (nodup_eraseDups _)

/-- A rule depends on the known rules that it declares or mentions, and never on itself. -/
theorem mem_dependencyIds_ofRule :
    d ∈ (ofRule known r).dependencyIds ↔
      d ≠ r.target ∧ known d ∧ (d ∈ r.dependsOn.map Text.trim ∨ d ∈ candidates r.expression) := by
  rw [dependencyIds_ofRule, List.mem_mergeSort, List.mem_eraseDups, List.mem_append,
    mem_declaredIds, mem_references]
  tauto

/-- What a node says about a rule depends on the names that the rule declares as a set. -/
theorem ofRule_congr {r' : Rule} (htarget : r.target = r'.target)
    (hexpression : r.expression = r'.expression) (hgroup : r.group = r'.group)
    (hdeclared : ∀ d, d ∈ r.dependsOn.map Text.trim ↔ d ∈ r'.dependsOn.map Text.trim) :
    ofRule known r = ofRule known r' := by
  have hmem : ∀ d, d ∈ declaredIds r known ↔ d ∈ declaredIds r' known := fun d => by
    rw [mem_declaredIds, mem_declaredIds, hdeclared, htarget]
  have hids : (ofRule known r).dependencyIds = (ofRule known r').dependencyIds := by
    refine Ascending.ext (ascending_dependencyIds known r) (ascending_dependencyIds known r')
      fun d => ?_
    rw [mem_dependencyIds_ofRule, mem_dependencyIds_ofRule, hdeclared, htarget, hexpression]
  rw [dependencyIds_ofRule, dependencyIds_ofRule] at hids
  have hcontains : ∀ d, (declaredIds r known).contains d = (declaredIds r' known).contains d :=
    fun d => by rw [Bool.eq_iff_iff, List.contains_iff_mem, List.contains_iff_mem, hmem]
  simp only [ofRule, hids]
  simp only [hcontains, htarget, hexpression, hgroup]

/-! ## The nodes of some rules -/

/-- The targets of rules are the names that are known. -/
def isTarget (rules : List Rule) (name : String) : Bool := (rules.map (·.target)).contains name

theorem isTarget_iff : isTarget rules t ↔ t ∈ rules.map (·.target) := List.contains_iff_mem

theorem ofRules_eq (rules : List Rule) :
    ofRules rules = (firstDefinitions rules).map (ofRule (isTarget rules)) := by
  have hknown : (Std.HashSet.ofList (rules.map (·.target))).contains = isTarget rules :=
    funext fun _ => Std.HashSet.contains_ofList
  rw [ofRules, hknown]

/-- Where no target comes again there is a node for each rule. -/
theorem ofRules_of_nodup (h : (rules.map (·.target)).Nodup) :
    ofRules rules = rules.map (ofRule (isTarget rules)) := by
  have hfirst : firstDefinitions rules = rules := by
    refine eraseDupsBy_eq_self ((List.pairwise_map.mp h).imp fun hne => ?_)
    exact beq_eq_false_iff_ne.mpr hne.symm
  rw [ofRules_eq, hfirst]

theorem mem_ofRules {n : Node} :
    n ∈ ofRules rules ↔
      ∃ r, rules.find? (·.target = n.id) = some r ∧ n = ofRule (isTarget rules) r := by
  rw [ofRules_eq, List.mem_map]
  constructor
  · rintro ⟨r, hr, rfl⟩
    exact ⟨r, mem_firstDefinitions.mp hr, rfl⟩
  · rintro ⟨r, hr, rfl⟩
    exact ⟨r, mem_firstDefinitions.mpr hr, rfl⟩

theorem map_id_ofRules (rules : List Rule) :
    (ofRules rules).map (·.id) = (firstDefinitions rules).map (·.target) := by
  rw [ofRules_eq, List.map_map]
  rfl

theorem nodup_ids_ofRules (rules : List Rule) : ((ofRules rules).map (·.id)).Nodup := by
  rw [map_id_ofRules]
  exact nodup_targets rules

/-- There is a node for each target. -/
theorem mem_map_id_ofRules : t ∈ (ofRules rules).map (·.id) ↔ t ∈ rules.map (·.target) := by
  simp only [List.mem_map]
  constructor
  · rintro ⟨n, hn, rfl⟩
    obtain ⟨r, hr, -⟩ := mem_ofRules.mp hn
    have htarget := List.find?_some hr
    exact ⟨r, List.mem_of_find?_eq_some hr, of_decide_eq_true htarget⟩
  · rintro ⟨r, hr, rfl⟩
    have hsome : (rules.find? (·.target = r.target)).isSome := by
      rw [List.find?_isSome]
      exact ⟨r, hr, decide_eq_true rfl⟩
    obtain ⟨r', hr'⟩ := Option.isSome_iff_exists.mp hsome
    have htarget := List.find?_some hr'
    rw [decide_eq_true_eq] at htarget
    exact ⟨ofRule (isTarget rules) r', mem_ofRules.mpr ⟨r', by rwa [ofRule, htarget], rfl⟩, htarget⟩

end Node

/-- The graph of some rules has their nodes. -/
theorem RuleGraph.toList_ofRules (rules : List Rule) :
    (RuleGraph.ofRules rules).nodes.toList = Node.ofRules rules :=
  toList_ofNodes (Node.nodup_ids_ofRules rules)

end RulePyramid
