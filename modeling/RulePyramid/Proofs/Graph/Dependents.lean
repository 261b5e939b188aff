import RulePyramid.Proofs.Graph.Edges

/-!
The rules that depend on one. Halving finds an id among dependencies in ascending order
(`Node.searchHalves_iff`), and the dependencies of a rule are in this order; so the dependents of an
id are the targets of the edges that start there, in the same order (`dependentsOf_ofRules`).
-/

namespace RulePyramid

/-! ## Searching dependencies -/

namespace Node

variable {n : Node} {id : String}

/-- In ascending order an id can only be on its own side of the middle. -/
theorem searchHalves_iff {ds : List Dependency} (h : ds.Pairwise fun d e => d.id < e.id) :
    searchHalves id ds ↔ ∃ d ∈ ds, d.id = id := by
  induction ds using searchHalves.induct_unfolding id with
  | case1 ds hdrop =>
    have hnil : ds = [] := by
      rw [List.drop_eq_nil_iff] at hdrop
      exact List.length_eq_zero_iff.mp (by omega)
    simp [hnil]
  | case2 ds d rest hdrop _ _ hid =>
    have hd : d ∈ ds := List.mem_of_mem_drop (hdrop ▸ List.mem_cons_self)
    exact iff_of_true rfl ⟨d, hd, hid.symm⟩
  | case3 ds d rest hdrop _ _ hid hlt ih =>
    have hsplit := List.take_append_drop (ds.length / 2) ds
    rw [hdrop] at hsplit
    rw [← hsplit, List.pairwise_append, List.pairwise_cons] at h
    obtain ⟨htake, ⟨hrest, -⟩, -⟩ := h
    rw [ih htake]
    refine ⟨fun ⟨e, he, heq⟩ => ⟨e, List.mem_of_mem_take he, heq⟩, ?_⟩
    rintro ⟨e, he, rfl⟩
    rw [← hsplit, List.mem_append, List.mem_cons] at he
    rcases he with he | rfl | he
    · exact ⟨e, he, rfl⟩
    · exact (hid rfl).elim
    · exact (lt_asymm hlt (hrest e he)).elim
  | case4 ds d rest hdrop _ _ hid hlt ih =>
    have hsplit := List.take_append_drop (ds.length / 2) ds
    rw [hdrop] at hsplit
    rw [← hsplit, List.pairwise_append, List.pairwise_cons] at h
    obtain ⟨-, ⟨-, hrest⟩, hbelow⟩ := h
    rw [ih hrest]
    refine ⟨fun ⟨e, he, heq⟩ => ⟨e, ?_, heq⟩, ?_⟩
    · rw [← hsplit]
      exact List.mem_append_right _ (List.mem_cons_of_mem _ he)
    rintro ⟨e, he, rfl⟩
    rw [← hsplit, List.mem_append, List.mem_cons] at he
    rcases he with he | rfl | he
    · exact (hlt (hbelow e he d List.mem_cons_self)).elim
    · exact (hid rfl).elim
    · exact ⟨e, he, rfl⟩

theorem dependsOn_iff (h : n.dependencyIds.Pairwise (· < ·)) :
    n.dependsOn id ↔ id ∈ n.dependencyIds := by
  rw [dependencyIds, List.pairwise_map] at h
  rw [dependsOn, searchHalves_iff h, dependencyIds, List.mem_map]

end Node

/-! ## Dependents -/

namespace RuleGraph

variable {g : RuleGraph} {rules : List Rule} {d t : String}

theorem WellFormed.ascending_dependentsOf (H : g.WellFormed) (d : String) :
    (g.dependentsOf d).Pairwise (· < ·) :=
  sortsBy_ids.ascending_mergeSort (H.nodup_ids.sublist (List.filter_sublist.map _))

theorem WellFormed.mem_dependentsOf (H : g.WellFormed) :
    t ∈ g.dependentsOf d ↔ ∃ n, g.get? t = some n ∧ n.dependsOn d := by
  simp only [dependentsOf, List.mem_mergeSort, List.mem_map, List.mem_filter, H.get?_eq_some_iff]
  exact exists_congr fun n => and_right_comm

theorem get?_dependsOn_iff :
    (∃ n, (ofRules rules).get? t = some n ∧ n.dependsOn d) ↔
      ∃ n, (ofRules rules).get? t = some n ∧ d ∈ n.dependencyIds := by
  refine exists_congr fun n => and_congr_right fun hn => Node.dependsOn_iff ?_
  exact ascending_dependencyIds_ofRules ((WellFormed.ofRules rules).get?_eq_some_iff.mp hn).1

theorem mem_dependentsOf_ofRules :
    t ∈ (ofRules rules).dependentsOf d ↔ ⟨d, t⟩ ∈ (ofRules rules).edges := by
  rw [(WellFormed.ofRules rules).mem_dependentsOf, get?_dependsOn_iff, mem_edges_ofRules]

/-- The dependents of an id are where the edges from it lead, in the order of the edges. -/
theorem dependentsOf_ofRules (rules : List Rule) (d : String) :
    (ofRules rules).dependentsOf d =
      ((ofRules rules).edges.filter (·.source = d)).map (·.target) := by
  have htargets : (((ofRules rules).edges.filter (·.source = d)).map (·.target)).Pairwise
      (· < ·) := by
    rw [List.pairwise_map, List.pairwise_filter]
    refine (ascending_edges_ofRules rules).imp fun {e f} hlt he hf => ?_
    rcases Prod.Lex.toLex_lt_toLex.mp hlt with hsource | ⟨-, htarget⟩
    · rw [of_decide_eq_true he, of_decide_eq_true hf] at hsource
      exact (lt_irrefl _ hsource).elim
    · exact htarget
  refine Ascending.ext ((WellFormed.ofRules rules).ascending_dependentsOf d) htargets fun t => ?_
  rw [mem_dependentsOf_ofRules, List.mem_map]
  constructor
  · exact fun he => ⟨⟨d, t⟩, List.mem_filter.mpr ⟨he, decide_eq_true rfl⟩, rfl⟩
  · rintro ⟨⟨source, target⟩, he, rfl⟩
    obtain ⟨hmem, hsource⟩ := List.mem_filter.mp he
    obtain rfl : source = d := of_decide_eq_true hsource
    exact hmem

end RuleGraph
end RulePyramid
