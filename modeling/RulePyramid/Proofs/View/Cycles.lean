import RulePyramid.Proofs.Graph.Cycles
import RulePyramid.Proofs.View.Completeness

/-!
The arrows that are marked as part of a cycle. An arrow is marked when both its ends are in one of
the reported cycles, and since no rule depends on itself, this is so just if its source can be
reached back from its target (`WellFormed.joinsCycle_iff_reaches`). So the marked arrows are those
on cycles of arrows, what is left without them has no cycle, and the ends of the marked arrows are
the rules in the report (`flagsCycles_componentsGraph`).
-/

namespace RulePyramid

/-! ## Cycles and edges of a graph -/

namespace RuleGraph

variable {g : RuleGraph} {cycles : List (List String)} {ids ids' : List String} {id : String}
  {e : Edge} {i j : Nat}

theorem exists_of_cycleOf?_eq_some (h : cycleOf? cycles id = some i) :
    ∃ ids, cycles[i]? = some ids ∧ id ∈ ids := by
  obtain ⟨⟨ids, j⟩, hfind, rfl⟩ := Option.map_eq_some_iff.mp h
  have hmem := List.mem_reverse.mp (List.mem_of_find?_eq_some hfind)
  have hid := List.find?_some hfind
  exact ⟨ids, List.mem_zipIdx_iff_getElem?.mp hmem, List.contains_iff_mem.mp hid⟩

theorem exists_cycleOf? (h : ids ∈ cycles) (hid : id ∈ ids) : ∃ i, cycleOf? cycles id = some i := by
  obtain ⟨i, hi⟩ := List.mem_iff_getElem?.mp h
  rw [← Option.isSome_iff_exists, cycleOf?, Option.isSome_map, List.find?_isSome]
  exact ⟨(ids, i), List.mem_reverse.mpr (List.mem_zipIdx_iff_getElem?.mpr hi),
    List.contains_iff_mem.mpr hid⟩

namespace WellFormed

/-- An id is in one cycle at most. -/
theorem cycle_unique (H : g.WellFormed) (hi : g.cycles[i]? = some ids)
    (hj : g.cycles[j]? = some ids') (hid : id ∈ ids) (hid' : id ∈ ids') : i = j := by
  have hcycle := H.mem_cycles.mp (List.mem_of_getElem? hi)
  have hcycle' := H.mem_cycles.mp (List.mem_of_getElem? hj)
  obtain rfl := hcycle.eq_of_mem hcycle' hid hid'
  obtain ⟨hlt, -⟩ := List.getElem?_eq_some_iff.mp hi
  exact (List.getElem?_inj hlt H.ascending_cycles.nodup).mp (hi.trans hj.symm)

theorem joinsCycle_iff (H : g.WellFormed) :
    joinsCycle g.cycles e ↔ ∃ ids ∈ g.cycles, e.source ∈ ids ∧ e.target ∈ ids := by
  rw [joinsCycle]
  constructor
  · intro h
    split at h
    · next i j hi hj =>
      obtain rfl := of_decide_eq_true h
      obtain ⟨ids, hids, hsource⟩ := exists_of_cycleOf?_eq_some hi
      obtain ⟨ids', hids', htarget⟩ := exists_of_cycleOf?_eq_some hj
      cases hids.symm.trans hids'
      exact ⟨ids, List.mem_of_getElem? hids, hsource, htarget⟩
    · cases h
  · rintro ⟨ids, hids, hsource, htarget⟩
    obtain ⟨i, hi⟩ := exists_cycleOf? hids hsource
    obtain ⟨j, hj⟩ := exists_cycleOf? hids htarget
    obtain ⟨k, hk⟩ := List.mem_iff_getElem?.mp hids
    obtain ⟨_, hk', hsource'⟩ := exists_of_cycleOf?_eq_some hi
    obtain ⟨_, hk'', htarget'⟩ := exists_of_cycleOf?_eq_some hj
    have hik : i = k := H.cycle_unique hk' hk hsource' hsource
    have hjk : j = k := H.cycle_unique hk'' hk htarget' htarget
    rw [hi, hj]
    exact decide_eq_true (hik.trans hjk.symm)

/-- An edge joins two rules of a cycle just if the way back leads from its target to its source. -/
theorem joinsCycle_iff_reaches (H : g.WellFormed) (he : e ∈ g.edges) (hne : e.source ≠ e.target) :
    joinsCycle g.cycles e ↔ g.Reaches e.target e.source := by
  rw [H.joinsCycle_iff]
  constructor
  · rintro ⟨ids, hids, hsource, htarget⟩
    exact ((((H.mem_cycles.mp hids).mem_iff hsource).mp htarget).resolve_left hne.symm).2
  · intro hback
    obtain ⟨ids, hcycle, hmem⟩ := exists_isCycle H hne ⟨.single he, hback⟩
    exact ⟨ids, H.mem_cycles.mpr hcycle, hmem⟩

/-- From a rule in a cycle an edge leads on to where the way leads back. -/
theorem exists_edge_of_mem_cycles (H : g.WellFormed) (hids : ids ∈ g.cycles) (hid : id ∈ ids) :
    ∃ b, g.LeadsTo id b ∧ Relation.ReflTransGen g.LeadsTo b id := by
  obtain ⟨-, a, b, -, hmutual, hmem⟩ := H.mem_cycles.mp hids
  obtain ⟨c, hout, hback⟩ : ∃ c, g.Mutual id c := by
    rcases (hmem id).mp hid with rfl | h
    · exact ⟨b, hmutual⟩
    · exact ⟨a, h.symm⟩
  obtain ⟨d, hedge, hon⟩ := Relation.TransGen.head'_iff.mp hout
  exact ⟨d, hedge, hon.trans hback.to_reflTransGen⟩

end WellFormed

/-- No rule depends on itself. -/
theorem source_ne_target_of_mem_edges_ofRules {rules : List Rule} (he : e ∈ (ofRules rules).edges) :
    e.source ≠ e.target := by
  obtain ⟨n, hn, hd⟩ := mem_edges_ofRules.mp he
  rw [(WellFormed.ofRules rules).get?_eq_some_iff, toList_ofRules, Node.mem_ofRules] at hn
  obtain ⟨⟨r, -, rfl⟩, hid⟩ := hn
  exact fun h => (Node.mem_dependencyIds_ofRule.mp hd).1 (h.trans hid.symm)

end RuleGraph

/-! ## Arrows of a view -/

variable {α : Type}

namespace View

/-- An arrow leads from one box to another. -/
def LeadsTo (v : View α) (a b : String) : Prop := ∃ e ∈ v.edges, e.source = a ∧ e.target = b

/-- An arrow that is not marked leads from one box to another. -/
def LeadsOff (v : View α) (a b : String) : Prop :=
  ∃ e ∈ v.edges, e.inCycle = false ∧ e.source = a ∧ e.target = b

/-- The marks of a view tell the arrows that are on a cycle. -/
structure FlagsCycles (v : View α) : Prop where
  inCycle_iff : ∀ e ∈ v.edges,
    e.inCycle = true ↔ Relation.ReflTransGen v.LeadsTo e.target e.source
  /-- The arrows without a mark form no cycle. -/
  acyclic : ∀ a, ¬Relation.TransGen v.LeadsOff a a
  /-- The ends of a marked arrow are in one cycle of the report each. -/
  existsUnique_cycle : ∀ e ∈ v.edges, e.inCycle = true → ∀ a, a = e.source ∨ a = e.target →
    ∃! i : Nat, ∃ ids, v.cycles[i]? = some ids ∧ a ∈ ids
  /-- What is in the report is an end of a marked arrow. -/
  exists_flagged : ∀ ids ∈ v.cycles, ∀ a ∈ ids,
    ∃ e ∈ v.edges, e.inCycle = true ∧ (a = e.source ∨ a = e.target)

end View

namespace RuleGraph

variable [Scalar α] {g : RuleGraph} {catalog : Catalog} {config : LayoutConfig α} {x : ViewEdge α}

namespace WellFormed

/-- An arrow has its edge, and the mark that the edge deserves. -/
theorem edge_of_mem_edges_view (H : g.WellFormed) (hx : x ∈ (g.view catalog config).edges) :
    ⟨x.source, x.target⟩ ∈ g.edges ∧ x.inCycle = joinsCycle g.cycles ⟨x.source, x.target⟩ := by
  obtain ⟨e, he, hx⟩ := H.mem_edges_view.mp hx
  obtain ⟨p, q, o, -, -, -, rfl⟩ := Scene.edge?_eq_ok_some_iff.mp hx
  exact ⟨he, rfl⟩

theorem leadsTo_view (H : g.WellFormed) (catalog : Catalog) (config : LayoutConfig α) :
    (g.view catalog config).LeadsTo = g.LeadsTo := by
  funext a b
  rw [View.LeadsTo, LeadsTo, ← H.map_edges_view catalog config, List.mem_map]
  simp only [Edge.mk.injEq]

theorem inCycle_iff (H : g.WellFormed) (hloop : ∀ e ∈ g.edges, e.source ≠ e.target)
    (hx : x ∈ (g.view catalog config).edges) :
    x.inCycle = true ↔ Relation.ReflTransGen g.LeadsTo x.target x.source := by
  obtain ⟨he, hflag⟩ := H.edge_of_mem_edges_view hx
  have hne := hloop _ he
  rw [hflag, H.joinsCycle_iff_reaches he hne, Reaches, Relation.reflTransGen_iff_eq_or_transGen]
  exact (or_iff_right hne).symm

/-- The view of a graph without loops flags its cycles. -/
theorem flagsCycles_view (H : g.WellFormed) (hloop : ∀ e ∈ g.edges, e.source ≠ e.target)
    (catalog : Catalog) (config : LayoutConfig α) : (g.view catalog config).FlagsCycles where
  inCycle_iff x hx := by
    rw [H.leadsTo_view]
    exact H.inCycle_iff hloop hx
  acyclic a hcycle := by
    -- The first arrow of a cycle is on a cycle, so it is marked.
    obtain ⟨b, ⟨x, hx, hflag, rfl, rfl⟩, hback⟩ := Relation.TransGen.head'_iff.mp hcycle
    have hback : Relation.ReflTransGen g.LeadsTo x.target x.source := by
      rw [← H.leadsTo_view catalog config]
      exact hback.lift id fun _ _ ⟨y, hy, _, hends⟩ => ⟨y, hy, hends⟩
    rw [(H.inCycle_iff hloop hx).mpr hback] at hflag
    cases hflag
  existsUnique_cycle x hx hflag a ha := by
    obtain ⟨-, hjoins⟩ := H.edge_of_mem_edges_view hx
    obtain ⟨ids, hids, hsource, htarget⟩ := H.joinsCycle_iff.mp (hjoins.symm.trans hflag)
    have hmem : a ∈ ids := by
      rcases ha with rfl | rfl
      · exact hsource
      · exact htarget
    obtain ⟨i, hi⟩ := List.mem_iff_getElem?.mp hids
    refine ⟨i, ⟨ids, hi, hmem⟩, ?_⟩
    rintro j ⟨ids', hj, hmem'⟩
    exact H.cycle_unique hj hi hmem' hmem
  exists_flagged ids hids a ha := by
    obtain ⟨b, hedge, hback⟩ := H.exists_edge_of_mem_cycles hids ha
    rw [← H.leadsTo_view catalog config] at hedge
    obtain ⟨x, hx, rfl, rfl⟩ := hedge
    exact ⟨x, hx, (H.inCycle_iff hloop hx).mpr hback, .inl rfl⟩

end WellFormed
end RuleGraph

/-- **The marks of the view of some rules are exact**: an arrow is marked just if it is on a cycle of
arrows, and the rules on such cycles are those that are reported. -/
theorem flagsCycles_componentsGraph [Scalar α] (rules : List Rule) (catalog : Catalog)
    (config : LayoutConfig α) : (componentsGraph rules catalog config).FlagsCycles :=
  (RuleGraph.WellFormed.ofRules rules).flagsCycles_view
    (fun _ he => RuleGraph.source_ne_target_of_mem_edges_ofRules he) catalog config

end RulePyramid
