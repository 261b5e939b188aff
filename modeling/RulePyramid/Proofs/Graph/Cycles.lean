import RulePyramid.Proofs.Graph.Components

/-!
The report of cycles. Whatever nodes a graph was built from, its cycles are the classes of at least
two ids that reach each other (`WellFormed.mem_cycles`), each class once and everything in ascending
order (`cycleReport_ofNodes`). So the report depends on the edges alone (`WellFormed.cycles_congr`).
-/

namespace RulePyramid
namespace RuleGraph

variable {g g' : RuleGraph} {a b : String} {i j : Nat} {ids : List String}

/-- The ids at some positions, in ascending order. -/
def idsAt (g : RuleGraph) (positions : List Nat) : List String :=
  (positions.filterMap fun i => g.nodes[i]?.map (·.id)).mergeSort

theorem cycles_eq (g : RuleGraph) :
    g.cycles = (g.cyclePositions.map g.idsAt).mergeSort idsLe := rfl

theorem mem_cyclePositions {positions : List Nat} :
    positions ∈ g.cyclePositions ↔
      ∃ i, (g.reach.component i).head? = some i ∧ g.reach.component i = positions ∧
        1 < positions.length := by
  simp only [cyclePositions, List.mem_filter, List.mem_map, List.mem_range, decide_eq_true_eq]
  constructor
  · rintro ⟨⟨i, ⟨-, hhead⟩, rfl⟩, hlen⟩
    exact ⟨i, hhead, rfl, hlen⟩
  · rintro ⟨i, hhead, rfl, hlen⟩
    have hi := (Reach.mem_component.mp (List.mem_of_head? hhead)).1
    exact ⟨⟨i, ⟨hi, hhead⟩, rfl⟩, hlen⟩

theorem one_lt_length_iff {is : List Nat} (hnodup : is.Nodup) (hi : i ∈ is) :
    1 < is.length ↔ ∃ j ∈ is, j ≠ i := by
  cases is with
  | nil => cases hi
  | cons k is =>
    cases is with
    | nil => simp_all
    | cons l is =>
      have hkl : k ≠ l := fun h => (List.nodup_cons.mp hnodup).1 (h ▸ List.mem_cons_self)
      simp only [List.length_cons, Nat.lt_add_left_iff_pos, Nat.succ_pos, true_iff]
      by_cases hik : k = i
      · exact ⟨l, by simp, hik ▸ hkl.symm⟩
      · exact ⟨k, by simp, hik⟩

/-- The ids form a cycle: they are an id and all others that reach each other with it, and there is
such another one. -/
def IsCycle (g : RuleGraph) (ids : List String) : Prop :=
  ids.Pairwise (· < ·) ∧ ∃ a b, a ≠ b ∧ g.Mutual a b ∧ ∀ c, c ∈ ids ↔ c = a ∨ g.Mutual a c

namespace WellFormed

theorem contains_of_reaches (H : g.WellFormed) (h : g.Reaches a b) : g.contains a := by
  obtain ⟨c, hac, -⟩ := Relation.TransGen.head'_iff.mp h
  exact (H.contains_of_mem_edges hac).1

theorem exists_id (H : g.WellFormed) (h : i < g.reach.size) :
    ∃ a : String, g.index[a]? = some i := by
  rw [reach, Reach.size_close, Array.size_map] at h
  exact ⟨g.nodes[i].id, (H.index_iff _ i).mpr ⟨g.nodes[i], Array.getElem?_eq_getElem h, rfl⟩⟩

theorem mem_idsAt (H : g.WellFormed) {positions : List Nat} :
    a ∈ g.idsAt positions ↔ ∃ i ∈ positions, g.index[a]? = some i := by
  simp only [idsAt, List.mem_mergeSort, List.mem_filterMap, Option.map_eq_some_iff, H.index_iff]

theorem ascending_idsAt (H : g.WellFormed) {positions : List Nat} (h : positions.Nodup) :
    (g.idsAt positions).Pairwise (· < ·) := by
  refine sortsBy_ids.ascending_mergeSort (h.filterMap fun i j a hi hj => ?_)
  rw [Option.mem_def, Option.map_eq_some_iff] at hi hj
  obtain ⟨n, hn, rfl⟩ := hi
  obtain ⟨m, hm, hid⟩ := hj
  exact H.position_unique hn hm hid.symm

theorem mem_idsAt_component (H : g.WellFormed) (ha : g.index[a]? = some i) :
    b ∈ g.idsAt (g.reach.component i) ↔ b = a ∨ g.Mutual a b := by
  rw [H.mem_idsAt]
  constructor
  · rintro ⟨j, hj, hb⟩
    exact (H.mem_component_iff ha hb).mp hj
  · intro h
    obtain ⟨j, hb⟩ : ∃ j, g.index[b]? = some j := by
      rcases h with rfl | h
      · exact ⟨i, ha⟩
      · exact exists_index (H.contains_of_reaches h.2)
    exact ⟨j, (H.mem_component_iff ha hb).mpr h, hb⟩

theorem mem_cycles (H : g.WellFormed) : ids ∈ g.cycles ↔ g.IsCycle ids := by
  rw [cycles_eq, List.mem_mergeSort, List.mem_map]
  constructor
  · rintro ⟨positions, hpos, rfl⟩
    obtain ⟨i, hhead, rfl, hlen⟩ := mem_cyclePositions.mp hpos
    have hi := List.mem_of_head? hhead
    obtain ⟨j, hj, hji⟩ := (one_lt_length_iff (Reach.nodup_component _ i) hi).mp hlen
    obtain ⟨a, ha⟩ := H.exists_id (Reach.mem_component.mp hi).1
    obtain ⟨b, hb⟩ := H.exists_id (Reach.mem_component.mp hj).1
    have hba : b ≠ a := fun h => hji (Option.some.inj (hb.symm.trans (h ▸ ha)))
    have hmutual := ((H.mem_component_iff ha hb).mp hj).resolve_left hba
    exact ⟨H.ascending_idsAt (Reach.nodup_component _ i), a, b, hba.symm, hmutual,
      fun c => H.mem_idsAt_component ha⟩
  · rintro ⟨hsorted, a, b, hab, hmutual, hmem⟩
    obtain ⟨i, ha⟩ := exists_index (H.contains_of_reaches hmutual.1)
    obtain ⟨j, hb⟩ := exists_index (H.contains_of_reaches hmutual.2)
    -- The component of `a` is listed under its first position.
    have hi : i ∈ g.reach.component i := Reach.self_mem_component (H.lt_size_of_index ha)
    have hhead := List.head?_eq_some_head (List.ne_nil_of_mem hi)
    have hsame := Reach.component_eq_of_mem (passesThrough_reach g) (List.mem_of_head? hhead)
    have hlen : 1 < (g.reach.component i).length := by
      have hj : j ∈ g.reach.component i := (H.mem_component_iff ha hb).mpr (.inr hmutual)
      refine (one_lt_length_iff (Reach.nodup_component _ i) hi).mpr ⟨j, hj, fun hji => hab ?_⟩
      exact H.id_unique ha (hji ▸ hb)
    refine ⟨g.reach.component i, mem_cyclePositions.mpr ⟨_, ?_, hsame, hlen⟩, ?_⟩
    · rw [hsame, hhead]
    · exact Ascending.ext (H.ascending_idsAt (Reach.nodup_component _ i)) hsorted fun c =>
        (H.mem_idsAt_component ha).trans (hmem c).symm

/-- There are no cycles where all edges lead upwards in some order. -/
theorem cycles_eq_nil (H : g.WellFormed) {below : String → String → Prop}
    [IsStrictOrder String below] (hedges : ∀ a b, g.LeadsTo a b → below a b) : g.cycles = [] := by
  refine List.eq_nil_iff_forall_not_mem.mpr fun ids hids => ?_
  obtain ⟨-, a, b, -, hmutual, -⟩ := H.mem_cycles.mp hids
  exact irrefl a (Relation.transGen_minimal hedges a a (hmutual.1.trans hmutual.2))

/-- Each component is listed once. -/
theorem ascending_cycles (H : g.WellFormed) : Ascending id g.cycles := by
  refine sortsBy_idLists.ascending_mergeSort ?_
  have hleads : (((List.range g.reach.size).filter fun i =>
      (g.reach.component i).head? = some i).map fun i => g.idsAt (g.reach.component i)).Nodup := by
    refine (List.nodup_range.filter _).map_on fun i hi j hj hids => ?_
    simp only [List.mem_filter, List.mem_range, decide_eq_true_eq] at hi hj
    obtain ⟨a, ha⟩ := H.exists_id hi.1
    have hmem : a ∈ g.idsAt (g.reach.component j) :=
      hids ▸ (H.mem_idsAt_component ha).mpr (.inl rfl)
    obtain ⟨k, hk, ha'⟩ := H.mem_idsAt.mp hmem
    cases Option.some.inj (ha.symm.trans ha')
    have hsame := Reach.component_eq_of_mem (passesThrough_reach g) hk
    exact Option.some.inj (hi.2.symm.trans (hsame ▸ hj.2))
  rw [← Function.comp_def, ← List.map_map] at hleads
  exact hleads.sublist (List.filter_sublist.map g.idsAt)

/-- Graphs with the same edges have the same cycles. -/
theorem cycles_congr (H : g.WellFormed) (H' : g'.WellFormed) (h : g.edges = g'.edges) :
    g.cycles = g'.cycles := by
  have hmutual : g.Mutual = g'.Mutual := by
    unfold Mutual Reaches LeadsTo
    rw [h]
  refine H.ascending_cycles.ext H'.ascending_cycles fun ids => ?_
  rw [H.mem_cycles, H'.mem_cycles, IsCycle, IsCycle, hmutual]

end WellFormed

/-! ## Cycles as classes -/

namespace IsCycle

variable {c d : String} {ids' : List String}

/-- A cycle is the same seen from each of its members. -/
theorem mem_iff (h : g.IsCycle ids) (hc : c ∈ ids) : d ∈ ids ↔ d = c ∨ g.Mutual c d := by
  obtain ⟨-, a, b, -, -, hmem⟩ := h
  rw [hmem]
  rcases (hmem c).mp hc with rfl | hac
  · rfl
  constructor
  · rintro (rfl | had)
    · exact .inr hac.symm
    · exact .inr (hac.symm.trans had)
  · rintro (rfl | hcd)
    · exact .inr hac
    · exact .inr (hac.trans hcd)

theorem eq_of_mem (h : g.IsCycle ids) (h' : g.IsCycle ids') (hc : c ∈ ids) (hc' : c ∈ ids') :
    ids = ids' :=
  Ascending.ext h.1 h'.1 fun _ => (h.mem_iff hc).trans (h'.mem_iff hc').symm

theorem two_le_length (h : g.IsCycle ids) : 2 ≤ ids.length := by
  obtain ⟨-, a, b, hab, hmutual, hmem⟩ := h
  have ha := (hmem a).mpr (.inl rfl)
  have hb := (hmem b).mpr (.inr hmutual)
  match ids, ha, hb with
  | [_], ha, hb =>
    rw [List.mem_singleton] at ha hb
    exact (hab (ha.trans hb.symm)).elim
  | _ :: _ :: _, _, _ => simp

end IsCycle

/-- The cycle of two ids that reach each other. -/
theorem exists_isCycle (H : g.WellFormed) (hab : a ≠ b) (h : g.Mutual a b) :
    ∃ ids, g.IsCycle ids ∧ a ∈ ids ∧ b ∈ ids := by
  obtain ⟨i, ha⟩ := exists_index (H.contains_of_reaches h.1)
  have hmem : ∀ c, c ∈ g.idsAt (g.reach.component i) ↔ c = a ∨ g.Mutual a c := fun _ =>
    H.mem_idsAt_component ha
  exact ⟨g.idsAt (g.reach.component i),
    ⟨H.ascending_idsAt (Reach.nodup_component _ i), a, b, hab, h, hmem⟩,
    (hmem a).mpr (.inl rfl), (hmem b).mpr (.inr h)⟩

/-- What a report of cycles has to say about a graph. -/
structure CycleReport (g : RuleGraph) (report : List (List String)) : Prop where
  /-- Two ids are reported together exactly if each is reached from the other along the edges. -/
  together_iff : ∀ a b, a ≠ b →
    ((∃ ids ∈ report, a ∈ ids ∧ b ∈ ids) ↔ g.Reaches a b ∧ g.Reaches b a)
  several : ∀ ids ∈ report, 2 ≤ ids.length
  idsAscend : ∀ ids ∈ report, ids.Pairwise (· < ·)
  disjoint : report.Pairwise List.Disjoint
  /-- The dictionary order of lists. -/
  listsAscend : report.Pairwise (List.Lex (· < ·))
  /-- Without two such ids there is nothing to report. -/
  empty_iff : report = [] ↔ ¬∃ a b, a ≠ b ∧ g.Reaches a b ∧ g.Reaches b a

/-- **The cycles of a graph are its components**, whatever nodes were added to it. -/
theorem cycleReport_ofNodes (nodes : List Node) :
    CycleReport (ofNodes nodes) (ofNodes nodes).cycles := by
  have H := WellFormed.ofNodes nodes
  have htogether : ∀ a b, a ≠ b → ((∃ ids ∈ (ofNodes nodes).cycles, a ∈ ids ∧ b ∈ ids) ↔
      (ofNodes nodes).Mutual a b) := by
    intro a b hab
    constructor
    · rintro ⟨ids, hids, ha, hb⟩
      exact (((H.mem_cycles.mp hids).mem_iff ha).mp hb).resolve_left hab.symm
    · intro h
      obtain ⟨ids, hids, hmem⟩ := exists_isCycle H hab h
      exact ⟨ids, H.mem_cycles.mpr hids, hmem⟩
  have hascend := H.ascending_cycles
  refine ⟨htogether, fun ids hids => (H.mem_cycles.mp hids).two_le_length,
    fun ids hids => (H.mem_cycles.mp hids).1, ?_, hascend, ?_⟩
  · refine List.Pairwise.imp_of_mem (fun hids hids' hlt c hc hc' => ?_) hascend
    have hsame := (H.mem_cycles.mp hids).eq_of_mem (H.mem_cycles.mp hids') hc hc'
    exact hlt.ne hsame
  · constructor
    · rintro hnil ⟨a, b, hab, hmutual⟩
      obtain ⟨ids, hids, -⟩ := (htogether a b hab).mpr hmutual
      rw [hnil] at hids
      cases hids
    · intro hnone
      refine List.eq_nil_iff_forall_not_mem.mpr fun ids hids => hnone ?_
      obtain ⟨-, a, b, hab, hmutual, -⟩ := H.mem_cycles.mp hids
      exact ⟨a, b, hab, hmutual⟩

end RuleGraph
end RulePyramid
