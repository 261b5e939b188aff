import Std.Data.HashMap.Lemmas
import RulePyramid.Proofs.Order

/-!
The index of a graph. However a graph was built, its index leads from each id to the position of the
one node with that id (`RuleGraph.WellFormed`), so looking an id up finds that node and no other
(`WellFormed.get?_eq_some_iff`). A node that is added changes nothing, or it is found under its id
from then on (`WellFormed.get?_addNode`); of many nodes with one id the first is found
(`WellFormed.get?_addNodes`).
-/

namespace RulePyramid
namespace RuleGraph

/-- The index has the ids of the nodes, each with the position of its node. -/
structure WellFormed (g : RuleGraph) : Prop where
  index_iff : ∀ (id : String) (i : Nat),
    g.index[id]? = some i ↔ ∃ n : Node, g.nodes[i]? = some n ∧ n.id = id

variable {g : RuleGraph} {id : String} {n : Node}

/-! ## Adding nodes -/

/-- Adds nodes one after the other. -/
def addNodes (g : RuleGraph) (nodes : List Node) : RuleGraph :=
  nodes.foldl (fun g n => (g.addNode n).2) g

theorem addNodes_nil (g : RuleGraph) : g.addNodes [] = g := rfl

theorem addNodes_cons (g : RuleGraph) (n : Node) (nodes : List Node) :
    g.addNodes (n :: nodes) = (g.addNode n).2.addNodes nodes := rfl

theorem addNodes_ofNodes (start more : List Node) :
    (ofNodes start).addNodes more = empty.addNodes (start ++ more) :=
  List.foldl_append.symm

/-- A node is refused just if its id is taken. -/
theorem addNode_fst_eq_false_iff : (g.addNode n).1 = false ↔ g.contains n.id := by
  cases h : g.contains n.id <;> simp [addNode, h]

theorem addNode_snd_of_contains (h : g.contains n.id) : (g.addNode n).2 = g := by
  rw [addNode, if_pos h]

theorem toList_addNode_of_not_contains (h : ¬g.contains n.id) :
    (g.addNode n).2.nodes.toList = g.nodes.toList ++ [n] := by
  rw [addNode, if_neg h, Array.toList_push]

/-! ## Finding nodes -/

theorem get?_empty (id : String) : empty.get? id = none := by
  simp [get?, empty]

namespace WellFormed

theorem empty : WellFormed .empty :=
  ⟨fun id i => by simp [RuleGraph.empty]⟩

/-- Each position in the index is that of a node with the id. -/
theorem index_eq_some_iff (H : g.WellFormed) {id : String} {i : Nat} :
    g.index[id]? = some i ↔ ∃ h : i < g.nodes.size, g.nodes[i].id = id := by
  simp only [H.index_iff, Array.getElem?_eq_some_iff]
  constructor
  · rintro ⟨n, ⟨hi, rfl⟩, hid⟩
    exact ⟨hi, hid⟩
  · rintro ⟨hi, hid⟩
    exact ⟨_, ⟨hi, rfl⟩, hid⟩

theorem get?_eq_some_iff (H : g.WellFormed) :
    g.get? id = some n ↔ n ∈ g.nodes.toList ∧ n.id = id := by
  have hget : g.get? id = g.index[id]?.bind fun i => g.nodes[i]? := rfl
  rw [hget, Option.bind_eq_some_iff, Array.mem_toList_iff, Array.mem_iff_getElem?]
  constructor
  · rintro ⟨i, hi, hn⟩
    obtain ⟨n', hn', rfl⟩ := (H.index_iff id i).mp hi
    cases hn.symm.trans hn'
    exact ⟨⟨i, hn⟩, rfl⟩
  · rintro ⟨⟨i, hn⟩, rfl⟩
    exact ⟨i, (H.index_iff n.id i).mpr ⟨n, hn, rfl⟩, hn⟩

/-- An id has one position. -/
theorem position_unique (H : g.WellFormed) {i j : Nat} {m : Node} (hi : g.nodes[i]? = some n)
    (hj : g.nodes[j]? = some m) (hid : n.id = m.id) : i = j := by
  have hn := (H.index_iff n.id i).mpr ⟨n, hi, rfl⟩
  have hm := (H.index_iff n.id j).mpr ⟨m, hj, hid.symm⟩
  exact Option.some.inj (hn.symm.trans hm)

theorem eq_of_id_eq (H : g.WellFormed) {m : Node} (hn : n ∈ g.nodes.toList)
    (hm : m ∈ g.nodes.toList) (hid : n.id = m.id) : n = m := by
  have hn' : g.get? m.id = some n := H.get?_eq_some_iff.mpr ⟨hn, hid⟩
  have hm' : g.get? m.id = some m := H.get?_eq_some_iff.mpr ⟨hm, rfl⟩
  exact Option.some.inj (hn'.symm.trans hm')

theorem contains_iff (H : g.WellFormed) :
    g.contains id ↔ ∃ n ∈ g.nodes.toList, n.id = id := by
  rw [RuleGraph.contains, Std.HashMap.contains_eq_isSome_getElem?, Option.isSome_iff_exists]
  constructor
  · rintro ⟨i, hi⟩
    obtain ⟨n, hn, hid⟩ := (H.index_iff id i).mp hi
    exact ⟨n, Array.mem_toList_iff.mpr (Array.mem_of_getElem? hn), hid⟩
  · rintro ⟨n, hn, rfl⟩
    obtain ⟨i, hi⟩ := Array.mem_iff_getElem?.mp (Array.mem_toList_iff.mp hn)
    exact ⟨i, (H.index_iff n.id i).mpr ⟨n, hi, rfl⟩⟩

theorem contains_eq_isSome (H : g.WellFormed) (id : String) :
    g.contains id = (g.get? id).isSome := by
  rw [Bool.eq_iff_iff, H.contains_iff, Option.isSome_iff_exists]
  exact exists_congr fun n => H.get?_eq_some_iff.symm

theorem nodup_ids (H : g.WellFormed) : (g.nodes.toList.map (·.id)).Nodup := by
  rw [List.Nodup, List.pairwise_map, List.pairwise_iff_getElem]
  intro i j hi hj hij hid
  have hpos : i = j := by
    refine H.position_unique (n := g.nodes.toList[i]) (m := g.nodes.toList[j]) ?_ ?_ hid
    · rw [← Array.getElem?_toList, List.getElem?_eq_getElem hi]
    · rw [← Array.getElem?_toList, List.getElem?_eq_getElem hj]
  omega

/-- A new node takes the next position; a node whose id is taken changes nothing. -/
theorem addNode (H : g.WellFormed) (n : Node) : (g.addNode n).2.WellFormed := by
  rw [RuleGraph.addNode]
  split
  · exact H
  next hnew =>
  have hfresh : ∀ m ∈ g.nodes.toList, m.id ≠ n.id := fun m hm hid =>
    hnew (H.contains_iff.mpr ⟨m, hm, hid⟩)
  refine ⟨fun id i => ?_⟩
  rw [Std.HashMap.getElem?_insert, Array.getElem?_push]
  by_cases hid : n.id = id
  · rw [if_pos (by simpa using hid)]
    constructor
    · intro h
      cases h
      exact ⟨n, by rw [if_pos rfl], hid⟩
    · rintro ⟨m, hm, hmid⟩
      split at hm
      · next hi => rw [hi]
      · have hmem := Array.mem_toList_iff.mpr (Array.mem_of_getElem? hm)
        exact (hfresh m hmem (hmid.trans hid.symm)).elim
  · rw [if_neg (by simpa using hid), H.index_iff]
    refine exists_congr fun m => and_congr_left fun hmid => ?_
    split
    · next hi =>
      have hne : n ≠ m := fun h => hid (h ▸ hmid)
      simp [hi, hne]
    · rfl

/-- What is found is found again, and a node that is added is found if its id was new. -/
theorem get?_addNode (H : g.WellFormed) (n : Node) (id : String) :
    (g.addNode n).2.get? id = (g.get? id).or ([n].find? (·.id = id)) := by
  have hcontains := H.contains_eq_isSome n.id
  by_cases htaken : g.contains n.id
  · rw [addNode_snd_of_contains htaken]
    by_cases hid : n.id = id
    · obtain ⟨m, hm⟩ := Option.isSome_iff_exists.mp (hcontains.symm.trans htaken)
      rw [← hid, hm, Option.some_or]
    · rw [List.find?_singleton, if_neg (by simpa using hid), Option.or_none]
  · have hnone : g.get? n.id = none := by
      rwa [← Option.not_isSome_iff_eq_none, ← hcontains]
    ext m
    rw [(H.addNode n).get?_eq_some_iff, toList_addNode_of_not_contains htaken, List.mem_append,
      List.mem_singleton, or_and_right, ← H.get?_eq_some_iff, Option.or_eq_some_iff,
      List.find?_singleton]
    refine or_congr_right ⟨?_, ?_⟩
    · rintro ⟨rfl, rfl⟩
      exact ⟨hnone, if_pos (decide_eq_true rfl)⟩
    · rintro ⟨-, h⟩
      obtain ⟨hid, heq⟩ := Option.ite_none_right_eq_some.mp h
      cases heq
      exact ⟨rfl, of_decide_eq_true hid⟩

theorem addNodes (H : g.WellFormed) (nodes : List Node) : (g.addNodes nodes).WellFormed := by
  induction nodes generalizing g with
  | nil => exact H
  | cons n nodes ih => exact ih (H.addNode n)

/-- Nodes that were there are found first, then the first one that was added. -/
theorem get?_addNodes (H : g.WellFormed) (nodes : List Node) (id : String) :
    (g.addNodes nodes).get? id = (g.get? id).or (nodes.find? (·.id = id)) := by
  induction nodes generalizing g with
  | nil => rw [addNodes_nil, List.find?_nil, Option.or_none]
  | cons n nodes ih =>
    rw [addNodes_cons, ih (H.addNode n), H.get?_addNode, Option.or_assoc, ← List.find?_append,
      List.singleton_append]

theorem ofNodes (nodes : List Node) : (RuleGraph.ofNodes nodes).WellFormed :=
  empty.addNodes nodes

theorem ofRules (rules : List Rule) : (RuleGraph.ofRules rules).WellFormed :=
  ofNodes (Node.ofRules rules)

end WellFormed

/-! ## The nodes of a graph -/

/-- Nodes with new and pairwise different ids are added one after the other. -/
theorem toList_addNodes (H : g.WellFormed) {nodes : List Node}
    (hnodup : ((g.nodes.toList ++ nodes).map (·.id)).Nodup) :
    (g.addNodes nodes).nodes.toList = g.nodes.toList ++ nodes := by
  induction nodes generalizing g with
  | nil => rw [addNodes_nil, List.append_nil]
  | cons n nodes ih =>
    have hnew : ¬g.contains n.id := by
      rw [H.contains_iff]
      rintro ⟨m, hm, hid⟩
      rw [List.map_append, List.nodup_append] at hnodup
      exact hnodup.2.2 m.id (List.mem_map_of_mem hm) n.id (by simp) hid
    have hadd := toList_addNode_of_not_contains hnew
    rw [addNodes_cons, ih (H.addNode n) (by rw [hadd]; simpa using hnodup), hadd,
      List.append_assoc, List.singleton_append]

theorem toList_ofNodes {nodes : List Node} (h : (nodes.map (·.id)).Nodup) :
    (RuleGraph.ofNodes nodes).nodes.toList = nodes :=
  toList_addNodes .empty h

end RuleGraph
end RulePyramid
