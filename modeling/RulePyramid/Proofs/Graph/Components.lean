import RulePyramid.Proofs.Graph.Edges
import RulePyramid.Proofs.Graph.Reach

/-!
Components by position. The closed table of a graph joins two positions when the edges lead from the
id at the second one to the id at the first one (`WellFormed.reaches_reach`), so mutual reach of
positions is mutual reach of ids, and the positions of one component all have that component.
-/

namespace RulePyramid

/-! ## Components of a closed table -/

namespace Reach

variable {r : Reach} {i j : Nat}

theorem mem_component :
    j ∈ r.component i ↔ j < r.size ∧ (j = i ∨ r.reaches i j ∧ r.reaches j i) := by
  simp only [component, List.mem_filter, List.mem_range, Bool.or_eq_true, Bool.and_eq_true,
    decide_eq_true_eq]

theorem self_mem_component (h : i < r.size) : i ∈ r.component i := mem_component.mpr ⟨h, .inl rfl⟩

theorem nodup_component (r : Reach) (i : Nat) : (r.component i).Nodup := List.nodup_range.filter _

theorem passesThrough_close (r : Reach) (k : Nat) : r.close.PassesThrough k := fun _ _ hi hj =>
  reaches_close.mpr (.trans (reaches_close.mp hi) (reaches_close.mp hj))

/-- The members of a component have the same component. -/
theorem component_eq_of_mem (H : ∀ k, r.PassesThrough k) (h : j ∈ r.component i) :
    r.component j = r.component i := by
  obtain ⟨-, rfl | ⟨hij, hji⟩⟩ := mem_component.mp h
  · rfl
  refine List.filter_congr fun k _ => ?_
  rw [Bool.eq_iff_iff]
  simp only [Bool.or_eq_true, Bool.and_eq_true, decide_eq_true_eq]
  constructor
  · rintro (rfl | ⟨hjk, hkj⟩)
    · exact .inr ⟨hij, hji⟩
    · exact .inr ⟨H j i k hij hjk, H j k i hkj hji⟩
  · rintro (rfl | ⟨hik, hki⟩)
    · exact .inr ⟨hji, hij⟩
    · exact .inr ⟨H i j k hji hik, H i k j hki hij⟩

end Reach

/-! ## What ids reach -/

namespace RuleGraph

variable {g : RuleGraph} {a b : String} {i j : Nat}

/-- An edge leads from one id to another. -/
def LeadsTo (g : RuleGraph) (a b : String) : Prop := ⟨a, b⟩ ∈ g.edges

/-- Edges lead from one id to another, one after the other. -/
def Reaches (g : RuleGraph) : String → String → Prop := Relation.TransGen g.LeadsTo

/-- Two ids reach each other. -/
def Mutual (g : RuleGraph) (a b : String) : Prop := g.Reaches a b ∧ g.Reaches b a

theorem Mutual.symm (h : g.Mutual a b) : g.Mutual b a := ⟨h.2, h.1⟩

theorem Mutual.trans {c : String} (h : g.Mutual a b) (h' : g.Mutual b c) : g.Mutual a c :=
  ⟨h.1.trans h'.1, h'.2.trans h.2⟩

theorem testBit_foldl_or (is : List Nat) (row : Nat) :
    (is.foldl (fun row i => row ||| 1 <<< i) row).testBit j ↔ row.testBit j ∨ j ∈ is := by
  induction is generalizing row with
  | nil => simp
  | cons i is ih =>
    have hbit : (1 <<< i : Nat).testBit j ↔ j = i := by
      rw [Nat.one_shiftLeft, Nat.testBit_two_pow, decide_eq_true_eq, eq_comm]
    rw [List.foldl_cons, ih, Nat.testBit_or, Bool.or_eq_true, hbit, List.mem_cons, or_assoc]

theorem exists_index (h : g.contains a) : ∃ i, g.index[a]? = some i := by
  rw [contains, Std.HashMap.contains_eq_isSome_getElem?] at h
  exact Option.isSome_iff_exists.mp h

theorem passesThrough_reach (g : RuleGraph) (k : Nat) : g.reach.PassesThrough k :=
  Reach.passesThrough_close _ k

namespace WellFormed

/-- A row has the positions of the dependencies. -/
theorem reaches_dependencyRow (H : g.WellFormed) :
    Reach.reaches (g.nodes.map g.dependencyRow) i j ↔
      ∃ a b, g.index[b]? = some i ∧ g.index[a]? = some j ∧ g.LeadsTo a b := by
  have hleads : ∀ a b, g.LeadsTo a b ↔ ∃ n, g.get? b = some n ∧ a ∈ n.dependencyIds ∧
      g.contains a := fun a b => H.mem_edges
  simp only [hleads, Reach.reaches, Array.getElem?_map]
  cases hn : g.nodes[i]? with
  | none =>
    simp only [Option.map_none, Option.getD_none, Nat.zero_testBit, Bool.false_eq_true, false_iff]
    rintro ⟨a, b, hb, -⟩
    obtain ⟨n, hn', -⟩ := (H.index_iff b i).mp hb
    simp [hn] at hn'
  | some n =>
    rw [Option.map_some, Option.getD_some, dependencyRow, testBit_foldl_or, Nat.zero_testBit,
      List.mem_filterMap]
    simp only [Bool.false_eq_true, false_or]
    constructor
    · rintro ⟨a, ha, hj⟩
      have hmem := Array.mem_toList_iff.mpr (Array.mem_of_getElem? hn)
      have hin : g.contains a := by
        rw [RuleGraph.contains, Std.HashMap.contains_eq_isSome_getElem?, hj]; rfl
      exact ⟨a, n.id, (H.index_iff _ _).mpr ⟨n, hn, rfl⟩, hj, n,
        H.get?_eq_some_iff.mpr ⟨hmem, rfl⟩, ha, hin⟩
    · rintro ⟨a, b, hb, hj, m, hm, ha, -⟩
      have hmn : m = n := by
        have hget : g.get? b = g.nodes[i]? := by
          change (g.index[b]?.bind fun i => g.nodes[i]?) = _
          rw [hb, Option.bind_some]
        exact Option.some.inj (hm.symm.trans (hget.trans hn))
      exact ⟨a, hmn ▸ ha, hj⟩

/-- A position has one id. -/
theorem id_unique (H : g.WellFormed) (ha : g.index[a]? = some i) (hb : g.index[b]? = some i) :
    a = b := by
  obtain ⟨n, hn, rfl⟩ := (H.index_iff a i).mp ha
  obtain ⟨m, hm, rfl⟩ := (H.index_iff b i).mp hb
  rw [Option.some.inj (hn.symm.trans hm)]

/-- What is reached at a position is what reaches the id there. -/
theorem reaches_reach (H : g.WellFormed) :
    g.reach.reaches i j ↔
      ∃ a b, g.index[b]? = some i ∧ g.index[a]? = some j ∧ g.Reaches a b := by
  rw [reach, Reach.reaches_close]
  constructor
  · intro h
    induction h with
    | single hij =>
      obtain ⟨a, b, hb, ha, hab⟩ := H.reaches_dependencyRow.mp hij
      exact ⟨a, b, hb, ha, .single hab⟩
    | tail _ hkj ih =>
      obtain ⟨a, b, hb, ha, hab⟩ := H.reaches_dependencyRow.mp hkj
      obtain ⟨b', c, hc, hb', hbc⟩ := ih
      cases H.id_unique hb hb'
      exact ⟨a, c, hc, ha, .head hab hbc⟩
  · rintro ⟨a, b, hb, ha, hab⟩
    induction hab generalizing i with
    | single hab => exact .single (H.reaches_dependencyRow.mpr ⟨_, _, hb, ha, hab⟩)
    | tail _ hbc ih =>
      obtain ⟨k, hk⟩ := exists_index (H.contains_of_mem_edges hbc).1
      exact .head (H.reaches_dependencyRow.mpr ⟨_, _, hb, hk, hbc⟩) (ih hk)

theorem lt_size_of_index (H : g.WellFormed) (h : g.index[a]? = some i) : i < g.reach.size := by
  obtain ⟨n, hn, -⟩ := (H.index_iff a i).mp h
  rw [reach, Reach.size_close, Array.size_map]
  exact (Array.getElem?_eq_some_iff.mp hn).1

/-- The component at a position has the id there and those that reach each other with it. -/
theorem mem_component_iff (H : g.WellFormed) (ha : g.index[a]? = some i)
    (hb : g.index[b]? = some j) : j ∈ g.reach.component i ↔ b = a ∨ g.Mutual a b := by
  have hreach : ∀ {c d : String} {k l : Nat}, g.index[c]? = some k → g.index[d]? = some l →
      (g.reach.reaches k l ↔ g.Reaches d c) := by
    intro c d k l hc hd
    rw [H.reaches_reach]
    constructor
    · rintro ⟨d', c', hc', hd', h⟩
      rwa [H.id_unique hd hd', H.id_unique hc hc']
    · exact fun h => ⟨d, c, hc, hd, h⟩
  have hsame : j = i ↔ b = a := by
    constructor
    · rintro rfl
      exact H.id_unique hb ha
    · rintro rfl
      exact Option.some.inj (hb.symm.trans ha)
  rw [Reach.mem_component, hsame, hreach ha hb, hreach hb ha]
  exact ⟨fun h => h.2.imp_right fun h => ⟨h.2, h.1⟩,
    fun h => ⟨H.lt_size_of_index hb, h.imp_right fun h => ⟨h.2, h.1⟩⟩⟩

end WellFormed

end RuleGraph
end RulePyramid
