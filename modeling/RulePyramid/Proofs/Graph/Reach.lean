import Mathlib.Logic.Relation
import RulePyramid.Graph.Cycles

/-!
What positions reach. Letting paths pass through one position after the other, through every one of
them, gives exactly the pairs that a path joins (`Reach.reaches_close`). The invariant of the search
is that a table in which paths may pass through some positions joins whatever they join
(`Reach.PassesThrough`), and later positions do not undo it.
-/

namespace RulePyramid
namespace Reach

variable {r : Reach} {i j k m : Nat}

theorem lt_size_of_reaches (h : r.reaches i j) : i < r.size := by
  refine Nat.lt_of_not_le fun hi => ?_
  rw [reaches, Array.getElem?_eq_none hi] at h
  simp at h

theorem reaches_through :
    (r.through k).reaches i j ↔ r.reaches i j ∨ r.reaches i k ∧ r.reaches k j := by
  simp only [reaches, through, Array.getElem?_map]
  cases r[i]? with
  | none => simp
  | some row =>
    simp only [Option.map_some, Option.getD_some]
    split
    · next h => simp only [Nat.testBit_or, Bool.or_eq_true, h, true_and]
    · next h => simp only [h, Bool.false_eq_true, false_and, or_false]

/-- What reaches `k` reaches all that `k` reaches. -/
def PassesThrough (r : Reach) (k : Nat) : Prop :=
  ∀ i j, r.reaches i k → r.reaches k j → r.reaches i j

theorem passesThrough_self (r : Reach) (k : Nat) : (r.through k).PassesThrough k := by
  intro i j hi hj
  rw [reaches_through] at hi hj ⊢
  have hik : r.reaches i k := hi.elim id And.left
  have hkj : r.reaches k j := hj.elim id And.right
  exact .inr ⟨hik, hkj⟩

theorem PassesThrough.through (H : r.PassesThrough m) (k : Nat) :
    (r.through k).PassesThrough m := by
  intro i j hi hj
  rw [reaches_through] at hi hj ⊢
  rcases hi with him | ⟨hik, hkm⟩
  · rcases hj with hmj | ⟨hmk, hkj⟩
    · exact .inl (H i j him hmj)
    · exact .inr ⟨H i k him hmk, hkj⟩
  · rcases hj with hmj | ⟨-, hkj⟩
    · exact .inr ⟨hik, H k j hkm hmj⟩
    · exact .inr ⟨hik, hkj⟩

/-! ## Passing through several positions -/

theorem PassesThrough.foldl (H : r.PassesThrough m) (ks : List Nat) :
    (ks.foldl Reach.through r).PassesThrough m := by
  induction ks generalizing r with
  | nil => exact H
  | cons k ks ih => exact ih (H.through k)

theorem passesThrough_foldl {ks : List Nat} (h : m ∈ ks) :
    (ks.foldl through r).PassesThrough m := by
  induction ks generalizing r with
  | nil => cases h
  | cons k ks ih =>
    rcases List.mem_cons.mp h with rfl | h
    · exact (passesThrough_self r m).foldl ks
    · exact ih h

theorem reaches_foldl_of_reaches (ks : List Nat) (h : r.reaches i j) :
    (ks.foldl through r).reaches i j := by
  induction ks generalizing r with
  | nil => exact h
  | cons k ks ih => exact ih (reaches_through.mpr (.inl h))

/-- Nothing is reached without a path. -/
theorem transGen_of_reaches_foldl (ks : List Nat) (h : (ks.foldl through r).reaches i j) :
    Relation.TransGen (fun i j => r.reaches i j) i j := by
  induction ks generalizing r i j with
  | nil => exact .single h
  | cons k ks ih =>
    refine Relation.TransGen.trans_induction_on (ih h) (fun hstep => ?_) fun _ _ => .trans
    rcases reaches_through.mp hstep with hij | ⟨hik, hkj⟩
    · exact .single hij
    · exact .head hik (.single hkj)

theorem size_foldl_through (ks : List Nat) (r : Reach) : (ks.foldl through r).size = r.size := by
  induction ks generalizing r with
  | nil => rfl
  | cons k ks ih => rw [List.foldl_cons, ih, through, Array.size_map]

theorem size_close (r : Reach) : r.close.size = r.size := size_foldl_through _ r

/-- **The closed table joins what paths join.** -/
theorem reaches_close :
    r.close.reaches i j ↔ Relation.TransGen (fun i j => r.reaches i j) i j := by
  refine ⟨transGen_of_reaches_foldl _, fun h => ?_⟩
  induction h with
  | single hij => exact reaches_foldl_of_reaches _ hij
  | tail _ hkj ih =>
    -- The last stop before the end has a row of its own, so paths may pass through it.
    have hpivot := passesThrough_foldl (r := r) (List.mem_range.mpr (lt_size_of_reaches hkj))
    exact hpivot _ _ ih (reaches_foldl_of_reaches _ hkj)

end Reach
end RulePyramid
