import Mathlib.Algebra.Order.Field.Rat
import Mathlib.Tactic.Linarith
import Mathlib.Tactic.Ring
import RulePyramid.Proofs.Layout.Arrangement

/-!
Distances in a pyramid whose coordinates do not round. Columns of one row are whole pitches apart
(`columnX_sub_columnX`) and rows of one band whole row gaps (`rowY_sub_rowY`). Accepted settings
have no negative gap, so what the bands below take adds up, and a row is a row gap and a layer gap
or more below each row of a later band (`Accepted.pairwise_rowY`).
-/

namespace RulePyramid
namespace LayoutConfig

/-! ## Accepted settings -/

section
variable {α : Type} [Scalar α] {field : Field} {value : α} {c : LayoutConfig α}

theorem requirePositive_eq_ok_iff :
    requirePositive field value = .ok () ↔ Scalar.ofNat 0 < value := by
  rw [requirePositive]
  split <;> simp_all

theorem requireNonNegative_eq_ok_iff :
    requireNonNegative field value = .ok () ↔ Scalar.ofNat 0 ≤ value := by
  rw [requireNonNegative]
  split <;> simp_all

theorem validate_eq_ok_iff :
    c.validate = .ok () ↔ Scalar.ofNat 0 < c.nodeWidth ∧ Scalar.ofNat 0 < c.nodeHeight ∧
      Scalar.ofNat 0 ≤ c.horizontalGap ∧ Scalar.ofNat 0 ≤ c.rowGap ∧ Scalar.ofNat 0 ≤ c.layerGap ∧
      0 < c.maxNodesPerRow := by
  have hbind : ∀ (x : Except (Error α) Unit) (k : Unit → Except (Error α) Unit),
      x >>= k = .ok () ↔ x = .ok () ∧ k () = .ok () := by
    rintro (e | ⟨⟩) k <;> simp [Bind.bind, Except.bind]
  simp only [validate, hbind, requirePositive_eq_ok_iff, requireNonNegative_eq_ok_iff]
  by_cases h : c.maxNodesPerRow = 0 <;> simp [h, Pure.pure, Except.pure, throw, throwThe,
    MonadExceptOf.throw, Nat.pos_of_ne_zero]

end

/-- What the check of the settings lets pass. -/
structure Accepted (c : LayoutConfig ℚ) : Prop where
  width_pos : 0 < c.nodeWidth
  height_pos : 0 < c.nodeHeight
  horizontalGap_nonneg : 0 ≤ c.horizontalGap
  rowGap_nonneg : 0 ≤ c.rowGap
  layerGap_nonneg : 0 ≤ c.layerGap
  maxNodesPerRow_pos : 0 < c.maxNodesPerRow

theorem accepted_iff {c : LayoutConfig ℚ} : c.validate = .ok () ↔ c.Accepted := by
  have hzero : (Scalar.ofNat 0 : ℚ) = 0 := Nat.cast_zero
  rw [validate_eq_ok_iff, hzero]
  exact ⟨fun ⟨hw, hh, hg, hr, hl, hm⟩ => ⟨hw, hh, hg, hr, hl, hm⟩,
    fun ⟨hw, hh, hg, hr, hl, hm⟩ => ⟨hw, hh, hg, hr, hl, hm⟩⟩

/-! ## Columns and rows -/

variable {c : LayoutConfig ℚ}

theorem columnPitch_eq (c : LayoutConfig ℚ) : c.columnPitch = c.nodeWidth + c.horizontalGap := rfl

theorem Accepted.columnPitch_pos (H : c.Accepted) : 0 < c.columnPitch := by
  rw [columnPitch_eq]
  exact add_pos_of_pos_of_nonneg H.width_pos H.horizontalGap_nonneg

theorem Accepted.nodeWidth_le_columnPitch (H : c.Accepted) : c.nodeWidth ≤ c.columnPitch := by
  rw [columnPitch_eq]
  exact le_add_of_nonneg_right H.horizontalGap_nonneg

theorem columnX_eq (c : LayoutConfig ℚ) (i count : Nat) :
    c.columnX i count = c.centerX - (count * c.columnPitch - c.horizontalGap) / 2 +
      i * c.columnPitch + c.nodeWidth / 2 := rfl

theorem columnX_sub_columnX (c : LayoutConfig ℚ) (i j count : Nat) :
    c.columnX i count - c.columnX j count = (i - j) * c.columnPitch := by
  rw [columnX_eq, columnX_eq]
  ring

theorem rowY_eq (c : LayoutConfig ℚ) (offset : ℚ) (r : Nat) :
    c.rowY offset r = c.baseY - offset - r * c.rowGap := rfl

theorem rowY_sub_rowY (c : LayoutConfig ℚ) (offset : ℚ) (r s : Nat) :
    c.rowY offset r - c.rowY offset s = (s - r) * c.rowGap := by
  rw [rowY_eq, rowY_eq]
  ring

theorem layerExtent_eq (c : LayoutConfig ℚ) (rowCount : Nat) :
    c.layerExtent rowCount = rowCount * c.rowGap + c.layerGap := rfl

/-! ## Bands -/

theorem Accepted.layerExtent_nonneg (H : c.Accepted) (rowCount : Nat) :
    0 ≤ c.layerExtent rowCount := by
  rw [layerExtent_eq]
  exact add_nonneg (mul_nonneg rowCount.cast_nonneg H.rowGap_nonneg) H.layerGap_nonneg

/-- A layer stands on top of all that are below it. -/
theorem Accepted.pairwise_offset (H : c.Accepted) (nodes : List Node) (ranking : Ranking) :
    (c.pyramid nodes ranking).layers.Pairwise fun l l' =>
      l.offset + c.layerExtent l.rowCount ≤ l'.offset := by
  have htrans : IsTrans (Layer ℚ) fun l l' => l.offset + c.layerExtent l.rowCount ≤ l'.offset :=
    ⟨fun l l' l'' h h' => by
      have hextent := H.layerExtent_nonneg l'.rowCount
      linarith⟩
  refine List.isChain_iff_pairwise.mp ((isChain_offset_stack c ranking _ _).imp fun l l' h => ?_)
  exact h.ge

/-- A row of a layer is below each row of a layer that stands on it. -/
theorem Accepted.rowY_add_gaps_le (H : c.Accepted) {offset offset' : ℚ} {r rowCount : Nat}
    (hoffset : offset + c.layerExtent rowCount ≤ offset') (hr : r < rowCount) (r' : Nat) :
    c.rowY offset' r' + (c.rowGap + c.layerGap) ≤ c.rowY offset r := by
  have hr : ((r + 1 : Nat) : ℚ) ≤ rowCount := Nat.cast_le.mpr hr
  have hbelow := mul_le_mul_of_nonneg_right hr H.rowGap_nonneg
  have habove := mul_nonneg (Nat.cast_nonneg (α := ℚ) r') H.rowGap_nonneg
  rw [layerExtent_eq] at hoffset
  rw [rowY_eq, rowY_eq]
  push_cast at hbelow
  linarith

theorem Accepted.pairwise_rowY (H : c.Accepted) (nodes : List Node) (ranking : Ranking) :
    (c.pyramid nodes ranking).layers.Pairwise fun l l' => ∀ r < l.rowCount, ∀ r',
      c.rowY l'.offset r' + (c.rowGap + c.layerGap) ≤ c.rowY l.offset r :=
  (H.pairwise_offset nodes ranking).imp fun h _ hr r' => H.rowY_add_gaps_le h hr r'

end LayoutConfig
end RulePyramid
