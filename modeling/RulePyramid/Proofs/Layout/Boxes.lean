import Mathlib.Algebra.Order.Field.Basic
import Mathlib.Algebra.Order.Ring.Abs
import Mathlib.Data.List.Pairwise
import Mathlib.Data.Set.Prod
import Mathlib.Order.CompletePartialOrder
import Mathlib.Order.Interval.Set.Disjoint
import RulePyramid.Proofs.Layout.Distances

/-!
When boxes overlap. Two boxes are apart if their centres are a box's width or a box's height apart
(`disjoint_box_iff`). In a row the column pitch sees to that; between rows it is left to the row
gap. A band of two full rows shows that a row gap below the height of a box is too little, and no
other nodes need more (`boxesDisjoint_iff`).
-/

namespace RulePyramid

/-- The inside of the box around a point. -/
def LayoutConfig.box (c : LayoutConfig ℚ) (p : Point ℚ) : Set (ℚ × ℚ) :=
  Set.Ioo (p.x - c.nodeWidth / 2) (p.x + c.nodeWidth / 2) ×ˢ
    Set.Ioo (p.y - c.nodeHeight / 2) (p.y + c.nodeHeight / 2)

/-- No two boxes of a pyramid have a point inside in common. -/
def Pyramid.BoxesDisjoint (p : Pyramid ℚ) (c : LayoutConfig ℚ) : Prop :=
  ∀ a b, a ≠ b → ∀ q r, p.position? a = some q → p.position? b = some r →
    Disjoint (c.box q) (c.box r)

namespace LayoutConfig

variable {c : LayoutConfig ℚ} {nodes : List Node} {ranking : Ranking} {l l' : Layer ℚ}
  {a b : String} {p q : Point ℚ}

/-! ## Boxes -/

theorem disjoint_Ioo_half_iff (x y size : ℚ) :
    Disjoint (Set.Ioo (x - size / 2) (x + size / 2)) (Set.Ioo (y - size / 2) (y + size / 2)) ↔
      size ≤ |x - y| := by
  rw [Set.Ioo_disjoint_Ioo, min_add_add_right, sub_eq_add_neg, sub_eq_add_neg, max_add_add_right,
    ← max_sub_min_eq_abs']
  constructor <;> intro h <;> linarith

theorem disjoint_box_iff (c : LayoutConfig ℚ) (p q : Point ℚ) :
    Disjoint (c.box p) (c.box q) ↔ c.nodeWidth ≤ |p.x - q.x| ∨ c.nodeHeight ≤ |p.y - q.y| := by
  rw [box, box, Set.disjoint_prod, disjoint_Ioo_half_iff, disjoint_Ioo_half_iff]

/-- Different indices are one apart, and so are their multiples. -/
theorem le_abs_sub_mul {i j : Nat} (h : i ≠ j) {x : ℚ} (hx : 0 ≤ x) : x ≤ |((i : ℚ) - j) * x| := by
  have hone : (1 : ℚ) ≤ |(i : ℚ) - j| := by
    have hint : (1 : ℤ) ≤ |(i : ℤ) - j| := Int.one_le_abs (by omega)
    exact_mod_cast hint
  rw [abs_mul, abs_of_nonneg hx]
  exact le_mul_of_one_le_left hx hone

/-! ## Boxes of one layer and of two -/

/-- Two boxes of a layer are in different columns or in different rows. -/
theorem Accepted.disjoint_box_of_mem_places (H : c.Accepted) (hheight : c.nodeHeight ≤ c.rowGap)
    (hab : a ≠ b) (hp : (a, p) ∈ c.places l) (hq : (b, q) ∈ c.places l) :
    Disjoint (c.box p) (c.box q) := by
  obtain ⟨r, row, i, hr, hi, rfl⟩ := mem_places.mp hp
  obtain ⟨s, row', j, hs, hj, rfl⟩ := mem_places.mp hq
  rw [disjoint_box_iff]
  by_cases hrs : r = s
  · subst hrs
    obtain rfl := Option.some.inj (hr.symm.trans hs)
    have hij : i ≠ j := by
      rintro rfl
      exact hab (Option.some.inj (hi.symm.trans hj))
    left
    rw [columnX_sub_columnX]
    exact H.nodeWidth_le_columnPitch.trans (le_abs_sub_mul hij H.columnPitch_pos.le)
  · right
    rw [rowY_sub_rowY]
    exact hheight.trans (le_abs_sub_mul (Ne.symm hrs) H.rowGap_nonneg)

/-- No box of one layer overlaps a box of another one. -/
def Clear (c : LayoutConfig ℚ) (l l' : Layer ℚ) : Prop :=
  ∀ a p b q, (a, p) ∈ c.places l → (b, q) ∈ c.places l' → Disjoint (c.box p) (c.box q)

theorem Clear.symm (h : c.Clear l l') : c.Clear l' l :=
  fun a p b q hp hq => (h b q a p hq hp).symm

/-- Two boxes of different layers are in different rows. -/
theorem Accepted.pairwise_clear (H : c.Accepted) (hheight : c.nodeHeight ≤ c.rowGap)
    (nodes : List Node) (ranking : Ranking) :
    (c.pyramid nodes ranking).layers.Pairwise c.Clear := by
  refine (H.pairwise_rowY nodes ranking).imp fun {l l'} hbelow a p b q hp hq => ?_
  obtain ⟨r, row, i, hr, -, rfl⟩ := mem_places.mp hp
  obtain ⟨s, row', j, -, -, rfl⟩ := mem_places.mp hq
  have hbelow := hbelow r (List.getElem?_eq_some_iff.mp hr).1 s
  have hgap := H.layerGap_nonneg
  rw [disjoint_box_iff]
  right
  exact le_trans (by linarith) (le_abs_self _)

theorem Accepted.boxesDisjoint (H : c.Accepted) (hheight : c.nodeHeight ≤ c.rowGap)
    (hnodes : (nodes.map (·.id)).Nodup) (ranking : Ranking) :
    (c.pyramid nodes ranking).BoxesDisjoint c := by
  intro a b hab p q hp hq
  obtain ⟨l, hl, hp⟩ := (position?_eq_some_iff hnodes).mp hp
  obtain ⟨l', hl', hq⟩ := (position?_eq_some_iff hnodes).mp hq
  by_cases hll : l = l'
  · subst hll
    exact H.disjoint_box_of_mem_places hheight hab hp hq
  · have hsymm : Std.Symm c.Clear := ⟨fun _ _ => Clear.symm⟩
    exact (H.pairwise_clear hheight nodes ranking).forall hl hl' hll a p b q hp hq

/-! ## Two full rows -/

/-- So many nodes without a group. -/
def crowd (count : Nat) : List Node :=
  (List.range count).map fun i => ⟨.ofList (List.replicate i 'a'), ungrouped, []⟩

theorem group_of_mem_crowd {count : Nat} {n : Node} (hn : n ∈ crowd count) :
    n.group = ungrouped := by
  obtain ⟨i, -, rfl⟩ := List.mem_map.mp hn
  rfl

theorem nodup_ids_crowd (count : Nat) : ((crowd count).map (·.id)).Nodup := by
  rw [crowd, List.map_map]
  refine List.nodup_range.map fun i j h => ?_
  have hlength := congrArg (fun s => s.toList.length) h
  simpa using hlength

theorem length_idsOf_crowd (count : Nat) (ranking : Ranking) :
    (idsOf (crowd count) ranking (ranking.layerKey ungrouped)).length = count := by
  have hall : ∀ n ∈ crowd count,
      decide (ranking.layerKey n.group = ranking.layerKey ungrouped) := fun n hn =>
    decide_eq_true (congrArg ranking.layerKey (group_of_mem_crowd hn))
  rw [idsOf, List.length_mergeSort, List.length_map, List.filter_eq_self.mpr hall, crowd,
    List.length_map, List.length_range]

/-- They stand in the rows of one layer. -/
theorem exists_layer_crowd (count : Nat) (h : 0 < count) (ranking : Ranking)
    (c : LayoutConfig ℚ) :
    ∃ l ∈ (c.pyramid (crowd count) ranking).layers, ∃ ids : List String, ids.length = count ∧
      l.rows = chunks c.rowCapacity ids := by
  have hn : ⟨.ofList (List.replicate 0 'a'), ungrouped, []⟩ ∈ crowd count :=
    List.mem_map.mpr ⟨0, List.mem_range.mpr h, rfl⟩
  obtain ⟨l, hl, hkey, -⟩ := exists_layer_of_mem hn ranking c
  obtain ⟨ids, -, hrows⟩ := exists_rows_eq_chunks hl
  refine ⟨l, hl, ids, ?_, hrows⟩
  rw [← flatten_chunks c.rowCapacity ids, ← hrows, (rows_flatten_of_mem_layers hl).2, hkey,
    length_idsOf_crowd]

/-- Twice as many as a row holds make two rows of the same length. -/
theorem exists_full_rows {size : Nat} {ids : List String} (hsize : 0 < size)
    (h : ids.length = 2 * size) : ∃ a b row row', chunks size ids = [a :: row, b :: row'] ∧
      row.length = row'.length := by
  obtain ⟨a, as, rfl⟩ := List.exists_cons_of_length_pos (l := ids) (by omega)
  obtain ⟨b, bs, hdrop⟩ := List.exists_cons_of_length_pos (l := as.drop (size - 1))
    (by rw [List.length_drop]; rw [List.length_cons] at h; omega)
  have hlength := congrArg List.length hdrop
  simp only [List.length_drop, List.length_cons] at hlength h
  refine ⟨a, b, as.take (size - 1), bs.take (size - 1), ?_, ?_⟩
  · rw [chunks, hdrop, chunks, List.drop_eq_nil_of_le (by omega), chunks]
  · rw [List.length_take, List.length_take]
    omega

/-- Two full rows overlap if the row gap is less than the height of a box. -/
theorem Accepted.not_boxesDisjoint_crowd (H : c.Accepted) (hgap : c.rowGap < c.nodeHeight)
    (ranking : Ranking) : ¬(c.pyramid (crowd (2 * c.rowCapacity)) ranking).BoxesDisjoint c := by
  intro hdisjoint
  have hcapacity := c.rowCapacity_pos
  have hnodes := nodup_ids_crowd (2 * c.rowCapacity)
  obtain ⟨l, hl, ids, hids, hrows⟩ :=
    exists_layer_crowd (2 * c.rowCapacity) (by omega) ranking c
  obtain ⟨a, b, row, row', hchunks, hlength⟩ := exists_full_rows hcapacity hids
  rw [hchunks] at hrows
  have hab : a ≠ b := by
    have hasc : l.rows.flatten.Pairwise (· < ·) := by
      rw [(rows_flatten_of_mem_layers hl).2]
      exact ascending_idsOf hnodes
    rw [hrows] at hasc
    exact ne_of_lt ((List.pairwise_cons.mp hasc).1 b (by simp))
  -- Both boxes stand in the first column, so it is the row gap that keeps them apart.
  have hp : (a, ⟨c.columnX 0 (row.length + 1), c.rowY l.offset 0⟩) ∈ c.places l :=
    mem_places.mpr ⟨0, a :: row, 0, by rw [hrows]; rfl, rfl, rfl⟩
  have hq : (b, ⟨c.columnX 0 (row.length + 1), c.rowY l.offset 1⟩) ∈ c.places l :=
    mem_places.mpr ⟨1, b :: row', 0, by rw [hrows]; rfl, rfl, by rw [hlength]; rfl⟩
  have hboxes := hdisjoint a b hab _ _ (position?_eq_some_of_mem_places hnodes hl hp)
    (position?_eq_some_of_mem_places hnodes hl hq)
  rw [disjoint_box_iff, sub_self, abs_zero, rowY_sub_rowY, Nat.cast_one, Nat.cast_zero, sub_zero,
    one_mul, abs_of_nonneg H.rowGap_nonneg] at hboxes
  exact hboxes.elim H.width_pos.not_ge hgap.not_ge

/-- **Boxes of accepted settings never overlap just if the row gap is at least their height**, in
whatever order groups are ranked. -/
theorem boxesDisjoint_iff (hc : c.validate = .ok ()) (ranking : Ranking) :
    (∀ nodes : List Node, (nodes.map (·.id)).Nodup →
      (c.pyramid nodes ranking).BoxesDisjoint c) ↔ c.nodeHeight ≤ c.rowGap := by
  have H := accepted_iff.mp hc
  constructor
  · intro hall
    by_contra hgap
    exact H.not_boxesDisjoint_crowd (not_le.mp hgap) ranking (hall _ (nodup_ids_crowd _))
  · exact fun hheight nodes hnodes => H.boxesDisjoint hheight hnodes ranking

/-- Rows that touch are far enough apart, and rows that are any closer are not. -/
theorem boxesDisjoint_iff_of_touching_rows :
    let touching : LayoutConfig ℚ := { LayoutConfig.default with nodeHeight := 70 }
    let closer : LayoutConfig ℚ := { touching with rowGap := 69 }
    let ranking := Ranking.ofGroups Catalog.fallback.groups
    touching.validate = .ok () ∧ closer.validate = .ok () ∧
      (∀ nodes : List Node, (nodes.map (·.id)).Nodup →
        (touching.pyramid nodes ranking).BoxesDisjoint touching) ∧
      ¬∀ nodes : List Node, (nodes.map (·.id)).Nodup →
        (closer.pyramid nodes ranking).BoxesDisjoint closer := by
  intro touching closer ranking
  have htouching : touching.validate = .ok () := by decide
  have hcloser : closer.validate = .ok () := by decide
  refine ⟨htouching, hcloser, (boxesDisjoint_iff htouching ranking).mpr ?_, ?_⟩
  · decide
  · rw [boxesDisjoint_iff hcloser ranking]
    decide

end LayoutConfig
end RulePyramid
