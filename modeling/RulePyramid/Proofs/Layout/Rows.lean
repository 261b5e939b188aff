import RulePyramid.Proofs.Layout.Distances

/-!
The shape of a band whose coordinates do not round. A row is symmetric about the centre
(`columnX_add_columnX`), and it stands within every row that has as many boxes or more
(`Accepted.columnX_mem_bounds`). Rows have no more boxes than those below them
(`pairwise_length_rows`), so the lowest one is the widest. It gives the caption of the band its
column and the band its left end (`Accepted.label?_eq`, `Accepted.smallest_x_eq`).
-/

namespace RulePyramid
namespace LayoutConfig

/-! ## Columns -/

section
variable {c : LayoutConfig ℚ} {i count count' : Nat}

theorem columnX_add_columnX (c : LayoutConfig ℚ) (h : i < count) :
    c.columnX i count + c.columnX (count - 1 - i) count = 2 * c.centerX := by
  have hlast : ((count - 1 - i : Nat) : ℚ) = count - 1 - i := by
    rw [Nat.cast_sub (by omega), Nat.cast_sub (by omega), Nat.cast_one]
  rw [columnX_eq, columnX_eq, hlast, columnPitch_eq]
  ring

theorem columnX_succ (c : LayoutConfig ℚ) (i count : Nat) :
    c.columnX (i + 1) count = c.columnX i count + c.columnPitch := by
  rw [columnX_eq, columnX_eq, Nat.cast_succ]
  ring

/-- A row stands within the columns of each row that has as many boxes or more. -/
theorem Accepted.columnX_mem_bounds (H : c.Accepted) (hi : i < count) (hcount : count ≤ count') :
    c.columnX 0 count' ≤ c.columnX i count ∧
      c.columnX i count ≤ c.columnX (count' - 1) count' := by
  have hpitch := H.columnPitch_pos.le
  have hlast : ((count' - 1 : Nat) : ℚ) = count' - 1 := by
    rw [Nat.cast_sub (by omega), Nat.cast_one]
  have hwider : 0 ≤ ((count' : ℚ) - count) * c.columnPitch :=
    mul_nonneg (sub_nonneg.mpr (Nat.cast_le.mpr hcount)) hpitch
  have hleft : 0 ≤ (i : ℚ) * c.columnPitch := mul_nonneg i.cast_nonneg hpitch
  have hright : 0 ≤ ((count : ℚ) - (i + 1 : Nat)) * c.columnPitch :=
    mul_nonneg (sub_nonneg.mpr (Nat.cast_le.mpr hi)) hpitch
  rw [Nat.cast_succ] at hright
  rw [columnX_eq, columnX_eq, columnX_eq, hlast, Nat.cast_zero]
  constructor <;> linarith

end

/-! ## Rows -/

theorem pairwise_length_chunks {β : Type} {size : Nat} (hsize : 0 < size) (xs : List β) :
    (chunks size xs).Pairwise fun row row' => row'.length ≤ row.length := by
  induction xs using chunks.induct size with
  | case1 =>
    rw [chunks]
    exact .nil
  | case2 x xs ih =>
    rw [chunks]
    refine List.pairwise_cons.mpr ⟨fun row hrow => ?_, ih⟩
    have hfirst : x :: xs.take (size - 1) ∈ (chunks size (x :: xs)).dropLast := by
      rw [chunks, List.dropLast_cons_of_ne_nil (List.ne_nil_of_mem hrow)]
      exact .head _
    rw [length_of_mem_dropLast_chunks hsize hfirst]
    exact length_le_of_mem_chunks hsize hrow

section
variable {α : Type} [Scalar α] {c : LayoutConfig α} {nodes : List Node} {ranking : Ranking}
  {l : Layer α} {label : LayerLabel α}

/-- No row has more boxes than one below it. -/
theorem pairwise_length_rows (hl : l ∈ (c.pyramid nodes ranking).layers) :
    l.rows.Pairwise fun row row' => row'.length ≤ row.length := by
  obtain ⟨ids, -, hrows⟩ := exists_rows_eq_chunks hl
  rw [hrows]
  exact pairwise_length_chunks c.rowCapacity_pos ids

theorem ne_nil_of_mem_rows (hl : l ∈ (c.pyramid nodes ranking).layers) {row : List String}
    (hrow : row ∈ l.rows) : row ≠ [] := by
  obtain ⟨ids, -, hrows⟩ := exists_rows_eq_chunks hl
  rw [hrows] at hrow
  exact ne_nil_of_mem_chunks hrow

theorem exists_rows_eq_cons (hl : l ∈ (c.pyramid nodes ranking).layers) :
    ∃ row rows, l.rows = row :: rows := by
  obtain ⟨ids, hids, hrows⟩ := exists_rows_eq_chunks hl
  rw [hrows]
  exact List.exists_cons_of_ne_nil (mt chunks_eq_nil_iff.mp hids)

theorem length_pos_of_rows_eq_cons (hl : l ∈ (c.pyramid nodes ranking).layers) {row : List String}
    {rows : List (List String)} (hrows : l.rows = row :: rows) : 0 < row.length := by
  refine List.length_pos_of_ne_nil (ne_nil_of_mem_rows hl ?_)
  rw [hrows]
  exact List.mem_cons_self

theorem mem_map_snd_places {p : Point α} :
    p ∈ (c.places l).map (·.2) ↔ ∃ r row i, l.rows[r]? = some row ∧ i < row.length ∧
      p = ⟨c.columnX i row.length, c.rowY l.offset r⟩ := by
  simp only [List.mem_map, Prod.exists, exists_eq_right, mem_places]
  constructor
  · rintro ⟨id, r, row, i, hrow, hid, rfl⟩
    exact ⟨r, row, i, hrow, (List.getElem?_eq_some_iff.mp hid).1, rfl⟩
  · rintro ⟨r, row, i, hrow, hi, rfl⟩
    exact ⟨_, r, row, i, hrow, List.getElem?_eq_getElem hi, rfl⟩

/-- The caption that is found for a layer is its own. -/
theorem label?_eq_labelOf? (hl : l ∈ (c.pyramid nodes ranking).layers) :
    (c.pyramid nodes ranking).label? l.key = c.labelOf? l := by
  obtain ⟨label, hlabel⟩ := exists_label? hl
  have hkey : label.key = l.key := by simpa using List.find?_some hlabel
  obtain ⟨l', hl', hlabel'⟩ := List.mem_filterMap.mp (List.mem_of_find?_eq_some hlabel)
  have hkeys : ((c.pyramid nodes ranking).layers.map (·.key)).Nodup := by
    rw [map_key_layers]
    exact (ascending_keys_partition nodes ranking).nodup
  have hsame : l'.key = l.key := (labelOf?_eq_some_iff.mp hlabel').1.symm.trans hkey
  rw [hlabel, ← List.inj_on_of_nodup_map hkeys hl' hl hsame, hlabel']

end

/-! ## Ends of a band -/

variable {c : LayoutConfig ℚ} {nodes : List Node} {ranking : Ranking} {l : Layer ℚ}
  {row : List String} {rows : List (List String)}

theorem Accepted.rowY_antitone (H : c.Accepted) (offset : ℚ) {r s : Nat} (h : r ≤ s) :
    c.rowY offset s ≤ c.rowY offset r := by
  have hgap := mul_le_mul_of_nonneg_right (Nat.cast_le (α := ℚ).mpr h) H.rowGap_nonneg
  rw [rowY_eq, rowY_eq]
  linarith

/-- Every box of a band is within the columns of the lowest row and no higher than the last row. -/
theorem Accepted.mem_bounds_of_mem_places (H : c.Accepted)
    (hl : l ∈ (c.pyramid nodes ranking).layers) (hrows : l.rows = row :: rows) {p : Point ℚ}
    (hp : p ∈ (c.places l).map (·.2)) :
    c.columnX 0 row.length ≤ p.x ∧ p.x ≤ c.columnX (row.length - 1) row.length ∧
      c.rowY l.offset rows.length ≤ p.y := by
  obtain ⟨r, row', i, hr, hi, rfl⟩ := mem_map_snd_places.mp hp
  have hlengths := pairwise_length_rows hl
  rw [hrows] at hr hlengths
  have hshorter : row'.length ≤ row.length := by
    rcases List.mem_cons.mp (List.mem_of_getElem? hr) with rfl | hmem
    · exact le_rfl
    · exact (List.pairwise_cons.mp hlengths).1 row' hmem
  have hlast : r ≤ rows.length := by
    have hlt := (List.getElem?_eq_some_iff.mp hr).1
    rw [List.length_cons] at hlt
    omega
  exact ⟨(H.columnX_mem_bounds hi hshorter).1, (H.columnX_mem_bounds hi hshorter).2,
    H.rowY_antitone l.offset hlast⟩

theorem mem_places_first (hrows : l.rows = row :: rows) {i : Nat} (hi : i < row.length) :
    ⟨c.columnX i row.length, c.rowY l.offset 0⟩ ∈ (c.places l).map (·.2) :=
  mem_map_snd_places.mpr ⟨0, row, i, by rw [hrows]; rfl, hi, rfl⟩

theorem exists_mem_places_last (hl : l ∈ (c.pyramid nodes ranking).layers)
    (hrows : l.rows = row :: rows) :
    ∃ p ∈ (c.places l).map (·.2), p.y = c.rowY l.offset rows.length := by
  have hlast : rows.length < l.rows.length := by
    rw [hrows]
    exact Nat.lt_succ_self _
  have hne := ne_nil_of_mem_rows hl (List.getElem_mem hlast)
  exact ⟨_, mem_map_snd_places.mpr ⟨rows.length, _, 0, List.getElem?_eq_getElem hlast,
    List.length_pos_of_ne_nil hne, rfl⟩, rfl⟩

/-- The caption of a band is at the last box of the lowest row and at the height of the last row. -/
theorem Accepted.label?_eq (H : c.Accepted) (hl : l ∈ (c.pyramid nodes ranking).layers)
    (hrows : l.rows = row :: rows) :
    (c.pyramid nodes ranking).label? l.key =
      some ⟨l.key, c.columnX (row.length - 1) row.length, c.rowY l.offset rows.length⟩ := by
  have hpos := length_pos_of_rows_eq_cons hl hrows
  obtain ⟨label, hlabel⟩ := exists_labelOf? hl
  obtain ⟨hkey, q, qs, hcons, hx, hy⟩ := labelOf?_eq_some_iff.mp hlabel
  have hbounds := fun p hp => H.mem_bounds_of_mem_places hl hrows (p := p) hp
  -- The greatest column and the least height are both taken by a box, though not by the same one.
  have hright : ((q :: qs).map (·.x)).max? = some (c.columnX (row.length - 1) row.length) := by
    rw [← hcons, List.max?_eq_some_iff]
    refine ⟨List.mem_map_of_mem (mem_places_first hrows (Nat.sub_lt hpos Nat.one_pos)), ?_⟩
    simpa only [List.forall_mem_map] using fun p hp => (hbounds p hp).2.1
  have htop : ((q :: qs).map (·.y)).min? = some (c.rowY l.offset rows.length) := by
    rw [← hcons, List.min?_eq_some_iff]
    obtain ⟨p, hp, hpy⟩ := exists_mem_places_last hl hrows
    refine ⟨hpy ▸ List.mem_map_of_mem hp, ?_⟩
    simpa only [List.forall_mem_map] using fun p hp => (hbounds p hp).2.2
  have hxeq : label.x = c.columnX (row.length - 1) row.length := Option.some.inj (hx ▸ hright)
  have hyeq : label.y = c.rowY l.offset rows.length := Option.some.inj (hy ▸ htop)
  rw [label?_eq_labelOf? hl, hlabel, ← hkey, ← hxeq, ← hyeq]

/-- The left end of a band is the first box of the lowest row. -/
theorem Accepted.smallest_x_eq (H : c.Accepted) (hnodes : (nodes.map (·.id)).Nodup)
    (hl : l ∈ (c.pyramid nodes ranking).layers) (hrows : l.rows = row :: rows) :
    Scalar.smallest ((l.rows.flatten.filterMap (c.pyramid nodes ranking).position?).map (·.x)) =
      c.columnX 0 row.length := by
  rw [filterMap_position?_flatten hnodes hl]
  have hmin : (((c.places l).map (·.2)).map (·.x)).min? = some (c.columnX 0 row.length) := by
    rw [List.min?_eq_some_iff]
    have hfirst := mem_places_first (c := c) hrows (length_pos_of_rows_eq_cons hl hrows)
    refine ⟨List.mem_map_of_mem hfirst, ?_⟩
    simpa only [List.forall_mem_map] using
      fun p hp => (H.mem_bounds_of_mem_places hl hrows (p := p) hp).1
  exact congrArg (Option.getD · 0) hmin

end LayoutConfig
end RulePyramid
