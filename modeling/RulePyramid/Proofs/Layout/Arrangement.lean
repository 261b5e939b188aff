import RulePyramid.Proofs.Layout.Bands

/-!
Where a pyramid puts its nodes. Cutting a band into rows fills every row but the last
(`length_of_mem_dropLast_chunks`), stacking adds up what the bands below take
(`isChain_offset_stack`), and no place is given twice, so an id is where its row puts it
(`position?_eq_some_of_mem_places`). Together these say what the pyramid of some nodes is
(`arranges_pyramid`).
-/

namespace RulePyramid

/-! ## Ranks -/

/-- The rank that a band is for; the band for all other nodes has none. -/
def LayerKey.ordinal? : LayerKey → Option Nat
  | .ranked ordinal => some ordinal
  | .ungrouped => none

namespace Ranking

variable {r : Ranking} {group : String} {key : LayerKey} {ordinal : Nat}

theorem layerKey_eq_iff : r.layerKey group = key ↔ r.ordinal? group = key.ordinal? := by
  rw [layerKey]
  cases r.ordinal? group <;> cases key <;> simp [LayerKey.ordinal?]

/-- A rank leads back to the name that has it. -/
theorem groupAt?_of_ordinal?_eq_some (h : r.ordinal? group = some ordinal) :
    r.groupAt? ordinal = some group := by
  obtain ⟨i, hi, rfl⟩ := Option.map_eq_some_iff.mp h
  obtain ⟨hlt, hget, -⟩ := List.idxOf?_eq_some_iff.mp hi
  rw [groupAt?, List.getElem?_eq_getElem hlt, hget]

theorem layerGroup_of_ordinal?_eq_some (h : r.ordinal? group = some ordinal) :
    r.layerGroup (.ranked ordinal) = group := by
  rw [layerGroup, groupAt?_of_ordinal?_eq_some h, Option.getD_some]

end Ranking

theorem Layer.contains_iff {α : Type} {l : Layer α} {id : String} :
    l.contains id ↔ id ∈ l.rows.flatten := by
  simp only [contains, List.any_eq_true, List.contains_iff_mem, List.mem_flatten]

namespace LayoutConfig

/-! ## Rows -/

section
variable {β : Type} {size : Nat} {xs row : List β}

theorem chunks_eq_nil_iff : chunks size xs = [] ↔ xs = [] := by
  cases xs with
  | nil => simp [chunks]
  | cons x xs => simp [chunks]

theorem ne_nil_of_mem_chunks (h : row ∈ chunks size xs) : row ≠ [] := by
  induction xs using chunks.induct size with
  | case1 => simp [chunks] at h
  | case2 x xs ih =>
    rw [chunks, List.mem_cons] at h
    rcases h with rfl | h
    · exact List.cons_ne_nil _ _
    · exact ih h

theorem length_le_of_mem_chunks (hsize : 0 < size) (h : row ∈ chunks size xs) :
    row.length ≤ size := by
  induction xs using chunks.induct size with
  | case1 => simp [chunks] at h
  | case2 x xs ih =>
    rw [chunks, List.mem_cons] at h
    rcases h with rfl | h
    · rw [List.length_cons, List.length_take]
      omega
    · exact ih h

/-- A row that another one follows is full: nothing would be left for that one otherwise. -/
theorem length_of_mem_dropLast_chunks (hsize : 0 < size) (h : row ∈ (chunks size xs).dropLast) :
    row.length = size := by
  induction xs using chunks.induct size with
  | case1 => simp [chunks] at h
  | case2 x xs ih =>
    rw [chunks] at h
    by_cases hrest : xs.drop (size - 1) = []
    · rw [chunks_eq_nil_iff.mpr hrest] at h
      cases h
    · rw [List.dropLast_cons_of_ne_nil (mt chunks_eq_nil_iff.mp hrest), List.mem_cons] at h
      rcases h with rfl | h
      · have hlong : size - 1 < xs.length := by simpa using hrest
        rw [List.length_cons, List.length_take]
        omega
      · exact ih h

end

variable {α : Type} [Scalar α] {c : LayoutConfig α} {nodes : List Node} {ranking : Ranking}
  {l : Layer α} {id : String} {p : Point α} {offset : α} {bands : List (LayerKey × List String)}

omit [Scalar α] in
theorem rowCapacity_pos (c : LayoutConfig α) : 0 < c.rowCapacity := by
  rw [rowCapacity]
  omega

/-! ## Stacking -/

/-- A layer is a band cut into rows, and it is called after the group of its rank. -/
theorem exists_ids_of_mem_stack (h : l ∈ c.stack ranking offset bands) :
    ∃ ids, (l.key, ids) ∈ bands ∧ l.rows = chunks c.rowCapacity ids ∧
      l.group = ranking.layerGroup l.key := by
  induction bands generalizing offset with
  | nil => cases h
  | cons band bands ih =>
    obtain ⟨key, ids⟩ := band
    rw [stack, List.mem_cons] at h
    rcases h with rfl | h
    · exact ⟨ids, List.mem_cons_self, rfl, rfl⟩
    · obtain ⟨ids', hmem, hrest⟩ := ih h
      exact ⟨ids', List.mem_cons_of_mem _ hmem, hrest⟩

theorem offset_of_mem_head?_stack (h : l ∈ (c.stack ranking offset bands).head?) :
    l.offset = offset := by
  cases bands with
  | nil => cases h
  | cons band bands =>
    cases h
    rfl

/-- A layer stands on the one below it. -/
theorem isChain_offset_stack (c : LayoutConfig α) (ranking : Ranking) (offset : α)
    (bands : List (LayerKey × List String)) :
    (c.stack ranking offset bands).IsChain fun l l' =>
      l'.offset = l.offset + c.layerExtent l.rowCount := by
  induction bands generalizing offset with
  | nil => exact .nil
  | cons band bands ih =>
    cases bands with
    | nil => exact .singleton _
    | cons band' bands => exact List.isChain_cons_cons.mpr ⟨rfl, ih _⟩

/-! ## Places -/

/-- An id has a place for its column and its row. -/
theorem mem_places :
    (id, p) ∈ c.places l ↔ ∃ r row i, l.rows[r]? = some row ∧ row[i]? = some id ∧
      p = ⟨c.columnX i row.length, c.rowY l.offset r⟩ := by
  simp only [places, List.mem_flatMap, List.mem_map, Prod.exists, List.mem_zipIdx_iff_getElem?,
    Prod.mk.injEq]
  constructor
  · rintro ⟨row, r, hrow, id', i, hid, rfl, rfl⟩
    exact ⟨r, row, i, hrow, hid, rfl⟩
  · rintro ⟨r, row, i, hrow, hid, rfl⟩
    exact ⟨row, r, hrow, id, i, hid, rfl, rfl⟩

omit [Scalar α] in
theorem getElem?_foldl_insert_of_notMem {ps : List (String × Point α)}
    (h : id ∉ ps.map (·.1)) (m : Std.TreeMap String (Point α)) :
    (ps.foldl (fun m (id, p) => m.insert id p) m)[id]? = m[id]? := by
  induction ps generalizing m with
  | nil => rfl
  | cons q ps ih =>
    rw [List.map_cons, List.mem_cons, not_or] at h
    have hne : compare q.1 id ≠ .eq := fun heq => h.1 (Std.compare_eq_iff_eq.mp heq).symm
    rw [List.foldl_cons, ih h.2, Std.TreeMap.getElem?_insert, if_neg hne]

omit [Scalar α] in
/-- As long as no id comes twice, nothing is written over. -/
theorem getElem?_foldl_insert_of_mem {ps : List (String × Point α)} (hnodup : (ps.map (·.1)).Nodup)
    (h : (id, p) ∈ ps) (m : Std.TreeMap String (Point α)) :
    (ps.foldl (fun m (id, p) => m.insert id p) m)[id]? = some p := by
  induction ps generalizing m with
  | nil => cases h
  | cons q ps ih =>
    rw [List.map_cons, List.nodup_cons] at hnodup
    rw [List.foldl_cons]
    rcases List.mem_cons.mp h with rfl | h
    · rw [getElem?_foldl_insert_of_notMem hnodup.1, Std.TreeMap.getElem?_insert_self]
    · exact ih hnodup.2 h _

theorem nodup_flatMap_partition (h : (nodes.map (·.id)).Nodup) :
    ((partition nodes ranking).flatMap (·.2)).Nodup := by
  refine (pairwise_flatMap_partition h).imp_of_mem ?_
  rintro a b ha - hlt rfl
  obtain ⟨n, hn, hid⟩ := mem_flatMap_partition.mp ha
  exact (hlt n hn n hn hid hid).false

theorem position?_eq_some_of_mem_places (h : (nodes.map (·.id)).Nodup)
    (hl : l ∈ (c.pyramid nodes ranking).layers) (hp : (id, p) ∈ c.places l) :
    (c.pyramid nodes ranking).position? id = some p := by
  refine getElem?_foldl_insert_of_mem ?_ (List.mem_flatMap.mpr ⟨l, hl, hp⟩) ∅
  rw [map_fst_flatMap_places]
  exact nodup_flatMap_partition h

/-- What has a position is in a place of some layer. -/
theorem position?_eq_some_iff (h : (nodes.map (·.id)).Nodup) :
    (c.pyramid nodes ranking).position? id = some p ↔
      ∃ l ∈ (c.pyramid nodes ranking).layers, (id, p) ∈ c.places l := by
  constructor
  · intro hp
    obtain ⟨n, hn, rfl⟩ := isSome_position?_iff.mp (Option.isSome_iff_exists.mpr ⟨p, hp⟩)
    have hmem : n.id ∈ ((c.pyramid nodes ranking).layers.flatMap c.places).map (·.1) := by
      rw [map_fst_flatMap_places, mem_flatMap_partition]
      exact ⟨n, hn, rfl⟩
    obtain ⟨⟨a, q⟩, hq, rfl : a = n.id⟩ := List.mem_map.mp hmem
    obtain ⟨l, hl, hq⟩ := List.mem_flatMap.mp hq
    have hpq := hp.symm.trans (position?_eq_some_of_mem_places h hl hq)
    exact ⟨l, hl, Option.some.inj hpq ▸ hq⟩
  · rintro ⟨l, hl, hp⟩
    exact position?_eq_some_of_mem_places h hl hp

theorem filterMap_position?_flatten (h : (nodes.map (·.id)).Nodup)
    (hl : l ∈ (c.pyramid nodes ranking).layers) :
    l.rows.flatten.filterMap (c.pyramid nodes ranking).position? = (c.places l).map (·.2) := by
  rw [← map_fst_places c, List.filterMap_map, ← List.filterMap_eq_map']
  exact List.filterMap_congr fun _ hp => position?_eq_some_of_mem_places h hl hp

/-! ## The pyramid -/

theorem mem_flatten_rows_iff (hl : l ∈ (c.pyramid nodes ranking).layers) :
    id ∈ l.rows.flatten ↔ ∃ n ∈ nodes, n.id = id ∧ ranking.ordinal? n.group = l.key.ordinal? := by
  rw [(rows_flatten_of_mem_layers hl).2, mem_idsOf]
  simp only [Ranking.layerKey_eq_iff, and_comm]

/-- A node is in the layer of its rank. -/
theorem exists_layer_of_mem {n : Node} (hn : n ∈ nodes) (ranking : Ranking) (c : LayoutConfig α) :
    ∃ l ∈ (c.pyramid nodes ranking).layers, l.key = ranking.layerKey n.group ∧
      n.id ∈ l.rows.flatten := by
  have hkey : ranking.layerKey n.group ∈ (c.pyramid nodes ranking).layers.map (·.key) := by
    rw [map_key_layers, mem_keys_partition]
    exact ⟨n, hn, rfl⟩
  obtain ⟨l, hl, hkey⟩ := List.mem_map.mp hkey
  refine ⟨l, hl, hkey, ?_⟩
  rw [(rows_flatten_of_mem_layers hl).2, mem_idsOf]
  exact ⟨n, hn, hkey.symm, rfl⟩

/-- The layer in which a node is found is that of its rank, and it is called after this rank. -/
theorem exists_layerOf? {n : Node} (h : (nodes.map (·.id)).Nodup) (hn : n ∈ nodes)
    (ranking : Ranking) (c : LayoutConfig α) :
    ∃ l ∈ (c.pyramid nodes ranking).layers, (c.pyramid nodes ranking).layerOf? n.id = some l ∧
      ranking.layerKey n.group = l.key ∧ l.group = ranking.layerGroup l.key := by
  have hfound : ((c.pyramid nodes ranking).layerOf? n.id).isSome := by
    obtain ⟨l, hl, -, hid⟩ := exists_layer_of_mem hn ranking c
    rw [Pyramid.layerOf?, List.find?_isSome]
    exact ⟨l, hl, Layer.contains_iff.mpr hid⟩
  obtain ⟨l, hlayer⟩ := Option.isSome_iff_exists.mp hfound
  have hl := List.mem_of_find?_eq_some hlayer
  have hcontains := List.find?_some hlayer
  obtain ⟨m, hm, hid, hordinal⟩ := (mem_flatten_rows_iff hl).mp (Layer.contains_iff.mp hcontains)
  obtain rfl := List.inj_on_of_nodup_map h hm hn hid
  obtain ⟨-, -, -, hgroup⟩ := exists_ids_of_mem_stack hl
  exact ⟨l, hl, hlayer, Ranking.layerKey_eq_iff.mpr hordinal, hgroup⟩

theorem exists_rows_eq_chunks (hl : l ∈ (c.pyramid nodes ranking).layers) :
    ∃ ids ≠ [], l.rows = chunks c.rowCapacity ids := by
  obtain ⟨ids, hband, hrows, -⟩ := exists_ids_of_mem_stack hl
  obtain ⟨⟨n, hn, hkey⟩, rfl⟩ := mem_partition.mp hband
  exact ⟨_, List.ne_nil_of_mem (mem_idsOf.mpr ⟨n, hn, hkey, rfl⟩), hrows⟩

end LayoutConfig

/-- The caption of a band is at the right end of its nodes and at the height of the topmost. -/
def Pyramid.IsCaption {α : Type} [Scalar α] (p : Pyramid α) (l : Layer α) (label : LayerLabel α) :
    Prop :=
  label.key = l.key ∧ ∃ q qs, l.rows.flatten.filterMap p.position? = q :: qs ∧
    label.x = (qs.map (·.x)).foldl max q.x ∧ label.y = (qs.map (·.y)).foldl min q.y

/-- A pyramid arranges some nodes: each is in one band, in one row and in one place. -/
structure Pyramid.Arranges {α : Type} [Scalar α] (p : Pyramid α) (c : LayoutConfig α)
    (nodes : List Node) (ranking : Ranking) : Prop where
  /-- No two bands have the same key, and they are stacked by rank, the last one without. -/
  keys_ascending : Ascending (fun l => l.key.height) p.layers
  /-- There is a band for each rank that a node has, and for the nodes without a rank. -/
  exists_layer : ∀ n ∈ nodes, ∃ l ∈ p.layers, l.key.ordinal? = ranking.ordinal? n.group
  mem_rows : ∀ l ∈ p.layers, ∀ id, id ∈ l.rows.flatten ↔
    ∃ n ∈ nodes, n.id = id ∧ ranking.ordinal? n.group = l.key.ordinal?
  rows_ascending : ∀ l ∈ p.layers, l.rows.flatten.Pairwise (· < ·)
  /-- A ranked band is called after the group of its nodes. -/
  group_eq : ∀ l ∈ p.layers, l.key ≠ .ungrouped → ∀ n ∈ nodes, n.id ∈ l.rows.flatten →
    n.group = l.group
  group_eq_ungrouped : ∀ l ∈ p.layers, l.key = .ungrouped → l.group = ungrouped
  rows_ne_nil : ∀ l ∈ p.layers, l.rows ≠ []
  row_ne_nil : ∀ l ∈ p.layers, ∀ row ∈ l.rows, row ≠ []
  length_row_le : ∀ l ∈ p.layers, ∀ row ∈ l.rows, row.length ≤ max 1 c.maxNodesPerRow
  /-- All rows are full but the last one of a band. -/
  length_row_eq : ∀ l ∈ p.layers, ∀ row ∈ l.rows.dropLast, row.length = max 1 c.maxNodesPerRow
  mem_positions : ∀ id, id ∈ p.positions ↔ ∃ n ∈ nodes, n.id = id
  position_eq : ∀ l ∈ p.layers, ∀ r row, l.rows[r]? = some row → ∀ i id, row[i]? = some id →
    p.position? id = some ⟨c.columnX i row.length, c.rowY l.offset r⟩
  offset_head : ∀ l ∈ p.layers.head?, l.offset = Scalar.ofNat 0
  /-- Each band stands on the one below it. -/
  offset_next : p.layers.IsChain fun l l' => l'.offset = l.offset + c.layerExtent l.rowCount
  /-- There is one caption for each band, in the same order. -/
  labels : List.Forall₂ p.IsCaption p.layers p.labels

namespace LayoutConfig

variable {α : Type} [Scalar α] {c : LayoutConfig α} {nodes : List Node} {ranking : Ranking}
  {l : Layer α} {label : LayerLabel α}

theorem isCaption_of_labelOf? (h : (nodes.map (·.id)).Nodup)
    (hl : l ∈ (c.pyramid nodes ranking).layers) (hlabel : c.labelOf? l = some label) :
    (c.pyramid nodes ranking).IsCaption l label := by
  rw [Pyramid.IsCaption, filterMap_position?_flatten h hl]
  exact labelOf?_eq_some_iff.mp hlabel

theorem forall₂_isCaption (h : (nodes.map (·.id)).Nodup) {ls : List (Layer α)}
    (hls : ∀ l ∈ ls, l ∈ (c.pyramid nodes ranking).layers) :
    List.Forall₂ (c.pyramid nodes ranking).IsCaption ls (ls.filterMap c.labelOf?) := by
  induction ls with
  | nil => exact .nil
  | cons l ls ih =>
    have hl := hls l List.mem_cons_self
    obtain ⟨label, hlabel⟩ := exists_labelOf? hl
    rw [List.filterMap_cons_some hlabel]
    exact .cons (isCaption_of_labelOf? h hl hlabel) (ih fun l' hl' => hls l' (.tail _ hl'))

/-- **The pyramid of some nodes arranges them all, and nothing else.** -/
theorem arranges_pyramid (h : (nodes.map (·.id)).Nodup) (ranking : Ranking) (c : LayoutConfig α) :
    (c.pyramid nodes ranking).Arranges c nodes ranking where
  keys_ascending := by
    have hasc := ascending_keys_partition nodes ranking
    rwa [← map_key_layers c, Ascending, List.pairwise_map] at hasc
  exists_layer n hn := by
    have hkey : ranking.layerKey n.group ∈ (c.pyramid nodes ranking).layers.map (·.key) := by
      rw [map_key_layers, mem_keys_partition]
      exact ⟨n, hn, rfl⟩
    obtain ⟨l, hl, hkey⟩ := List.mem_map.mp hkey
    exact ⟨l, hl, (Ranking.layerKey_eq_iff.mp hkey.symm).symm⟩
  mem_rows l hl _ := mem_flatten_rows_iff hl
  rows_ascending l hl := by
    rw [(rows_flatten_of_mem_layers hl).2]
    exact ascending_idsOf h
  group_eq l hl hranked n hn hid := by
    obtain ⟨_, -, -, hgroup⟩ := exists_ids_of_mem_stack hl
    obtain ⟨m, hm, hmid, hordinal⟩ := (mem_flatten_rows_iff hl).mp hid
    obtain rfl := List.inj_on_of_nodup_map h hm hn hmid
    cases hkey : l.key with
    | ungrouped => exact (hranked hkey).elim
    | ranked ordinal =>
      rw [hkey] at hordinal
      rw [hgroup, hkey, Ranking.layerGroup_of_ordinal?_eq_some hordinal]
  group_eq_ungrouped l hl hkey := by
    obtain ⟨_, -, -, hgroup⟩ := exists_ids_of_mem_stack hl
    rw [hgroup, hkey, Ranking.layerGroup]
  rows_ne_nil l hl := by
    obtain ⟨ids, hne, hrows⟩ := exists_rows_eq_chunks hl
    rw [hrows]
    exact mt chunks_eq_nil_iff.mp hne
  row_ne_nil l hl row hrow := by
    obtain ⟨ids, -, hrows⟩ := exists_rows_eq_chunks hl
    exact ne_nil_of_mem_chunks (hrows ▸ hrow)
  length_row_le l hl row hrow := by
    obtain ⟨ids, -, hrows⟩ := exists_rows_eq_chunks hl
    rw [Nat.max_comm]
    exact length_le_of_mem_chunks c.rowCapacity_pos (hrows ▸ hrow)
  length_row_eq l hl row hrow := by
    obtain ⟨ids, -, hrows⟩ := exists_rows_eq_chunks hl
    rw [Nat.max_comm]
    exact length_of_mem_dropLast_chunks c.rowCapacity_pos (hrows ▸ hrow)
  mem_positions id := by
    rw [Std.TreeMap.mem_iff_isSome_getElem?]
    exact isSome_position?_iff
  position_eq l hl r row hrow i id hid :=
    position?_eq_some_of_mem_places h hl (mem_places.mpr ⟨r, row, i, hrow, hid, rfl⟩)
  offset_head _ hl := offset_of_mem_head?_stack hl
  offset_next := isChain_offset_stack c ranking _ _
  labels := forall₂_isCaption h fun _ hl => hl

/-- Settings that leave a row no capacity give rows of one. -/
theorem arranges_pyramid_of_no_capacity :
    let nodes : List Node := [⟨"Net", "core", []⟩, ⟨"Note", "misc", []⟩, ⟨"Gross", "core", []⟩]
    let ranking := Ranking.ofGroups [⟨"bonus", "", "", 2⟩, ⟨"Core", "", "", 7⟩]
    let c : LayoutConfig Single := { LayoutConfig.default with maxNodesPerRow := 0 }
    (nodes.map (·.id)).Nodup ∧ (c.pyramid nodes ranking).Arranges c nodes ranking := by
  intro nodes ranking c
  have hids : (nodes.map (·.id)).Nodup := by decide
  exact ⟨hids, arranges_pyramid hids ranking c⟩

end LayoutConfig
end RulePyramid
