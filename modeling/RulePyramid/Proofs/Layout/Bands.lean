import RulePyramid.Proofs.Order

/-!
The bands of a pyramid. Each layer key that a node has is the key of one band, which lists the ids
of those nodes in ascending order (`mem_partition`); bands ascend by height, and none of it depends
on the order of the nodes (`partition_congr`). Stacking cuts the bands into rows and loses nothing
of them (`map_stack`).
-/

namespace RulePyramid

/-- Where a node stands among others: by the height of its band, then by its id. -/
def Ranking.place (r : Ranking) (group id : String) : WithTop Nat ×ₗ String :=
  toLex ((r.layerKey group).height, id)

namespace LayoutConfig

variable {nodes nodes' : List Node} {ranking : Ranking} {key : LayerKey} {ids : List String}

/-! ## Partition -/

/-- The ids of the nodes with a layer key, in ascending order. -/
def idsOf (nodes : List Node) (ranking : Ranking) (key : LayerKey) : List String :=
  ((nodes.filter fun n => ranking.layerKey n.group = key).map (·.id)).mergeSort

theorem partition_eq (nodes : List Node) (ranking : Ranking) :
    partition nodes ranking =
      ((nodes.map fun n => ranking.layerKey n.group).eraseDups.mergeSort LayerKey.le).map fun key =>
        (key, idsOf nodes ranking key) := by
  simp only [partition, idsOf, List.map_map, List.filter_map, Function.comp_def]

theorem map_fst_partition (nodes : List Node) (ranking : Ranking) :
    (partition nodes ranking).map (·.1) =
      (nodes.map fun n => ranking.layerKey n.group).eraseDups.mergeSort LayerKey.le := by
  rw [partition_eq, List.map_map, Function.comp_def, List.map_id']

theorem ascending_keys_partition (nodes : List Node) (ranking : Ranking) :
    Ascending LayerKey.height ((partition nodes ranking).map (·.1)) := by
  rw [map_fst_partition]
  exact sortsBy_layerKeys.ascending_mergeSort (nodup_eraseDups _)

theorem mem_keys_partition :
    key ∈ (partition nodes ranking).map (·.1) ↔ ∃ n ∈ nodes, ranking.layerKey n.group = key := by
  rw [map_fst_partition, List.mem_mergeSort, List.mem_eraseDups, List.mem_map]

theorem mem_partition :
    (key, ids) ∈ partition nodes ranking ↔
      (∃ n ∈ nodes, ranking.layerKey n.group = key) ∧ ids = idsOf nodes ranking key := by
  rw [← mem_keys_partition, map_fst_partition, partition_eq, List.mem_map]
  constructor
  · rintro ⟨key', hkey, h⟩
    cases h
    exact ⟨hkey, rfl⟩
  · rintro ⟨hkey, rfl⟩
    exact ⟨key, hkey, rfl⟩

theorem mem_idsOf {a : String} :
    a ∈ idsOf nodes ranking key ↔ ∃ n ∈ nodes, ranking.layerKey n.group = key ∧ n.id = a := by
  simp only [idsOf, List.mem_mergeSort, List.mem_map, List.mem_filter, decide_eq_true_eq, and_assoc]

theorem ascending_idsOf (h : (nodes.map (·.id)).Nodup) :
    (idsOf nodes ranking key).Pairwise (· < ·) :=
  sortsBy_ids.ascending_mergeSort (h.sublist (List.filter_sublist.map _))

/-- The bands do not tell in which order the nodes came. -/
theorem partition_congr (h : nodes.Perm nodes') :
    partition nodes ranking = partition nodes' ranking := by
  have hkeys : (partition nodes ranking).map (·.1) = (partition nodes' ranking).map (·.1) :=
    (ascending_keys_partition nodes ranking).ext (ascending_keys_partition nodes' ranking)
      fun key => by simp only [mem_keys_partition, h.mem_iff]
  rw [map_fst_partition, map_fst_partition] at hkeys
  have hids : idsOf nodes ranking = idsOf nodes' ranking :=
    funext fun key => sortsBy_ids.mergeSort_congr ((h.filter _).map _)
  rw [partition_eq, partition_eq, hkeys, hids]

/-- The ids of the bands, one band after the other, stand in the order of places. -/
theorem pairwise_flatMap_partition (h : (nodes.map (·.id)).Nodup) :
    ((partition nodes ranking).flatMap (·.2)).Pairwise fun a b => ∀ n ∈ nodes, ∀ m ∈ nodes,
      n.id = a → m.id = b → ranking.place n.group a < ranking.place m.group b := by
  have hkey : ∀ {band n}, band ∈ partition nodes ranking → n ∈ nodes → n.id ∈ band.2 →
      ranking.layerKey n.group = band.1 := by
    intro band n hband hn hmem
    obtain ⟨-, hids⟩ := mem_partition.mp hband
    rw [hids, mem_idsOf] at hmem
    obtain ⟨m, hm, hkey, hid⟩ := hmem
    rwa [← List.inj_on_of_nodup_map h hm hn hid]
  refine List.pairwise_flatMap.mpr ⟨fun band hband => ?_, ?_⟩
  · obtain ⟨-, hids⟩ := mem_partition.mp hband
    have hasc : band.2.Pairwise (· < ·) := hids ▸ ascending_idsOf h
    refine hasc.imp_of_mem ?_
    rintro _ _ hamem hbmem hlt n hn m hm rfl rfl
    rw [Ranking.place, Ranking.place, hkey hband hn hamem, hkey hband hm hbmem]
    exact Prod.Lex.toLex_lt_toLex.mpr (.inr ⟨rfl, hlt⟩)
  · have hasc := ascending_keys_partition nodes ranking
    rw [Ascending, List.pairwise_map] at hasc
    refine hasc.imp_of_mem ?_
    rintro band band' hband hband' hlt _ hamem _ hbmem n hn m hm rfl rfl
    rw [Ranking.place, Ranking.place, hkey hband hn hamem, hkey hband' hm hbmem]
    exact Prod.Lex.toLex_lt_toLex.mpr (.inl hlt)

/-! ## Rows -/

theorem flatten_chunks {β : Type} (size : Nat) (xs : List β) : (chunks size xs).flatten = xs := by
  induction xs using chunks.induct size with
  | case1 => rw [chunks]; rfl
  | case2 x xs ih => rw [chunks, List.flatten_cons, ih, List.cons_append, List.take_append_drop]

variable {α : Type} [Scalar α] (c : LayoutConfig α)

/-- The layers are the bands, from the lowest one on. -/
theorem map_stack (offset : α) (bands : List (LayerKey × List String)) :
    (c.stack ranking offset bands).map (fun l => (l.key, l.rows.flatten)) = bands := by
  induction bands generalizing offset with
  | nil => rfl
  | cons band bands ih =>
    obtain ⟨key, ids⟩ := band
    rw [stack, List.map_cons, ih, flatten_chunks]

/-! ## Places -/

theorem map_fst_places (l : Layer α) : (c.places l).map (·.1) = l.rows.flatten := by
  have hrows : (c.places l).map (·.1) = l.rows.zipIdx.flatMap (·.1) := by
    rw [places, List.map_flatMap]
    refine congrArg (List.flatMap · _) (funext fun p => ?_)
    rw [List.map_map]
    exact List.zipIdx_map_fst 0 p.1
  rw [hrows, List.flatMap_def, List.zipIdx_map_fst]

omit [Scalar α] in
theorem isSome_foldl_insert {a : String} (ps : List (String × Point α))
    (m : Std.TreeMap String (Point α)) :
    (ps.foldl (fun m (id, p) => m.insert id p) m)[a]?.isSome ↔ a ∈ ps.map (·.1) ∨ m[a]?.isSome := by
  induction ps generalizing m with
  | nil => simp
  | cons p ps ih =>
    obtain ⟨id, p⟩ := p
    rw [List.foldl_cons, ih, Std.TreeMap.getElem?_insert, List.map_cons, List.mem_cons]
    by_cases h : a = id
    · simp [h]
    · have hne : compare id a ≠ .eq := fun heq => h (Std.compare_eq_iff_eq.mp heq).symm
      simp [h, hne]

/-! ## The pyramid -/

variable {c}

theorem map_layers (c : LayoutConfig α) (nodes : List Node) (ranking : Ranking) :
    (c.pyramid nodes ranking).layers.map (fun l => (l.key, l.rows.flatten)) =
      partition nodes ranking :=
  c.map_stack _ _

theorem map_key_layers (c : LayoutConfig α) (nodes : List Node) (ranking : Ranking) :
    (c.pyramid nodes ranking).layers.map (·.key) = (partition nodes ranking).map (·.1) := by
  rw [← map_layers c, List.map_map, Function.comp_def]

theorem rows_flatten_of_mem_layers {l : Layer α} (h : l ∈ (c.pyramid nodes ranking).layers) :
    (∃ n ∈ nodes, ranking.layerKey n.group = l.key) ∧
      l.rows.flatten = idsOf nodes ranking l.key := by
  rw [← mem_partition, ← map_layers c]
  exact List.mem_map.mpr ⟨l, h, rfl⟩

/-- The ids from the lowest row on are those of the bands. -/
theorem flatMap_rows (c : LayoutConfig α) (nodes : List Node) (ranking : Ranking) :
    (c.pyramid nodes ranking).layers.flatMap (·.rows.flatten) =
      (partition nodes ranking).flatMap (·.2) := by
  rw [← map_layers c, List.flatMap_map]

theorem mem_flatMap_partition {a : String} :
    a ∈ (partition nodes ranking).flatMap (·.2) ↔ ∃ n ∈ nodes, n.id = a := by
  rw [List.mem_flatMap]
  constructor
  · rintro ⟨⟨key, ids⟩, hband, ha⟩
    obtain ⟨-, rfl⟩ := mem_partition.mp hband
    obtain ⟨n, hn, -, hid⟩ := mem_idsOf.mp ha
    exact ⟨n, hn, hid⟩
  · rintro ⟨n, hn, hid⟩
    exact ⟨_, mem_partition.mpr ⟨⟨n, hn, rfl⟩, rfl⟩, mem_idsOf.mpr ⟨n, hn, rfl, hid⟩⟩

/-- The ids of the places are those of the bands. -/
theorem map_fst_flatMap_places (c : LayoutConfig α) (nodes : List Node) (ranking : Ranking) :
    ((c.pyramid nodes ranking).layers.flatMap c.places).map (·.1) =
      (partition nodes ranking).flatMap (·.2) := by
  rw [List.map_flatMap, ← flatMap_rows c]
  exact congrArg (List.flatMap · _) (funext c.map_fst_places)

/-- Every node has a place, and nothing else has. -/
theorem isSome_position?_iff {a : String} :
    ((c.pyramid nodes ranking).position? a).isSome ↔ ∃ n ∈ nodes, n.id = a := by
  have hsome := isSome_foldl_insert (a := a) ((c.pyramid nodes ranking).layers.flatMap c.places) ∅
  rw [map_fst_flatMap_places, mem_flatMap_partition] at hsome
  refine hsome.trans (or_iff_left ?_)
  simp

theorem labelOf?_eq_some_iff {l : Layer α} {label : LayerLabel α} :
    c.labelOf? l = some label ↔ label.key = l.key ∧ ∃ q qs, (c.places l).map (·.2) = q :: qs ∧
      label.x = (qs.map (·.x)).foldl max q.x ∧ label.y = (qs.map (·.y)).foldl min q.y := by
  obtain ⟨key, x, y⟩ := label
  unfold labelOf?
  split
  · next hnil => simp [hnil]
  · next q qs hcons =>
    simp only [hcons, Option.some.injEq, LayerLabel.mk.injEq, List.cons.injEq]
    constructor
    · rintro ⟨rfl, rfl, rfl⟩
      exact ⟨rfl, q, qs, ⟨rfl, rfl⟩, rfl, rfl⟩
    · rintro ⟨rfl, _, _, ⟨rfl, rfl⟩, rfl, rfl⟩
      exact ⟨rfl, rfl, rfl⟩

theorem exists_labelOf? {l : Layer α} (h : l ∈ (c.pyramid nodes ranking).layers) :
    ∃ label, c.labelOf? l = some label := by
  obtain ⟨⟨n, hn, hkey⟩, hrows⟩ := rows_flatten_of_mem_layers h
  have hmem : n.id ∈ (c.places l).map (·.1) := by
    rw [map_fst_places, hrows]
    exact mem_idsOf.mpr ⟨n, hn, hkey, rfl⟩
  have hne : (c.places l).map (·.2) ≠ [] := fun hnil => by
    rw [List.map_eq_nil_iff.mp hnil] at hmem
    cases hmem
  obtain ⟨q, qs, hcons⟩ := List.exists_cons_of_ne_nil hne
  exact ⟨⟨l.key, _, _⟩, labelOf?_eq_some_iff.mpr ⟨rfl, q, qs, hcons, rfl, rfl⟩⟩

/-- Every layer has a caption. -/
theorem exists_label? {l : Layer α} (h : l ∈ (c.pyramid nodes ranking).layers) :
    ∃ label, (c.pyramid nodes ranking).label? l.key = some label := by
  obtain ⟨label, hlabel⟩ := exists_labelOf? h
  rw [← Option.isSome_iff_exists, Pyramid.label?, List.find?_isSome]
  exact ⟨label, List.mem_filterMap.mpr ⟨l, h, hlabel⟩,
    decide_eq_true (labelOf?_eq_some_iff.mp hlabel).1⟩

end LayoutConfig
end RulePyramid
