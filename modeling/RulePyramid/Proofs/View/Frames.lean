import RulePyramid.Proofs.Layout.Rows
import RulePyramid.Proofs.View.Completeness

/-!
How the boxes of a band stand under its caption and its separator, where coordinates do not round.
The boxes of a view stand in the columns and rows of the layout (`RuleGraph.onGrid_boxes`). On such
a grid each row is centred (`OnGrid.centred`) and reaches no further than a longer one
(`OnGrid.left_le`, `OnGrid.le_right`). Caption and separator are those of the ends of the band
(`Scene.layer?_eq_some_of_accepted`), so they enclose it (`framesBands_componentsGraph`).
-/

namespace RulePyramid

/-! ## Boxes -/

namespace ViewNode

variable (x : ViewNode ℚ)

def left : ℚ := x.position.x - x.size.x / 2

def right : ℚ := x.position.x + x.size.x / 2

def top : ℚ := x.position.y - x.size.y / 2

end ViewNode

/-- A row of boxes at one height is symmetric about a centre, and neighbours are a pitch apart. -/
structure CentredRow (center pitch : ℚ) (row : List (ViewNode ℚ)) : Prop where
  level : ∀ x ∈ row, ∀ x' ∈ row, x.position.y = x'.position.y
  symmetric : ∀ (i : Nat) (x x' : ViewNode ℚ), row[i]? = some x → row.reverse[i]? = some x' →
    (x.position.x + x'.position.x) / 2 = center
  next : row.IsChain fun x x' => x'.position.x - x.position.x = pitch

/-- What lies between the left edge of some box of a row and the right edge of another one. -/
def rowExtent (row : List (ViewNode ℚ)) : Set ℚ :=
  {t | (∃ x ∈ row, x.left ≤ t) ∧ ∃ x ∈ row, t ≤ x.right}

/-- A caption and its separator frame the rows of a band, which are centred. -/
structure ViewLayer.Frames (y : ViewLayer ℚ) (c : LayoutConfig ℚ)
    (rows : List (List (ViewNode ℚ))) : Prop where
  centred : ∀ row ∈ rows, CentredRow c.centerX (c.nodeWidth + c.horizontalGap) row
  /-- A row reaches no further than those below it. -/
  extent_subset : rows.Pairwise fun row row' => rowExtent row' ⊆ rowExtent row
  /-- The caption is at the last box of the first row and at the height of the last row. The
  separator runs along the top of the last row, as far as the boxes of the first row reach. -/
  ends : ∃ first last a b x, rows.head? = some first ∧ rows.getLast? = some last ∧
    first.head? = some a ∧ first.getLast? = some b ∧ last.head? = some x ∧
    y.labelAnchor = ⟨b.position.x, x.position.y⟩ ∧ y.separatorStart = ⟨a.left, x.top⟩ ∧
    y.separatorStop = ⟨b.right, x.top⟩
  /-- No box sticks out of the separator or above it. -/
  enclosed : ∀ row ∈ rows, ∀ x ∈ row, y.separatorStart.x ≤ x.left ∧ x.right ≤ y.separatorStop.x ∧
    y.separatorStart.y ≤ x.top

/-- The boxes that a view has for the rows of a band. -/
structure View.HasRows {α : Type} (v : View α) (l : Layer α) (rows : List (List (ViewNode α))) :
    Prop where
  map_id : rows.map (·.map (·.id)) = l.rows
  mem_nodes : ∀ row ∈ rows, ∀ x ∈ row, x ∈ v.nodes

/-- The captions of a view frame the bands of a pyramid. -/
def View.FramesBands (v : View ℚ) (p : Pyramid ℚ) (c : LayoutConfig ℚ) : Prop :=
  ∀ y ∈ v.layers, ∃ l ∈ p.layers, l.key = y.key ∧ ∃ rows, v.HasRows l rows ∧ y.Frames c rows

/-! ## Boxes on a grid -/

/-- Boxes stand in the columns of their row. -/
def OnGrid (c : LayoutConfig ℚ) (offset : ℚ) (rows : List (List (ViewNode ℚ))) : Prop :=
  ∀ (r : Nat) row, rows[r]? = some row → ∀ (i : Nat) x, row[i]? = some x →
    x.position = ⟨c.columnX i row.length, c.rowY offset r⟩ ∧ x.size = ⟨c.nodeWidth, c.nodeHeight⟩

namespace OnGrid

variable {c : LayoutConfig ℚ} {offset : ℚ} {rows : List (List (ViewNode ℚ))}
  {row row' : List (ViewNode ℚ)} {x x' : ViewNode ℚ} {i r : Nat}

theorem left_eq (G : OnGrid c offset rows) (hrow : rows[r]? = some row) (hx : row[i]? = some x) :
    x.left = c.columnX i row.length - c.nodeWidth / 2 := by
  obtain ⟨hposition, hsize⟩ := G r row hrow i x hx
  rw [ViewNode.left, hposition, hsize]

theorem right_eq (G : OnGrid c offset rows) (hrow : rows[r]? = some row) (hx : row[i]? = some x) :
    x.right = c.columnX i row.length + c.nodeWidth / 2 := by
  obtain ⟨hposition, hsize⟩ := G r row hrow i x hx
  rw [ViewNode.right, hposition, hsize]

theorem top_eq (G : OnGrid c offset rows) (hrow : rows[r]? = some row) (hx : row[i]? = some x) :
    x.top = c.rowY offset r - c.nodeHeight / 2 := by
  obtain ⟨hposition, hsize⟩ := G r row hrow i x hx
  rw [ViewNode.top, hposition, hsize]

theorem centred (G : OnGrid c offset rows) (hrow : row ∈ rows) :
    CentredRow c.centerX (c.nodeWidth + c.horizontalGap) row := by
  obtain ⟨r, hrow⟩ := List.mem_iff_getElem?.mp hrow
  refine ⟨fun x hx x' hx' => ?_, fun i x x' hx hx' => ?_, ?_⟩
  · obtain ⟨i, hx⟩ := List.mem_iff_getElem?.mp hx
    obtain ⟨i', hx'⟩ := List.mem_iff_getElem?.mp hx'
    rw [(G r row hrow i x hx).1, (G r row hrow i' x' hx').1]
  · have hi := (List.getElem?_eq_some_iff.mp hx).1
    rw [List.getElem?_reverse hi] at hx'
    rw [(G r row hrow i x hx).1, (G r row hrow _ x' hx').1, c.columnX_add_columnX hi]
    exact mul_div_cancel_left₀ _ two_ne_zero
  · refine List.isChain_iff_getElem.mpr fun i hi => ?_
    rw [(G r row hrow i _ (List.getElem?_eq_getElem _)).1,
      (G r row hrow (i + 1) _ (List.getElem?_eq_getElem hi)).1, c.columnX_succ,
      LayoutConfig.columnPitch_eq, add_sub_cancel_left]

/-- The first box of a row stands no further to the right than those of a row that is no longer. -/
theorem left_le (G : OnGrid c offset rows) (H : c.Accepted) (hrow : row ∈ rows)
    (hrow' : row' ∈ rows) (hlength : row'.length ≤ row.length) (hx : row.head? = some x)
    (hx' : x' ∈ row') : x.left ≤ x'.left := by
  obtain ⟨r, hrow⟩ := List.mem_iff_getElem?.mp hrow
  obtain ⟨r', hrow'⟩ := List.mem_iff_getElem?.mp hrow'
  obtain ⟨i, hx'⟩ := List.mem_iff_getElem?.mp hx'
  rw [List.head?_eq_getElem?] at hx
  rw [G.left_eq hrow hx, G.left_eq hrow' hx']
  have hi := (List.getElem?_eq_some_iff.mp hx').1
  exact sub_le_sub_right (H.columnX_mem_bounds hi hlength).1 _

/-- The last box of a row stands no further to the left. -/
theorem le_right (G : OnGrid c offset rows) (H : c.Accepted) (hrow : row ∈ rows)
    (hrow' : row' ∈ rows) (hlength : row'.length ≤ row.length) (hx : row.getLast? = some x)
    (hx' : x' ∈ row') : x'.right ≤ x.right := by
  obtain ⟨r, hrow⟩ := List.mem_iff_getElem?.mp hrow
  obtain ⟨r', hrow'⟩ := List.mem_iff_getElem?.mp hrow'
  obtain ⟨i, hx'⟩ := List.mem_iff_getElem?.mp hx'
  rw [List.getLast?_eq_getElem?] at hx
  rw [G.right_eq hrow hx, G.right_eq hrow' hx']
  have hi := (List.getElem?_eq_some_iff.mp hx').1
  exact add_le_add_left (H.columnX_mem_bounds hi hlength).2 _

theorem extent_subset (G : OnGrid c offset rows) (H : c.Accepted) (hrow : row ∈ rows)
    (hrow' : row' ∈ rows) (hlength : row'.length ≤ row.length) :
    rowExtent row' ⊆ rowExtent row := by
  rintro t ⟨⟨x, hx, hleft⟩, x', hx', hright⟩
  have hne : row ≠ [] := by
    have hpos := List.length_pos_of_mem hx
    exact List.ne_nil_of_length_pos (by omega)
  refine ⟨⟨row.head hne, List.head_mem hne, ?_⟩, row.getLast hne, List.getLast_mem hne, ?_⟩
  · exact (G.left_le H hrow hrow' hlength (List.head?_eq_some_head hne) hx).trans hleft
  · exact hright.trans (G.le_right H hrow hrow' hlength (List.getLast?_eq_some_getLast hne) hx')

/-- No box is above the last row. -/
theorem le_top (G : OnGrid c offset rows) (H : c.Accepted) (hrow : rows.getLast? = some row)
    (hrow' : row' ∈ rows) (hx : x ∈ row) (hx' : x' ∈ row') : x.top ≤ x'.top := by
  obtain ⟨r', hrow'⟩ := List.mem_iff_getElem?.mp hrow'
  obtain ⟨i, hx⟩ := List.mem_iff_getElem?.mp hx
  obtain ⟨i', hx'⟩ := List.mem_iff_getElem?.mp hx'
  rw [List.getLast?_eq_getElem?] at hrow
  rw [G.top_eq hrow hx, G.top_eq hrow' hx']
  have hr' := (List.getElem?_eq_some_iff.mp hrow').1
  exact sub_le_sub_right (H.rowY_antitone offset (by omega)) _

/-- A caption and a separator at the ends of a grid frame it. -/
theorem frames (G : OnGrid c offset rows) (H : c.Accepted) {y : ViewLayer ℚ}
    (hrows : rows.head? = some row) (hne : ∀ row ∈ rows, row ≠ [])
    (hlengths : rows.Pairwise fun row row' => row'.length ≤ row.length)
    (hanchor : y.labelAnchor = ⟨c.columnX (row.length - 1) row.length,
      c.rowY offset (rows.length - 1)⟩)
    (hstart : y.separatorStart = ⟨c.columnX 0 row.length - c.nodeWidth / 2,
      c.rowY offset (rows.length - 1) - c.nodeHeight / 2⟩)
    (hstop : y.separatorStop = ⟨c.columnX (row.length - 1) row.length + c.nodeWidth / 2,
      c.rowY offset (rows.length - 1) - c.nodeHeight / 2⟩) : y.Frames c rows := by
  have hrow : row ∈ rows := List.mem_of_head? hrows
  have hlonger : ∀ row' ∈ rows, row'.length ≤ row.length := by
    obtain ⟨rest, rfl⟩ := List.head?_eq_some_iff.mp hrows
    exact List.forall_mem_cons.mpr ⟨le_rfl, (List.pairwise_cons.mp hlengths).1⟩
  obtain ⟨a, ha⟩ : ∃ a, row.head? = some a := ⟨_, List.head?_eq_some_head (hne row hrow)⟩
  obtain ⟨b, hb⟩ : ∃ b, row.getLast? = some b := ⟨_, List.getLast?_eq_some_getLast (hne row hrow)⟩
  obtain ⟨last, hlast⟩ : ∃ last, rows.getLast? = some last :=
    ⟨_, List.getLast?_eq_some_getLast (List.ne_nil_of_mem hrow)⟩
  obtain ⟨x, hx⟩ : ∃ x, last.head? = some x :=
    ⟨_, List.head?_eq_some_head (hne last (List.mem_of_getLast? hlast))⟩
  have hrow_first : rows[0]? = some row := by rw [← List.head?_eq_getElem?, hrows]
  have ha_first : row[0]? = some a := by rw [← List.head?_eq_getElem?, ha]
  have hb_last : row[row.length - 1]? = some b := by rw [← List.getLast?_eq_getElem?, hb]
  have hlast_last : rows[rows.length - 1]? = some last := by rw [← List.getLast?_eq_getElem?, hlast]
  have hx_first : last[0]? = some x := by rw [← List.head?_eq_getElem?, hx]
  -- What is known of the columns and rows of the grid is said of the boxes at its ends.
  rw [← G.top_eq hlast_last hx_first] at hstart hstop
  rw [← G.left_eq hrow_first ha_first] at hstart
  rw [← G.right_eq hrow_first hb_last] at hstop
  refine ⟨fun _ => G.centred, hlengths.imp_of_mem fun h h' => G.extent_subset H h h', ?_, ?_⟩
  · refine ⟨row, last, a, b, x, hrows, hlast, ha, hb, hx, ?_, hstart, hstop⟩
    rw [hanchor, (G _ _ hrow_first _ _ hb_last).1, (G _ _ hlast_last _ _ hx_first).1]
  · intro row' hrow' x' hx'
    rw [hstart, hstop]
    exact ⟨G.left_le H hrow hrow' (hlonger row' hrow') ha hx',
      G.le_right H hrow hrow' (hlonger row' hrow') hb hx',
      G.le_top H hlast hrow' (List.mem_of_head? hx) hx'⟩

end OnGrid

/-! ## Captions -/

namespace RuleGraph

variable {g : RuleGraph} {catalog : Catalog} {config : LayoutConfig ℚ} {l : Layer ℚ}
  {y : ViewLayer ℚ} {row : List String} {rows : List (List String)}

/-- Caption and separator are at the ends of their band. -/
theorem layer?_eq_some_of_accepted (H : config.Accepted) (hids : (g.nodes.toList.map (·.id)).Nodup)
    (hl : l ∈ (g.scene catalog config).pyramid.layers) (hrows : l.rows = row :: rows)
    (hy : (g.scene catalog config).layer? l = some y) :
    y.key = l.key ∧ y.labelAnchor = ⟨config.columnX (row.length - 1) row.length,
        config.rowY l.offset rows.length⟩ ∧
      y.separatorStart = ⟨config.columnX 0 row.length - config.nodeWidth / 2,
        config.rowY l.offset rows.length - config.nodeHeight / 2⟩ ∧
      y.separatorStop = ⟨config.columnX (row.length - 1) row.length + config.nodeWidth / 2,
        config.rowY l.offset rows.length - config.nodeHeight / 2⟩ := by
  have hlabel := H.label?_eq hl hrows
  have hleft := H.smallest_x_eq hids hl hrows
  simp only [Scene.layer?, Option.bind_eq_bind, Option.bind_eq_some_iff, Option.pure_def,
    Option.some.injEq] at hy
  obtain ⟨label, hfound, rfl⟩ := hy
  obtain rfl := Option.some.inj (hfound.symm.trans hlabel)
  refine ⟨rfl, rfl, ?_, rfl⟩
  rw [← hleft]
  rfl

/-! ## Views -/

/-- The boxes of a layer, row by row. -/
def boxes (g : RuleGraph) (catalog : Catalog) (config : LayoutConfig ℚ) (l : Layer ℚ) :
    List (List (ViewNode ℚ)) :=
  l.rows.map (·.filterMap (g.scene catalog config).node?)

/-- Every member of a layer has a box. -/
theorem WellFormed.exists_box (H : g.WellFormed) (hl : l ∈ (g.scene catalog config).pyramid.layers)
    {id : String} (hid : id ∈ l.rows.flatten) :
    ∃ x, (g.scene catalog config).node? id = some x ∧ x.id = id := by
  obtain ⟨n, hn, rfl, -⟩ := (LayoutConfig.mem_flatten_rows_iff hl).mp hid
  obtain ⟨x, hx⟩ := H.exists_node? hn catalog config
  obtain ⟨m, p, hm, -, rfl⟩ := Scene.node?_eq_some_iff.mp hx
  exact ⟨_, hx, (H.get?_eq_some_iff.mp hm).2⟩

variable {box : ViewNode ℚ}

theorem WellFormed.map_id_filterMap_node? (H : g.WellFormed)
    (hl : l ∈ (g.scene catalog config).pyramid.layers) (hrow : row ∈ l.rows) :
    (row.filterMap (g.scene catalog config).node?).map (·.id) = row :=
  (map_filterMap_of_forall id fun _ ha =>
    H.exists_box hl (List.mem_flatten.mpr ⟨row, hrow, ha⟩)).trans (List.map_id _)

theorem WellFormed.length_filterMap_node? (H : g.WellFormed)
    (hl : l ∈ (g.scene catalog config).pyramid.layers) (hrow : row ∈ l.rows) :
    (row.filterMap (g.scene catalog config).node?).length = row.length := by
  rw [← List.length_map (·.id), H.map_id_filterMap_node? hl hrow]

/-- A box is that of its id. -/
theorem WellFormed.node?_of_mem_filterMap (H : g.WellFormed)
    (hl : l ∈ (g.scene catalog config).pyramid.layers) (hrow : row ∈ l.rows)
    (hbox : box ∈ row.filterMap (g.scene catalog config).node?) :
    box.id ∈ row ∧ (g.scene catalog config).node? box.id = some box := by
  obtain ⟨a, ha, hnode⟩ := List.mem_filterMap.mp hbox
  obtain ⟨x, hx, rfl⟩ := H.exists_box hl (List.mem_flatten.mpr ⟨row, hrow, ha⟩)
  obtain rfl := Option.some.inj (hnode.symm.trans hx)
  exact ⟨ha, hx⟩

theorem WellFormed.hasRows_boxes (H : g.WellFormed)
    (hl : l ∈ (g.scene catalog config).pyramid.layers) :
    (g.view catalog config).HasRows l (g.boxes catalog config l) where
  map_id := by
    rw [boxes, List.map_map]
    exact (List.map_congr_left fun row hrow => H.map_id_filterMap_node? hl hrow).trans
      (List.map_id _)
  mem_nodes row' hrow' x hx := by
    obtain ⟨row, hrow, rfl⟩ := List.mem_map.mp hrow'
    obtain ⟨hid, hnode⟩ := H.node?_of_mem_filterMap hl hrow hx
    obtain ⟨n, hn, hnid, -⟩ :=
      (LayoutConfig.mem_flatten_rows_iff hl).mp (List.mem_flatten.mpr ⟨row, hrow, hid⟩)
    exact mem_nodes_view.mpr ⟨n, hn, hnid ▸ hnode⟩

/-- The boxes of a layer are where the layout puts them. -/
theorem WellFormed.onGrid_boxes (H : g.WellFormed)
    (hl : l ∈ (g.scene catalog config).pyramid.layers) :
    OnGrid config l.offset (g.boxes catalog config l) := by
  intro r row' hrow' i x hx
  rw [boxes, List.getElem?_map, Option.map_eq_some_iff] at hrow'
  obtain ⟨row, hr, rfl⟩ := hrow'
  have hrow := List.mem_of_getElem? hr
  have hi : row[i]? = some x.id := by
    rw [← H.map_id_filterMap_node? hl hrow, List.getElem?_map, hx, Option.map_some]
  obtain ⟨-, hnode⟩ := H.node?_of_mem_filterMap hl hrow (List.mem_of_getElem? hx)
  have hplace := LayoutConfig.position?_eq_some_of_mem_places H.nodup_ids hl
    (LayoutConfig.mem_places.mpr ⟨r, row, i, hr, hi, rfl⟩)
  obtain ⟨n, p, -, hp, hbox⟩ := Scene.node?_eq_some_iff.mp hnode
  obtain rfl := Option.some.inj (hp.symm.trans hplace)
  rw [H.length_filterMap_node? hl hrow, hbox]
  exact ⟨rfl, rfl⟩

/-- A caption frames the boxes of its layer. -/
theorem WellFormed.frames_boxes (H : g.WellFormed) (hconfig : config.Accepted)
    (hl : l ∈ (g.scene catalog config).pyramid.layers)
    (hy : (g.scene catalog config).layer? l = some y) :
    y.key = l.key ∧ y.Frames config (g.boxes catalog config l) := by
  obtain ⟨row, rows, hrows⟩ := LayoutConfig.exists_rows_eq_cons hl
  obtain ⟨hkey, hanchor, hstart, hstop⟩ :=
    layer?_eq_some_of_accepted hconfig H.nodup_ids hl hrows hy
  have hlength : ∀ row ∈ l.rows,
      (row.filterMap (g.scene catalog config).node?).length = row.length :=
    fun _ => H.length_filterMap_node? hl
  have hrow : row ∈ l.rows := by
    rw [hrows]
    exact List.mem_cons_self
  have hlast : (g.boxes catalog config l).length - 1 = rows.length := by
    rw [boxes, List.length_map, hrows, List.length_cons, Nat.add_sub_cancel]
  rw [← hlength row hrow, ← hlast] at hanchor hstart hstop
  refine ⟨hkey, (H.onGrid_boxes hl).frames hconfig ?_ ?_ ?_ hanchor hstart hstop⟩
  · rw [boxes, hrows, List.map_cons, List.head?_cons]
  · refine List.forall_mem_map.mpr fun row hrow => List.ne_nil_of_length_pos ?_
    rw [hlength row hrow]
    exact List.length_pos_of_ne_nil (LayoutConfig.ne_nil_of_mem_rows hl hrow)
  · refine List.pairwise_map.mpr ((LayoutConfig.pairwise_length_rows hl).imp_of_mem ?_)
    intro row row' hrow hrow' hle
    rwa [hlength row hrow, hlength row' hrow']

end RuleGraph

/-- **Every band is a centred pyramid under its caption and its separator.** -/
theorem framesBands_componentsGraph {config : LayoutConfig ℚ} (hconfig : config.validate = .ok ())
    (rules : List Rule) (catalog : Catalog) :
    (componentsGraph rules catalog config).FramesBands
      (config.pyramid (RuleGraph.ofRules rules).nodes.toList (.ofGroups catalog.groups))
      config := by
  intro y hy
  obtain ⟨l, hl, hy⟩ := List.mem_filterMap.mp hy
  have H := RuleGraph.WellFormed.ofRules rules
  obtain ⟨hkey, hframes⟩ := H.frames_boxes (LayoutConfig.accepted_iff.mp hconfig) hl hy
  exact ⟨l, hl, hkey.symm, _, H.hasRows_boxes hl, hframes⟩

/-- Without gaps the rows of a band still narrow upwards and the separator still encloses them. -/
theorem framesBands_componentsGraph_of_no_gaps :
    let config : LayoutConfig ℚ := { LayoutConfig.default with
      horizontalGap := 0, rowGap := 0, layerGap := 0, maxNodesPerRow := 2 }
    let rules : List Rule := ["Gross", "Net", "Tax"].map fun target =>
      ({ target, expression := "1" } : Rule).withGroup "base"
    config.validate = .ok () ∧
      (componentsGraph rules Catalog.fallback config).FramesBands
        (config.pyramid (RuleGraph.ofRules rules).nodes.toList (.ofGroups Catalog.fallback.groups))
        config := by
  intro config rules
  have hconfig : config.validate = .ok () := by decide
  exact ⟨hconfig, framesBands_componentsGraph hconfig rules Catalog.fallback⟩

end RulePyramid
