import RulePyramid.Graph.Node
import RulePyramid.Ranking
import RulePyramid.Layout.Config
import Std.Data.TreeMap.Basic

/-!
The pyramid. Each group that has a node becomes a band; bands are stacked from the lowest rank
upwards, and the nodes whose group has no rank share one band on top. Inside a band the nodes are
sorted by id and wrapped into rows, each of which is centred.
-/

namespace RulePyramid

structure Point (α : Type) where
  x : α
  y : α
  deriving DecidableEq

/-- A band is that of a rank or the one for all other nodes. -/
inductive LayerKey where
  | ranked (ordinal : Nat)
  | ungrouped
  deriving DecidableEq

/-- The order in which bands are stacked. -/
def LayerKey.le : LayerKey → LayerKey → Bool
  | .ranked i, .ranked j => i ≤ j
  | .ranked _, .ungrouped => true
  | .ungrouped, .ranked _ => false
  | .ungrouped, .ungrouped => true

def Ranking.layerKey (r : Ranking) (group : String) : LayerKey :=
  (r.ordinal? group).elim .ungrouped .ranked

/-- The name of the group that a band is for. -/
def Ranking.layerGroup (r : Ranking) : LayerKey → String
  | .ranked ordinal => (r.groupAt? ordinal).getD RulePyramid.ungrouped
  | .ungrouped => RulePyramid.ungrouped

/-- A band in its place. -/
structure Layer (α : Type) where
  key : LayerKey
  group : String
  /-- The rows from the lowest one on, each in ascending order. -/
  rows : List (List String)
  /-- How far the lowest row is above the base. -/
  offset : α

namespace Layer

variable {α : Type}

def rowCount (l : Layer α) : Nat := l.rows.length

def nodeCount (l : Layer α) : Nat := l.rows.flatten.length

def contains (l : Layer α) (id : String) : Bool := l.rows.any (·.contains id)

end Layer

/-- Where the caption of a band stands: at the right end of its widest row and the height of its
topmost one. -/
structure LayerLabel (α : Type) where
  key : LayerKey
  x : α
  y : α
  deriving DecidableEq

structure Pyramid (α : Type) where
  /-- The centre of each box. -/
  positions : Std.TreeMap String (Point α)
  /-- The bands from the lowest one on. -/
  layers : List (Layer α)
  labels : List (LayerLabel α)

namespace Pyramid

variable {α : Type}

instance : Inhabited (Pyramid α) := ⟨⟨∅, [], []⟩⟩

def position? (p : Pyramid α) (id : String) : Option (Point α) := p.positions[id]?

def layerOf? (p : Pyramid α) (id : String) : Option (Layer α) := p.layers.find? (·.contains id)

def label? (p : Pyramid α) (key : LayerKey) : Option (LayerLabel α) := p.labels.find? (·.key = key)

def isEmpty (p : Pyramid α) : Bool := p.positions.isEmpty

end Pyramid

/-- Cuts a list into pieces of `size`, or of one where `size` is zero; the last may be shorter. -/
def chunks {β : Type} (size : Nat) : List β → List (List β)
  | [] => []
  | x :: xs => (x :: xs.take (size - 1)) :: chunks size (xs.drop (size - 1))
termination_by xs => xs.length
decreasing_by simp only [List.length_drop, List.length_cons]; omega

namespace LayoutConfig

variable {α : Type} [Scalar α] (c : LayoutConfig α)

/-! ## Coordinates -/

/-- The height that a band of so many rows takes, with the gap above it. -/
def layerExtent (rowCount : Nat) : α := Scalar.ofNat rowCount * c.rowGap + c.layerGap

/-- The centre of the `index`-th of `count` boxes in a row. -/
def columnX (index count : Nat) : α :=
  let pitch := c.columnPitch
  let totalWidth := Scalar.ofNat count * pitch - c.horizontalGap
  c.centerX - Scalar.half totalWidth + Scalar.ofNat index * pitch + Scalar.half c.nodeWidth

/-- The centre of a row of a band. Higher rows have smaller coordinates. -/
def rowY (offset : α) (row : Nat) : α := c.baseY - offset - Scalar.ofNat row * c.rowGap

/-! ## Bands -/

/-- The bands that have a node, in stacking order, each with its ids in ascending order. -/
def partition (nodes : List Node) (ranking : Ranking) : List (LayerKey × List String) :=
  let keyed := nodes.map fun n => (ranking.layerKey n.group, n.id)
  let keys := (keyed.map (·.1)).eraseDups.mergeSort LayerKey.le
  keys.map fun key => (key, ((keyed.filter (·.1 = key)).map (·.2)).mergeSort)

/-- Stacks bands on one another, the first one at `offset`. -/
def stack (ranking : Ranking) (offset : α) : List (LayerKey × List String) → List (Layer α)
  | [] => []
  | (key, ids) :: bands =>
    let rows := chunks c.rowCapacity ids
    ⟨key, ranking.layerGroup key, rows, offset⟩ ::
      stack ranking (offset + c.layerExtent rows.length) bands

/-- The places of a band's nodes, row by row. -/
def places (l : Layer α) : List (String × Point α) :=
  l.rows.zipIdx.flatMap fun (row, r) =>
    row.zipIdx.map fun (id, i) => (id, ⟨c.columnX i row.length, c.rowY l.offset r⟩)

/-- The caption of a band that has a node. -/
def labelOf? (l : Layer α) : Option (LayerLabel α) :=
  match (c.places l).map (·.2) with
  | [] => none
  | p :: ps =>
    some ⟨l.key, (ps.map (·.x)).foldl max p.x, (ps.map (·.y)).foldl min p.y⟩

/-- The pyramid of some nodes. -/
def pyramid (nodes : List Node) (ranking : Ranking) : Pyramid α :=
  let layers := c.stack ranking (Scalar.ofNat 0) (partition nodes ranking)
  { positions := (layers.flatMap c.places).foldl (fun m (id, p) => m.insert id p) ∅
    layers
    labels := layers.filterMap c.labelOf? }

end LayoutConfig

end RulePyramid
