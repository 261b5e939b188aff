import RulePyramid.Scalar
import RulePyramid.Binary.Text

/-!
The settings of a layout: the size of a box, the gaps between boxes, rows and bands, how many
boxes a row holds, and where the pyramid stands. Settings are accepted when boxes have a positive
size, no gap is negative and a row holds a box.
-/

namespace RulePyramid

structure LayoutConfig (α : Type) where
  nodeWidth : α
  nodeHeight : α
  horizontalGap : α
  rowGap : α
  layerGap : α
  maxNodesPerRow : Nat
  centerX : α
  baseY : α
  deriving DecidableEq

namespace LayoutConfig

/-- The settings that a check can find at fault. -/
inductive Field where
  | nodeWidth
  | nodeHeight
  | horizontalGap
  | rowGap
  | layerGap
  deriving DecidableEq

def Field.name : Field → String
  | .nodeWidth => "node_width"
  | .nodeHeight => "node_height"
  | .horizontalGap => "horizontal_gap"
  | .rowGap => "row_gap"
  | .layerGap => "layer_gap"

inductive Error (α : Type) where
  | nonPositive (field : Field) (value : α)
  | negative (field : Field) (value : α)
  | emptyRow
  | unreadable
  deriving DecidableEq

variable {α : Type} [Scalar α]

/-- The settings that hold where none are given. -/
protected def default : LayoutConfig α where
  nodeWidth := Scalar.ofNat 140
  nodeHeight := Scalar.ofNat 50
  horizontalGap := Scalar.ofNat 20
  rowGap := Scalar.ofNat 70
  layerGap := Scalar.ofNat 80
  maxNodesPerRow := 4
  centerX := Scalar.ofNat 600
  baseY := Scalar.ofNat 900

instance : Inhabited (LayoutConfig α) := ⟨LayoutConfig.default⟩

def requirePositive (field : Field) (value : α) : Except (Error α) Unit :=
  if Scalar.ofNat 0 < value then .ok () else .error (.nonPositive field value)

def requireNonNegative (field : Field) (value : α) : Except (Error α) Unit :=
  if Scalar.ofNat 0 ≤ value then .ok () else .error (.negative field value)

/-- Checks the settings in a fixed order and stops at the first fault. -/
def validate (c : LayoutConfig α) : Except (Error α) Unit := do
  requirePositive .nodeWidth c.nodeWidth
  requirePositive .nodeHeight c.nodeHeight
  requireNonNegative .horizontalGap c.horizontalGap
  requireNonNegative .rowGap c.rowGap
  requireNonNegative .layerGap c.layerGap
  if c.maxNodesPerRow = 0 then throw .emptyRow

/-- The distance between the centres of two neighbours in a row. -/
def columnPitch (c : LayoutConfig α) : α := c.nodeWidth + c.horizontalGap

/-- How many boxes a row holds; at least one, also where the settings say none. -/
def rowCapacity (c : LayoutConfig α) : Nat := max c.maxNodesPerRow 1

/-! ## Texts of the faults -/

/-- A value in a message stands without a power of ten and without a fraction that is zero. -/
def messageStyle : Decimal.Style where
  tie := .up
  plain _ := true
  keepPoint := false

def valueText : Single → String
  | .nan => "NaN"
  | .infinite false => "inf"
  | .infinite true => "-inf"
  | .finite n m e => Binary.finiteText (f := .single) messageStyle n m e

def Error.message : Error Single → String
  | .nonPositive field value => s!"{field.name} must be positive, got {valueText value}"
  | .negative field value => s!"{field.name} must not be negative, got {valueText value}"
  | .emptyRow => "max_nodes_per_row must be at least 1"
  | .unreadable => "Invalid layout config"

end LayoutConfig

end RulePyramid
