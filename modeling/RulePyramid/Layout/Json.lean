import RulePyramid.Layout.Pyramid
import RulePyramid.Json.Decode

/-!
Settings and pyramids as JSON. Settings that are not given have their defaults.
-/

namespace RulePyramid

open Json (Decoder RecordField)

namespace LayoutConfig

def toJson (c : LayoutConfig Single) : Json := .object [
  ("node_width", .single c.nodeWidth),
  ("node_height", .single c.nodeHeight),
  ("horizontal_gap", .single c.horizontalGap),
  ("row_gap", .single c.rowGap),
  ("layer_gap", .single c.layerGap),
  ("max_nodes_per_row", .nat c.maxNodesPerRow),
  ("center_x", .single c.centerX),
  ("base_y", .single c.baseY)]

/-- The settings, whose numbers are read by `number`. -/
def fieldsWith (number : Decoder Single) : List (Json.RecordField (LayoutConfig Single)) := [
  .optional "node_width" number fun c nodeWidth => { c with nodeWidth },
  .optional "node_height" number fun c nodeHeight => { c with nodeHeight },
  .optional "horizontal_gap" number fun c horizontalGap => { c with horizontalGap },
  .optional "row_gap" number fun c rowGap => { c with rowGap },
  .optional "layer_gap" number fun c layerGap => { c with layerGap },
  .optional "max_nodes_per_row" (Decoder.natural 64) fun c maxNodesPerRow =>
    { c with maxNodesPerRow },
  .optional "center_x" number fun c centerX => { c with centerX },
  .optional "base_y" number fun c baseY => { c with baseY }]

def decodeWith (number : Decoder Single) : Decoder (LayoutConfig Single) :=
  Decoder.record (fieldsWith number) .default

def decode : Decoder (LayoutConfig Single) := decodeWith Decoder.single

/-- Reads settings and checks them. -/
def ofText (text : String) : Except (Error Single) (LayoutConfig Single) :=
  match Json.decodeText decode text with
  | .error _ => .error .unreadable
  | .ok c => do
    c.validate
    return c

end LayoutConfig

namespace Point

def toJson (p : Point Single) : Json := .object [("x", .single p.x), ("y", .single p.y)]

def fields : List (RecordField (Point Single)) := [
  .required "x" Decoder.single fun p x => { p with x },
  .required "y" Decoder.single fun p y => { p with y }]

def decode : Decoder (Point Single) := Decoder.record fields ⟨default, default⟩

end Point

namespace LayerKey

def toJson : LayerKey → Json
  | .ranked ordinal => .object [("Ranked", .nat ordinal)]
  | .ungrouped => .string "Ungrouped"

def decode : Decoder LayerKey
  | .object [(some "Ranked", form)] none => return .ranked (← Decoder.natural 32 form)
  | form => do
    match ← Decoder.name form with
    | "Ungrouped" => return .ungrouped
    | _ => throw .mismatch

end LayerKey

namespace Layer

def toJson (l : Layer Single) : Json := .object [
  ("key", l.key.toJson),
  ("group", .string l.group),
  ("rows", .list .texts l.rows),
  ("offset", .single l.offset)]

def fields : List (RecordField (Layer Single)) := [
  .required "key" LayerKey.decode fun l key => { l with key },
  .required "group" Decoder.text fun l group => { l with group },
  .required "rows" (Decoder.list (Decoder.list Decoder.text)) fun l rows => { l with rows },
  .required "offset" Decoder.single fun l offset => { l with offset }]

def decode : Decoder (Layer Single) := Decoder.record fields ⟨.ungrouped, "", [], default⟩

end Layer

namespace LayerLabel

def toJson (l : LayerLabel Single) : Json :=
  .object [("key", l.key.toJson), ("x", .single l.x), ("y", .single l.y)]

def fields : List (RecordField (LayerLabel Single)) := [
  .required "key" LayerKey.decode fun l key => { l with key },
  .required "x" Decoder.single fun l x => { l with x },
  .required "y" Decoder.single fun l y => { l with y }]

def decode : Decoder (LayerLabel Single) := Decoder.record fields ⟨.ungrouped, default, default⟩

end LayerLabel

namespace Pyramid

def toJson (p : Pyramid Single) : Json := .object [
  ("positions", .object (p.positions.toList.map fun (id, q) => (id, q.toJson))),
  ("layers", .list Layer.toJson p.layers),
  ("labels", .list LayerLabel.toJson p.labels)]

/-- The positions are an object from ids to points; the later of two for one id counts. -/
def decodePositions : Decoder (Std.TreeMap String (Point Single))
  | .object members flaw => do
    let positions ← members.foldlM (fun positions (id, form) => do
      return positions.insert (← Decoder.text (.string id)) (← Point.decode form)) ∅
    Json.close flaw
    return positions
  | form => .error form.fault

def fields : List (RecordField (Pyramid Single)) := [
  .required "positions" decodePositions fun p positions => { p with positions },
  .required "layers" (Decoder.list Layer.decode) fun p layers => { p with layers },
  .required "labels" (Decoder.list LayerLabel.decode) fun p labels => { p with labels }]

def decode : Decoder (Pyramid Single) := Decoder.record fields default

end Pyramid

end RulePyramid
