import RulePyramid.Graph.Basic
import RulePyramid.Json.Decode

/-!
Nodes and edges as JSON.
-/

namespace RulePyramid

open Json (Decoder RecordField)

namespace Origin

def name : Origin → String
  | .explicit => "Explicit"
  | .inferred => "Inferred"
  | .both => "Both"

def toJson (o : Origin) : Json := .string o.name

def decode : Decoder Origin := fun form => do
  match ← Decoder.name form with
  | "Explicit" => return .explicit
  | "Inferred" => return .inferred
  | "Both" => return .both
  | _ => throw .mismatch

end Origin

namespace Dependency

def toJson (d : Dependency) : Json := .object [("id", .string d.id), ("origin", d.origin.toJson)]

def fields : List (RecordField Dependency) := [
  .required "id" Decoder.text fun d id => { d with id },
  .required "origin" Origin.decode fun d origin => { d with origin }]

def decode : Decoder Dependency := Decoder.record fields ⟨"", .explicit⟩

end Dependency

namespace Node

def toJson (n : Node) : Json := .object [
  ("id", .string n.id),
  ("group", .string n.group),
  ("dependencies", .list Dependency.toJson n.dependencies)]

def fields : List (RecordField Node) := [
  .required "id" Decoder.text fun n id => { n with id },
  .required "group" Decoder.text fun n group => { n with group },
  .required "dependencies" (Decoder.list Dependency.decode) fun n dependencies =>
    { n with dependencies }]

def decode : Decoder Node := Decoder.record fields ⟨"", "", []⟩

end Node

def Edge.toJson (e : Edge) : Json :=
  .object [("source", .string e.source), ("target", .string e.target)]

end RulePyramid
