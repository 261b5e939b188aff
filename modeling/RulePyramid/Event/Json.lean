import RulePyramid.Event.Basic
import RulePyramid.Json.Decode

/-!
Events as JSON: an object with the name of the event and its fields, or for an event without
fields the name alone.
-/

namespace RulePyramid

open Json (Decoder RecordField)

namespace RecomputeReason

def name : RecomputeReason → String
  | .rulesetChanged => "RulesetChanged"
  | .catalogChanged => "CatalogChanged"

def toJson (r : RecomputeReason) : Json := .string r.name

def decode : Decoder RecomputeReason := fun form => do
  match ← Decoder.name form with
  | "RulesetChanged" => return .rulesetChanged
  | "CatalogChanged" => return .catalogChanged
  | _ => throw .mismatch

end RecomputeReason

namespace Event

def toJson : Event → Json
  | .rulesetSelected id request =>
    named "RulesetSelected" [("ruleset_id", .string id), ("request", .nat request.toNat)]
  | .rulesetLoaded id request count =>
    named "RulesetLoaded"
      [("ruleset_id", .string id), ("request", .nat request.toNat), ("rule_count", .nat count)]
  | .rulesetLoadFailed id request error =>
    named "RulesetLoadFailed"
      [("ruleset_id", .string id), ("request", .nat request.toNat), ("error", .string error)]
  | .staleResponseDiscarded id request latest =>
    named "StaleResponseDiscarded"
      [("ruleset_id", .string id), ("request", .nat request.toNat), ("latest", .nat latest.toNat)]
  | .groupCatalogChanged count => named "GroupCatalogChanged" [("group_count", .nat count)]
  | .groupCatalogFallback reason => named "GroupCatalogFallback" [("reason", .string reason)]
  | .graphRecomputed reason nodes edges layers =>
    named "GraphRecomputed" [("reason", reason.toJson), ("node_count", .nat nodes),
      ("edge_count", .nat edges), ("layer_count", .nat layers)]
  | .dependencyCyclesDetected cycles =>
    named "DependencyCyclesDetected" [("cycles", .list .texts cycles)]
  | .nodeSelected id => named "NodeSelected" [("id", .string id)]
  | .selectionCleared => .string "SelectionCleared"
  | .preferenceSaveFailed error => named "PreferenceSaveFailed" [("error", .string error)]
where
  named (name : String) (fields : List (String × Json)) : Json := .object [(name, .object fields)]

/-- All that events can hold. -/
structure Parts where
  rulesetId : String := ""
  request : UInt64 := 0
  latest : UInt64 := 0
  ruleCount : Nat := 0
  groupCount : Nat := 0
  nodeCount : Nat := 0
  edgeCount : Nat := 0
  layerCount : Nat := 0
  error : String := ""
  /-- Why the fallback is in use. -/
  cause : String := ""
  reason : RecomputeReason := .rulesetChanged
  cycles : List (List String) := []
  nodeId : String := ""

/-- The number of a request has sixty-four bits. -/
def decodeRequest : Decoder UInt64 := fun form => do return .ofNat (← Decoder.natural 64 form)

namespace Parts

def rulesetIdField : RecordField Parts :=
  .required "ruleset_id" Decoder.text fun p rulesetId => { p with rulesetId }

def requestField : RecordField Parts :=
  .required "request" decodeRequest fun p request => { p with request }

def latestField : RecordField Parts :=
  .required "latest" decodeRequest fun p latest => { p with latest }

def errorField : RecordField Parts := .required "error" Decoder.text fun p error => { p with error }

def countField (name : String) (set : Parts → Nat → Parts) : RecordField Parts :=
  .required name (Decoder.natural 64) set

end Parts

/-- Reads the fields of an event, which are always an object. -/
def decodeFields (fields : List (RecordField Parts)) (event : Parts → Event) : Decoder Event
  | .object members flaw =>
    event <$> Decoder.recordOfMembers fields Decoder.skipMember {} members flaw
  | form => .error form.fault

/-- Reads the fields of the event with this name. -/
def decodeNamed : String → Decoder Event
  | "RulesetSelected" =>
    decodeFields [Parts.rulesetIdField, Parts.requestField] fun p =>
      .rulesetSelected p.rulesetId p.request
  | "RulesetLoaded" =>
    decodeFields [Parts.rulesetIdField, Parts.requestField,
        Parts.countField "rule_count" fun p ruleCount => { p with ruleCount }] fun p =>
      .rulesetLoaded p.rulesetId p.request p.ruleCount
  | "RulesetLoadFailed" =>
    decodeFields [Parts.rulesetIdField, Parts.requestField, Parts.errorField] fun p =>
      .rulesetLoadFailed p.rulesetId p.request p.error
  | "StaleResponseDiscarded" =>
    decodeFields [Parts.rulesetIdField, Parts.requestField, Parts.latestField] fun p =>
      .staleResponseDiscarded p.rulesetId p.request p.latest
  | "GroupCatalogChanged" =>
    decodeFields [Parts.countField "group_count" fun p groupCount => { p with groupCount }]
      fun p => .groupCatalogChanged p.groupCount
  | "GroupCatalogFallback" =>
    decodeFields [.required "reason" Decoder.text fun p cause => { p with cause }] fun p =>
      .groupCatalogFallback p.cause
  | "GraphRecomputed" =>
    decodeFields [.required "reason" RecomputeReason.decode fun p reason => { p with reason },
        Parts.countField "node_count" fun p nodeCount => { p with nodeCount },
        Parts.countField "edge_count" fun p edgeCount => { p with edgeCount },
        Parts.countField "layer_count" fun p layerCount => { p with layerCount }] fun p =>
      .graphRecomputed p.reason p.nodeCount p.edgeCount p.layerCount
  | "DependencyCyclesDetected" =>
    decodeFields [.required "cycles" (Decoder.list (Decoder.list Decoder.text)) fun p cycles =>
        { p with cycles }] fun p =>
      .dependencyCyclesDetected p.cycles
  | "NodeSelected" =>
    decodeFields [.required "id" Decoder.text fun p nodeId => { p with nodeId }] fun p =>
      .nodeSelected p.nodeId
  | "PreferenceSaveFailed" =>
    decodeFields [Parts.errorField] fun p => .preferenceSaveFailed p.error
  | _ => fun _ => .error .mismatch

/-- The event without fields is a name. -/
def decode : Decoder Event := fun form => do
  match form with
  | .object [(some name, .object members flaw)] none => decodeNamed name (.object members flaw)
  | form =>
    match ← Decoder.name form with
    | "SelectionCleared" => return .selectionCleared
    | _ => throw .mismatch

end Event

end RulePyramid
