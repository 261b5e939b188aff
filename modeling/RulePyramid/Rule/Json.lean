import RulePyramid.Rule
import RulePyramid.Json.Decode

/-!
Rules and rulesets as JSON. Metadata is always an object: the names that are not known are kept
as notes, the later of two with one name.
-/

namespace RulePyramid

namespace Date

def toJson (d : Date) : Json := .string d.text

def decode : Json.Decoder Date := fun form => do
  match ofText? (← Json.Decoder.text form) with
  | some d => return d
  | none => throw .mismatch

end Date

namespace Metadata

open Json (Decoder RecordField)

def toJson (m : Metadata) : Json :=
  let given := [
    m.group.map fun g => ("group", Json.string g),
    m.effectiveFrom.map fun d => ("effectiveFrom", d.toJson),
    m.effectiveTo.map fun d => ("effectiveTo", d.toJson)]
  .object (given.filterMap id ++ m.extra)

def fields : List (RecordField Metadata) := [
  .optional "group" (Decoder.nullable Decoder.text) fun m group => { m with group },
  .optional "effectiveFrom" (Decoder.nullable Date.decode) fun m effectiveFrom =>
    { m with effectiveFrom },
  .optional "effectiveTo" (Decoder.nullable Date.decode) fun m effectiveTo =>
    { m with effectiveTo }]

/-- Keeps a member as a note with at most `room` arrays and objects inside one another. -/
def addNote (room : Nat) (m : Metadata) (name : String) : Decoder Metadata := fun form => do
  return { m with extra := Json.insertMember name (← Json.ofForm room form) m.extra }

/-- Reads metadata with at most `room` arrays and objects inside one another. -/
def decode (room : Nat) : Decoder Metadata
  | .object members flaw => Decoder.recordOfMembers fields (addNote (room - 1)) {} members flaw
  | form => .error form.fault

end Metadata

namespace Rule

open Json (Decoder RecordField)

def toJson (r : Rule) : Json := .object [
  ("target", .string r.target),
  ("expression", .string r.expression),
  ("dependsOn", .texts r.dependsOn),
  ("metadata", r.metadata.toJson)]

def fields (room : Nat) : List (RecordField Rule) := [
  .required "target" Decoder.text fun r target => { r with target },
  .optional "expression" Decoder.text fun r expression => { r with expression },
  .optional "dependsOn" (Decoder.list Decoder.text) fun r dependsOn => { r with dependsOn },
  .optional "metadata" (Metadata.decode (room - 1)) fun r metadata => { r with metadata }]

/-- Reads a rule with at most `room` arrays and objects inside one another. -/
def decode (room : Nat) : Decoder Rule := Decoder.record (fields room) default

def listToJson (rules : List Rule) : Json := .list toJson rules

def decodeList (room : Nat) : Decoder (List Rule) := Decoder.list (decode (room - 1))

end Rule

namespace Ruleset

open Json (Fault Decoder RecordField)

def toJson (s : Ruleset) : Json := .object [
  ("id", .string s.id),
  ("name", .string s.name),
  ("rules", Rule.listToJson s.rules)]

def fields (room : Nat) : List (RecordField Ruleset) := [
  .optional "id" Decoder.text fun s id => { s with id },
  .optional "name" Decoder.text fun s name => { s with name },
  .optional "rules" (Rule.decodeList (room - 1)) fun s rules => { s with rules }]

/-- Reads a ruleset with at most `room` arrays and objects inside one another. -/
def decode (room : Nat) : Decoder Ruleset := Decoder.record (fields room) {}

def ofText (text : String) : Except Fault Ruleset := Json.decodeText (decode Json.depthLimit) text

end Ruleset

/-- Reads the text of a single rule. -/
def Rule.ofText (text : String) : Except Json.Fault Rule :=
  Json.decodeText (decode Json.depthLimit) text

/-- Reads the text of a list of rules. -/
def Rule.listOfText (text : String) : Except Json.Fault (List Rule) :=
  Json.decodeText (decodeList Json.depthLimit) text

end RulePyramid
