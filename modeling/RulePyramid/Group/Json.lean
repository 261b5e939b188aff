import RulePyramid.Group
import RulePyramid.Json.Decode

/-!
Groups and catalogs as JSON. A catalog is the array of its groups.
-/

namespace RulePyramid

open Json (Fault Decoder RecordField)

namespace Group

def toJson (g : Group) : Json := .object [
  ("groupName", .string g.groupName),
  ("displayName", .string g.displayName),
  ("color", .string g.color),
  ("displayOrder", .integer g.displayOrder)]

def fields : List (RecordField Group) := [
  .required "groupName" Decoder.text fun g groupName => { g with groupName },
  .optional "displayName" Decoder.text fun g displayName => { g with displayName },
  .optional "color" Decoder.text fun g color => { g with color },
  .optional "displayOrder" Decoder.int64 fun g displayOrder => { g with displayOrder }]

def decode : Decoder Group := Decoder.record fields { groupName := "" }

def decodeList : Decoder (List Group) := Decoder.list decode

end Group

namespace Catalog

def toJson (c : Catalog) : Json := .list Group.toJson c.groups

def ofText (text : String) : Except Fault Catalog :=
  return ⟨← Json.decodeText Group.decodeList text⟩

end Catalog

end RulePyramid
