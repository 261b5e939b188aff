import RulePyramid.Failure
import RulePyramid.Store.Files
import RulePyramid.Json.Decode
import RulePyramid.Json.Printer

/-!
Preferences: what is remembered from one session to the next, namely the ruleset selected last.
They are kept in memory or in a file. A file that cannot be read is replaced when something new
is to be remembered.
-/

namespace RulePyramid

structure Preferences where
  lastRuleset : Option String := none
  deriving DecidableEq

namespace Preferences

open Json (Fault Decoder RecordField)

def toJson (p : Preferences) : Json := .object [("lastRuleset", .option .string p.lastRuleset)]

def fields : List (RecordField Preferences) := [
  .optional "lastRuleset" (Decoder.nullable Decoder.text) fun p lastRuleset =>
    { p with lastRuleset }]

def decode : Decoder Preferences := Decoder.record fields {}

def ofText (text : String) : Except Fault Preferences := Json.decodeText decode text

def text (p : Preferences) : String := p.toJson.render .pretty

inductive Error where
  | unreadable (path : String) (cause : Files.Error)
  | malformed (path : String) (cause : Fault)
  | noDirectory (cause : Files.Error)
  | unwritable (path : String) (cause : Files.Error)
  deriving DecidableEq

def Error.failure : Error → Failure
  | .unreadable path cause => ⟨s!"Failed to read preferences {path}", [cause.message]⟩
  | .malformed path cause => ⟨s!"Failed to parse preferences {path}", [cause.message]⟩
  | .noDirectory cause => ⟨cause.message, []⟩
  | .unwritable path cause => ⟨s!"Failed to write preferences {path}", [cause.message]⟩

/-! ## Files -/

/-- Reads the preferences in a file; there are none where there is no file. -/
def load (fs : Files) (path : String) : Except Error Preferences :=
  if fs.contains path then
    match fs.readText path with
    | .error cause => .error (.unreadable path cause)
    | .ok content =>
      match ofText content with
      | .error cause => .error (.malformed path cause)
      | .ok p => .ok p
  else .ok {}

/-- Writes the preferences to a file and makes the directory for it. The directories that were made
stay when the file cannot be written. -/
def save (p : Preferences) (fs : Files) (path : String) : Except Error Unit × Files :=
  match fs.makeParent path with
  | (.error cause, fs) => (.error (.noDirectory cause), fs)
  | (.ok (), fs) =>
    match fs.writeText path p.text with
    | .error cause => (.error (.unwritable path cause), fs)
    | .ok fs => (.ok (), fs)

end Preferences

/-- A place that remembers the last ruleset; `σ` is what it is part of. -/
structure PreferenceStore (σ : Type) where
  last : σ → Except Failure (Option String)
  save : String → σ → Except Failure Unit × σ

namespace PreferenceStore

def memory : PreferenceStore Preferences where
  last p := .ok p.lastRuleset
  save id p := (.ok (), { p with lastRuleset := some id })

def file (path : String) : PreferenceStore Files where
  last fs := ((Preferences.load fs path).map (·.lastRuleset)).mapError (·.failure)
  save id fs :=
    let p := ((Preferences.load fs path).toOption).getD {}
    let (result, fs) := { p with lastRuleset := some id }.save fs path
    (result.mapError (·.failure), fs)

end PreferenceStore

end RulePyramid
