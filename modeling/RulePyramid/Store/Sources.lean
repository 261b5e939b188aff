import RulePyramid.Failure
import RulePyramid.Store.Files
import RulePyramid.Text.Quoted
import RulePyramid.Rule.Json
import RulePyramid.Group.Json

/-!
Where rulesets and groups come from: a directory with a file for each ruleset and a file with the
groups, or what is held in memory.
-/

namespace RulePyramid

inductive SourceError where
  | invalidId (id : String)
  | unreadableRuleset (path : String) (cause : Files.Error)
  | malformedRuleset (path : String) (cause : Json.Fault)
  | unknownRuleset (id : String)
  | unreadableCatalog (path : String) (cause : Files.Error)
  | malformedCatalog (path : String) (cause : Json.Fault)
  | unreachable (reason : String)
  deriving DecidableEq

def SourceError.failure : SourceError → Failure
  | .invalidId id => ⟨s!"Invalid ruleset id: {Text.quoted id}", []⟩
  | .unreadableRuleset path cause => ⟨s!"Failed to read ruleset {path}", [cause.message]⟩
  | .malformedRuleset path cause => ⟨s!"Failed to parse ruleset {path}", [cause.message]⟩
  | .unknownRuleset id => ⟨s!"Ruleset not found: {id}", []⟩
  | .unreadableCatalog path cause => ⟨s!"Failed to read group catalog {path}", [cause.message]⟩
  | .malformedCatalog path cause => ⟨s!"Failed to parse group catalog {path}", [cause.message]⟩
  | .unreachable reason => ⟨reason, []⟩

/-! ## Files -/

/-- A directory with the ruleset `id` in the file `id.json`. -/
structure RulesetDirectory where
  root : String

namespace RulesetDirectory

/-- The path of a ruleset. Its id is trimmed; it must be a plain name. -/
def pathOf (d : RulesetDirectory) (id : String) : Except SourceError String :=
  let name := Text.trim id
  if name = "" ∨ name.contains '/' ∨ name.contains '\\' ∨ name = "." ∨ name = ".." then
    .error (.invalidId id)
  else .ok (Files.join d.root (name ++ ".json"))

/-- Reads a ruleset. One without an id gets the one it was asked for by. -/
def fetch (d : RulesetDirectory) (read : Files.Reader) (id : String) :
    Except SourceError Ruleset := do
  let path ← d.pathOf id
  let content ← (read path).mapError (.unreadableRuleset path)
  let ruleset ← (Ruleset.ofText content).mapError (.malformedRuleset path)
  return if ruleset.id = "" then { ruleset with id } else ruleset

end RulesetDirectory

/-- Reads the groups in a file. -/
def fetchGroups (read : Files.Reader) (path : String) : Except SourceError (List Group) := do
  let content ← (read path).mapError (.unreadableCatalog path)
  let catalog ← (Catalog.ofText content).mapError (.malformedCatalog path)
  return catalog.groups

/-! ## Memory -/

/-- Rulesets in memory, the one inserted last in front. -/
structure RulesetShelf where
  rulesets : List Ruleset := []

namespace RulesetShelf

def insert (shelf : RulesetShelf) (s : Ruleset) : RulesetShelf := ⟨s :: shelf.rulesets⟩

def fetch (shelf : RulesetShelf) (id : String) : Except SourceError Ruleset :=
  match shelf.rulesets.find? (·.id = id) with
  | some s => .ok s
  | none => .error (.unknownRuleset id)

end RulesetShelf

/-- Groups in memory, or the reason why they cannot be reached. -/
structure GroupShelf where
  response : Except String (List Group) := .ok []

def GroupShelf.fetch (shelf : GroupShelf) : Except SourceError (List Group) :=
  shelf.response.mapError .unreachable

end RulePyramid
