import RulePyramid.Text.Blank
import RulePyramid.Text.Lowercase

/-!
Groups of rules. Names of groups are compared after trimming and lower-casing; rules without a
group share the name of the catch-all. A catalog lists the groups; where none can be had, a fixed
one takes its place.
-/

namespace RulePyramid

/-- The name of the catch-all. -/
def ungrouped : String := "ungrouped"

/-- The name by which groups are compared. A missing or blank one is that of the catch-all. -/
def normalizeGroupName (raw : Option String) : String :=
  match raw.map Text.trim with
  | some name => if name.isEmpty then ungrouped else Text.lowercase name
  | none => ungrouped

structure Group where
  groupName : String
  displayName : String := ""
  color : String := ""
  displayOrder : Int := 0
  deriving DecidableEq

namespace Group

def normalizedName (g : Group) : String := normalizeGroupName (some g.groupName)

/-- What the group is called on a drawing. -/
def label (g : Group) : String :=
  if Text.isBlankText g.displayName then g.groupName else g.displayName

end Group

structure Catalog where
  groups : List Group
  deriving DecidableEq

namespace Catalog

/-- The catalog that is used when no other can be had. -/
def fallback : Catalog where
  groups := [⟨"base", "Base Pay", "blue", 1⟩, ⟨"allowance", "Allowances", "green", 2⟩,
    ⟨"bonus", "Bonuses", "orange", 3⟩, ⟨"deduction", "Deductions", "red", 4⟩,
    ⟨"total", "Totals", "purple", 5⟩]

/-- Why the fallback is in use. -/
inductive Issue where
  | unavailable (reason : String)
  | empty
  deriving DecidableEq

def Issue.message : Issue → String
  | .unavailable reason => s!"group catalog is unavailable: {reason}"
  | .empty => "group catalog contains no usable groups"

/-- The catalog for a response: its groups with a name, or the fallback with the reason for
it. -/
def resolve : Except String (List Group) → Catalog × Option Issue
  | .error reason => (fallback, some (.unavailable reason))
  | .ok groups =>
    match groups.filter (!Text.isBlankText ·.groupName) with
    | [] => (fallback, some .empty)
    | usable => (⟨usable⟩, none)

/-- The first group with a name. -/
def find? (c : Catalog) (name : String) : Option Group :=
  let wanted := normalizeGroupName (some name)
  c.groups.find? (·.normalizedName = wanted)

end Catalog

end RulePyramid
