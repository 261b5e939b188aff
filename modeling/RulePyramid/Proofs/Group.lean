import RulePyramid.Proofs.Ranking
import RulePyramid.Proofs.Text.Lowercase

/-!
Names of groups. A normalized name is its own normal form (`normalizeGroupName_idem`), so it finds in
a catalog what the raw name finds there (`Catalog.find?_normalizeGroupName`); and a catalog has an
entry for a name just if the ranking of its groups has a rank for it
(`Catalog.isSome_ordinal?_iff`).
-/

namespace RulePyramid

open Text (trim lowercase)

/-! ## Normal forms -/

theorem normalizeGroupName_some (name : String) :
    normalizeGroupName (some name) = if trim name = "" then ungrouped else lowercase (trim name) := by
  simp only [normalizeGroupName, Option.map_some, String.isEmpty_iff]

/-- A missing name counts as an empty one. -/
theorem normalizeGroupName_getD (raw : Option String) :
    normalizeGroupName (some (raw.getD "")) = normalizeGroupName raw := by
  cases raw with
  | none => decide
  | some name => rfl

theorem normalizeGroupName_idem (raw : Option String) :
    normalizeGroupName (some (normalizeGroupName raw)) = normalizeGroupName raw := by
  rw [← normalizeGroupName_getD raw, normalizeGroupName_some (raw.getD "")]
  split
  · decide +kernel
  · next hne =>
    rw [normalizeGroupName_some, Text.trim_lowercase_trim,
      if_neg (mt Text.lowercase_eq_empty_iff.mp hne), Text.lowercase_lowercase]

/-! ## Entries -/

namespace Catalog

variable {c : Catalog} {name : String} {entry : Group}

theorem find?_normalizeGroupName (c : Catalog) (raw : Option String) :
    c.find? (normalizeGroupName raw) = c.find? (raw.getD "") := by
  rw [find?, find?, normalizeGroupName_idem, normalizeGroupName_getD]

theorem normalizedName_of_find?_eq_some (h : c.find? name = some entry) :
    entry.normalizedName = normalizeGroupName (some name) := by
  have hname := List.find?_some h
  exact of_decide_eq_true hname

theorem isSome_find?_iff :
    (c.find? name).isSome ↔ ∃ g ∈ c.groups, g.normalizedName = normalizeGroupName (some name) := by
  simp only [find?, List.find?_isSome, decide_eq_true_eq]

/-- The names with a rank are those with an entry. -/
theorem isSome_ordinal?_iff :
    ((Ranking.ofGroups c.groups).ordinal? (normalizeGroupName (some name))).isSome ↔
      (c.find? name).isSome := by
  rw [Ranking.isSome_ordinal?_iff, Ranking.mem_names_ofGroups, isSome_find?_iff]

end Catalog
end RulePyramid
