/-!
A set of characters as the list of its ranges of code points, in ascending order. The sets that
Unicode defines by property are given this way.
-/

namespace RulePyramid.Text

/-- The ranges of a set of characters; both ends of a range belong to it. -/
abbrev CharTable := List (Nat × Nat)

namespace CharTable

/-- A character is in the set when its code point lies in one of the ranges. -/
def contains (table : CharTable) (c : Char) : Bool :=
  table.any fun (first, last) => first ≤ c.toNat && c.toNat ≤ last

theorem contains_iff {table : CharTable} {c : Char} :
    table.contains c = true ↔ ∃ r ∈ table, r.1 ≤ c.toNat ∧ c.toNat ≤ r.2 := by
  simp [contains]

end CharTable

end RulePyramid.Text
