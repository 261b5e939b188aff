import RulePyramid.Group

/-!
The ranking of groups: their normalized names by display order, groups of equal order as they are
listed. A name that comes again counts only where it comes first.
-/

namespace RulePyramid

structure Ranking where
  /-- The names from the lowest rank on. -/
  names : List String
  deriving DecidableEq

namespace Ranking

def ofGroups (groups : List Group) : Ranking where
  names := ((groups.mergeSort (·.displayOrder ≤ ·.displayOrder)).map (·.normalizedName)).eraseDups

def size (r : Ranking) : Nat := r.names.length

def isEmpty (r : Ranking) : Bool := r.names.isEmpty

/-- The rank of a normalized name, counted from one. Ranks are natural numbers without a bound; a
rank of 32 bits is the same as long as fewer than `2 ^ 32` names are listed. -/
def ordinal? (r : Ranking) (name : String) : Option Nat := (r.names.idxOf? name).map (· + 1)

/-- The name that has a rank. -/
def groupAt? (r : Ranking) : Nat → Option String
  | 0 => none
  | ordinal + 1 => r.names[ordinal]?

/-- The names with their ranks. -/
def toList (r : Ranking) : List (String × Nat) := r.names.zipIdx 1

end Ranking

end RulePyramid
