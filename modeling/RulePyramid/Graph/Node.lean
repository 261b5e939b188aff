import RulePyramid.Rule
import RulePyramid.Group
import RulePyramid.Expression
import Std.Data.HashSet.Basic

/-!
The nodes of the dependency graph. A rule depends on the known rules that it declares or that its
expression mentions; of several definitions of a target the first one counts.
-/

namespace RulePyramid

/-- How a dependency is known: declared, found in the expression, or both. -/
inductive Origin where
  | explicit
  | inferred
  | both
  deriving DecidableEq

def Origin.isDeclared : Origin → Bool
  | .explicit | .both => true
  | .inferred => false

structure Dependency where
  id : String
  origin : Origin
  deriving DecidableEq

/-- A rule as the graph sees it: its target, the name of its group and what it depends on. -/
structure Node where
  id : String
  group : String
  dependencies : List Dependency
  deriving DecidableEq

namespace Node

def dependencyIds (n : Node) : List String := n.dependencies.map (·.id)

theorem length_take_lt_of_drop_eq_cons {α : Type} {k : Nat} {as bs : List α} {b : α}
    (h : as.drop k = b :: bs) : (as.take k).length < as.length := by
  have := congrArg List.length h
  rw [List.length_drop, List.length_cons] at this
  rw [List.length_take]
  omega

theorem length_lt_of_drop_eq_cons {α : Type} {k : Nat} {as bs : List α} {b : α}
    (h : as.drop k = b :: bs) : bs.length < as.length := by
  have := congrArg List.length h
  rw [List.length_drop, List.length_cons] at this
  omega

/-- Looks for an id by halving a list of dependencies in ascending order. -/
def searchHalves (id : String) (ds : List Dependency) : Bool :=
  match h : ds.drop (ds.length / 2) with
  | [] => false
  | d :: rest =>
    have := length_take_lt_of_drop_eq_cons h
    have := length_lt_of_drop_eq_cons h
    if id = d.id then true
    else if id < d.id then searchHalves id (ds.take (ds.length / 2))
    else searchHalves id rest
termination_by ds.length

def dependsOn (n : Node) (id : String) : Bool := searchHalves id n.dependencies

/-- The names that a rule declares and that are known, without the rule itself. -/
def declaredIds (r : Rule) (known : String → Bool) : List String :=
  (r.dependsOn.map Text.trim).filter fun name => name ≠ r.target && known name

/-- How an id is known that is declared or inferred. -/
def originOf (declared inferred : Bool) : Origin :=
  if declared && inferred then .both else if declared then .explicit else .inferred

def ofRule (known : String → Bool) (r : Rule) : Node :=
  let declared := declaredIds r known
  let inferred := Expression.references r.expression known r.target
  let ids := (declared ++ inferred).eraseDups.mergeSort
  { id := r.target
    group := normalizeGroupName r.group
    dependencies := ids.map fun id => ⟨id, originOf (declared.contains id) (inferred.contains id)⟩ }

/-- The first definition of each target, in order. -/
def firstDefinitions (rules : List Rule) : List Rule :=
  rules.eraseDupsBy fun later earlier => later.target == earlier.target

/-- One node for each target, in order of first appearance. -/
def ofRules (rules : List Rule) : List Node :=
  let targets := Std.HashSet.ofList (rules.map (·.target))
  (firstDefinitions rules).map (ofRule targets.contains)

end Node

end RulePyramid
