import RulePyramid.Graph.Basic

/-!
Cycles of the dependency graph: the sets of at least two rules that all depend on each other,
directly or through others. What each node reaches is kept as a number whose binary digits stand
for the positions of nodes; letting paths pass through one node after the other makes it complete.
-/

namespace RulePyramid

/-- For each position the set of positions that it reaches, as the digits of a number. -/
abbrev Reach := Array Nat

namespace Reach

def reaches (r : Reach) (i j : Nat) : Bool := (r[i]?.getD 0).testBit j

/-- Lets paths pass through `k`: what reaches `k` reaches all that `k` reaches. -/
def through (r : Reach) (k : Nat) : Reach :=
  let beyond := r[k]?.getD 0
  r.map fun row => if row.testBit k then row ||| beyond else row

/-- Lets paths pass through every position. -/
def close (r : Reach) : Reach := (List.range r.size).foldl through r

/-- The positions that reach `i` and are reached by it, and `i` itself, in ascending order. -/
def component (r : Reach) (i : Nat) : List Nat :=
  (List.range r.size).filter fun j => j = i || (r.reaches i j && r.reaches j i)

end Reach

namespace RuleGraph

/-- The positions of the dependencies of a node, as the digits of a number. -/
def dependencyRow (g : RuleGraph) (n : Node) : Nat :=
  (n.dependencyIds.filterMap fun id => g.index[id]?).foldl (fun row i => row ||| 1 <<< i) 0

/-- What each node depends on, directly or through others. -/
def reach (g : RuleGraph) : Reach := Reach.close (g.nodes.map g.dependencyRow)

/-- The components with more than one member, each given by its first position. -/
def cyclePositions (g : RuleGraph) : List (List Nat) :=
  let r := g.reach
  ((List.range r.size).filter fun i => (r.component i).head? = some i).map r.component
    |>.filter (1 < ·.length)

/-- The dictionary order of lists of ids. -/
def idsLe : List String → List String → Bool
  | [], _ => true
  | _ :: _, [] => false
  | a :: as, b :: bs => if a = b then idsLe as bs else a < b

/-- The sets of rules that depend on each other, each in ascending order, and the list of them
in dictionary order. -/
def cycles (g : RuleGraph) : List (List String) :=
  (g.cyclePositions.map fun positions =>
    (positions.filterMap fun i => g.nodes[i]?.map (·.id)).mergeSort).mergeSort idsLe

/-- The last of the cycles that an id is in. -/
def cycleOf? (cycles : List (List String)) (id : String) : Option Nat :=
  (cycles.zipIdx.reverse.find? (·.1.contains id)).map (·.2)

/-- Whether an edge joins two rules of one cycle. -/
def joinsCycle (cycles : List (List String)) (e : Edge) : Bool :=
  match cycleOf? cycles e.source, cycleOf? cycles e.target with
  | some i, some j => i = j
  | _, _ => false

/-- The edges that join two rules of one cycle, each once, in order. -/
def cycleEdges (g : RuleGraph) (cycles : List (List String)) : List Edge :=
  (g.edges.filter (joinsCycle cycles)).eraseDups

end RuleGraph

end RulePyramid
