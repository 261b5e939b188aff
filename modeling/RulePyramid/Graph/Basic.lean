import RulePyramid.Graph.Node
import Std.Data.HashMap.Basic

/-!
The dependency graph: nodes in the order in which they were added, and an index from ids to
positions. A node whose id is taken is not added. Edges run from a dependency to the rule that
depends on it.
-/

namespace RulePyramid

structure RuleGraph where
  nodes : Array Node := #[]
  index : Std.HashMap String Nat := ∅

/-- The dependency `source` of the rule `target`. -/
structure Edge where
  source : String
  target : String
  deriving DecidableEq

/-- The order of edges: by source, then by target. -/
def Edge.le (a b : Edge) : Bool :=
  if a.source = b.source then a.target ≤ b.target else a.source < b.source

namespace RuleGraph

def empty : RuleGraph := {}

instance : Inhabited RuleGraph := ⟨empty⟩

def size (g : RuleGraph) : Nat := g.nodes.size

def isEmpty (g : RuleGraph) : Bool := g.nodes.isEmpty

def contains (g : RuleGraph) (id : String) : Bool := g.index.contains id

/-- Adds a node unless its id is taken; tells whether it did. -/
def addNode (g : RuleGraph) (n : Node) : Bool × RuleGraph :=
  if g.contains n.id then (false, g)
  else (true, ⟨g.nodes.push n, g.index.insert n.id g.nodes.size⟩)

def ofNodes (nodes : List Node) : RuleGraph := nodes.foldl (fun g n => (g.addNode n).2) empty

def ofRules (rules : List Rule) : RuleGraph := ofNodes (Node.ofRules rules)

/-! ## Looking up nodes -/

def get? (g : RuleGraph) (id : String) : Option Node := do g.nodes[← g.index[id]?]?

/-- The graph has no node with this id. -/
structure MissingNode where
  id : String
  deriving DecidableEq

def MissingNode.message (_ : MissingNode) : String := "no such node"

/-- The node with an id that is expected to be there. -/
def node (g : RuleGraph) (id : String) : Except MissingNode Node :=
  match g.get? id with
  | some n => .ok n
  | none => .error ⟨id⟩

/-! ## Edges -/

/-- The edges whose two ends are in the graph, in order. -/
def edges (g : RuleGraph) : List Edge :=
  (g.nodes.toList.flatMap fun n =>
    (n.dependencyIds.filter g.contains).map fun id => ⟨id, n.id⟩).mergeSort Edge.le

def edgeCount (g : RuleGraph) : Nat := g.edges.length

/-- The rules that depend on `id`, in ascending order. -/
def dependentsOf (g : RuleGraph) (id : String) : List String :=
  ((g.nodes.toList.filter (·.dependsOn id)).map (·.id)).mergeSort

/-- How the dependency behind an edge is known. -/
def originOf (g : RuleGraph) (e : Edge) : Except MissingNode Origin := do
  let n ← g.node e.target
  return (n.dependencies.find? (·.id = e.source)).elim .explicit (·.origin)

end RuleGraph

end RulePyramid
