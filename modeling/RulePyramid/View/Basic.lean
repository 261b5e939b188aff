import RulePyramid.Graph.Cycles
import RulePyramid.Layout.Pyramid
import RulePyramid.Color

/-!
The drawable view of a graph: boxes, arrows, and a caption with a separator for each band.
Everything is derived from the graph, the pyramid, the catalog and the settings; what has no
position is not drawn.
-/

namespace RulePyramid

structure ViewNode (α : Type) where
  id : String
  label : String
  group : String
  color : Color
  /-- The centre of the box. -/
  position : Point α
  size : Point α
  dependencies : List String

/-- An arrow from the bottom of a dependency's box to the top of its dependent's. -/
structure ViewEdge (α : Type) where
  source : String
  target : String
  origin : Origin
  start : Point α
  stop : Point α
  inCycle : Bool
  style : EdgeStyle α

structure ViewLayer (α : Type) where
  key : LayerKey
  group : String
  displayName : String
  color : Color
  labelAnchor : Point α
  separatorStart : Point α
  separatorStop : Point α

structure View (α : Type) where
  nodes : List (ViewNode α) := []
  edges : List (ViewEdge α) := []
  layers : List (ViewLayer α) := []
  /-- The sets of rules that depend on each other. -/
  cycles : List (List String) := []

namespace View

variable {α : Type}

instance : Inhabited (View α) := ⟨{}⟩

def node? (v : View α) (id : String) : Option (ViewNode α) := v.nodes.find? (·.id = id)

def hasEdge (v : View α) (source target : String) : Bool :=
  v.edges.any fun e => e.source = source && e.target = target

def isEmpty (v : View α) : Bool := v.nodes.isEmpty

end View

/-- What a view is made of. -/
structure Scene (α : Type) where
  graph : RuleGraph
  pyramid : Pyramid α
  catalog : Catalog
  config : LayoutConfig α

namespace Scene

variable {α : Type} [Scalar α] (s : Scene α)

/-- The colour of a group; the catch-all is always neutral. -/
def colorOf (group : String) : Color :=
  if group = ungrouped then .ofGroup none else .ofGroup ((s.catalog.find? group).map (·.color))

def bottomCenter (p : Point α) : Point α := ⟨p.x, p.y + Scalar.half s.config.nodeHeight⟩

def topCenter (p : Point α) : Point α := ⟨p.x, p.y - Scalar.half s.config.nodeHeight⟩

def node? (id : String) : Option (ViewNode α) := do
  let n ← s.graph.get? id
  let position ← s.pyramid.position? id
  return {
    id := n.id
    label := n.id
    group := n.group
    color := s.colorOf n.group
    position
    size := ⟨s.config.nodeWidth, s.config.nodeHeight⟩
    dependencies := n.dependencyIds }

/-- The boxes in the order of the pyramid's rows. -/
def nodes : List (ViewNode α) := (s.pyramid.layers.flatMap (·.rows.flatten)).filterMap s.node?

/-- The arrow for an edge, if both its ends have a position. -/
def edge? (cycles : List (List String)) (e : Edge) :
    Except RuleGraph.MissingNode (Option (ViewEdge α)) :=
  match s.pyramid.position? e.source, s.pyramid.position? e.target with
  | some p, some q => do
    let origin ← s.graph.originOf e
    let inCycle := RuleGraph.joinsCycle cycles e
    return some {
      source := e.source
      target := e.target
      origin
      start := s.bottomCenter p
      stop := s.topCenter q
      inCycle
      style := origin.edgeStyle inCycle }
  | _, _ => .ok none

/-- The arrows in the order of the edges. It fails if an edge leads to a node that the graph does
not have. -/
def edges? (cycles : List (List String)) : Except RuleGraph.MissingNode (List (ViewEdge α)) := do
  return (← s.graph.edges.mapM (s.edge? cycles)).filterMap id

/-- The arrows of a graph in which every edge leads to a node. -/
def edges (cycles : List (List String)) : List (ViewEdge α) := ((s.edges? cycles).toOption).getD []

def displayName (l : Layer α) : String :=
  match l.key with
  | .ungrouped => "Ungrouped"
  | .ranked _ => ((s.catalog.find? l.group).map (·.label)).getD l.group

/-- The caption of a band, and the separator from the left edge of its boxes to the right one. -/
def layer? (l : Layer α) : Option (ViewLayer α) := do
  let label ← s.pyramid.label? l.key
  let left := Scalar.smallest ((l.rows.flatten.filterMap s.pyramid.position?).map (·.x))
  let halfWidth := Scalar.half s.config.nodeWidth
  let height := label.y - Scalar.half s.config.nodeHeight
  return {
    key := l.key
    group := l.group
    displayName := s.displayName l
    color := s.colorOf l.group
    labelAnchor := ⟨label.x, label.y⟩
    separatorStart := ⟨left - halfWidth, height⟩
    separatorStop := ⟨label.x + halfWidth, height⟩ }

def layers : List (ViewLayer α) := s.pyramid.layers.filterMap s.layer?

def view : View α :=
  let cycles := s.graph.cycles
  { nodes := s.nodes, edges := s.edges cycles, layers := s.layers, cycles }

end Scene

/-- The view of a graph with the groups of a catalog. -/
def RuleGraph.view {α : Type} [Scalar α] (g : RuleGraph) (catalog : Catalog)
    (config : LayoutConfig α) : View α :=
  let pyramid := config.pyramid g.nodes.toList (.ofGroups catalog.groups)
  Scene.view ⟨g, pyramid, catalog, config⟩

/-- The view of the components that some rules make up. -/
def componentsGraph {α : Type} [Scalar α] (rules : List Rule) (catalog : Catalog)
    (config : LayoutConfig α) : View α :=
  (RuleGraph.ofRules rules).view catalog config

end RulePyramid
