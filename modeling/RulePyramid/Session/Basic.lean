import RulePyramid.View.Basic
import RulePyramid.View.Details
import RulePyramid.Event.Basic
import RulePyramid.Request
import RulePyramid.Failure

/-!
A session: the selected ruleset, the group catalog and the view of both, kept in agreement while
responses come late or out of order. Each step is a function of the session alone; what happens
between two steps of an operation, while a source or a store is asked, is up to the caller.
-/

namespace RulePyramid

/-- What became of a response. -/
inductive Outcome where
  | applied
  /-- A newer request was issued first, and the response was dropped. -/
  | superseded
  | failed
  deriving DecidableEq

structure Session where
  config : LayoutConfig Single
  tracker : Tracker := {}
  /-- The ruleset that was asked for last. -/
  requested : Option String := none
  ruleset : Option Ruleset := none
  catalog : Catalog := .fallback
  /-- Why the catalog in use is the fallback, if it is. -/
  issue : Option Catalog.Issue := none
  graph : RuleGraph := .empty
  view : View Single := {}
  /-- The selected node. -/
  selected : Option String := none
  events : EventQueue := {}

namespace Session

/-- A new session with these settings, if they are accepted. -/
def start (config : LayoutConfig Single) : Except (LayoutConfig.Error Single) Session := do
  config.validate
  return { config }

instance : Inhabited Session := ⟨{ config := .default }⟩

def publish (s : Session) (e : Event) : Session := { s with events := s.events.publish e }

/-- The rules in use. -/
def rules (s : Session) : List Rule := (s.ruleset.map (·.rules)).getD []

/-! ## Drawing -/

/-- Deselects a node that the graph does not have any more. -/
def dropSelection (s : Session) (g : RuleGraph) : Session :=
  match s.selected with
  | some id => if g.contains id then s else { s with selected := none }.publish .selectionCleared
  | none => s

/-- Builds graph and view anew from the rules and the catalog. -/
def recompute (s : Session) (reason : RecomputeReason) : Session :=
  let graph := RuleGraph.ofRules s.rules
  let view := graph.view s.catalog s.config
  let s := s.publish
    (.graphRecomputed reason view.nodes.length view.edges.length view.layers.length)
  let s := if view.cycles.isEmpty then s else s.publish (.dependencyCyclesDetected view.cycles)
  { s.dropSelection graph with graph, view }

/-! ## Requests for rulesets -/

/-- Issues a ticket for a ruleset. -/
def issueTicket (s : Session) (rulesetId : String) : Ticket × Session :=
  let (ticket, tracker) := s.tracker.issue rulesetId
  (ticket, { s with tracker })

/-- The first step of a request: notes the ruleset that is asked for and issues the ticket. -/
def recordRequest (s : Session) (rulesetId : String) : Ticket × Session :=
  issueTicket { s with requested := some rulesetId } rulesetId

/-- The last step of a request, after the attempt to remember the ruleset. -/
def announceRequest (s : Session) (ticket : Ticket) (saved : Except Failure Unit) : Session :=
  let s := match saved with
    | .ok () => s
    | .error failure => s.publish (.preferenceSaveFailed failure.chain)
  s.publish (.rulesetSelected ticket.rulesetId ticket.number)

/-- Hands in a response. It counts only if its ticket is current; a failed one leaves the session
without a ruleset. -/
def apply (s : Session) (ticket : Ticket) (response : Except Failure Ruleset)
    (reason : RecomputeReason) : Outcome × Session :=
  if s.tracker.isCurrent ticket then
    match response with
    | .ok ruleset =>
      let s := s.publish (.rulesetLoaded ticket.rulesetId ticket.number ruleset.rules.length)
      (.applied, { s with ruleset := some ruleset }.recompute reason)
    | .error failure =>
      let s := s.publish (.rulesetLoadFailed ticket.rulesetId ticket.number failure.chain)
      (.failed, { s with ruleset := none }.recompute reason)
  else
    (.superseded,
      s.publish (.staleResponseDiscarded ticket.rulesetId ticket.number s.tracker.latest))

/-! ## Refreshing the catalog -/

/-- The first step of a refresh: no response that is still under way will count. -/
def startRefresh (s : Session) : UInt64 × Session :=
  let (number, tracker) := s.tracker.advance
  (number, { s with tracker })

/-- The second step of a refresh: takes the response in. If a ruleset was asked for, it has to be
fetched again for the ticket that this gives; otherwise the view is drawn anew. -/
def receiveGroups (s : Session) (response : Except Failure (List Group)) :
    Option Catalog.Issue × Option Ticket × Session :=
  let (catalog, issue) := Catalog.resolve (response.mapError (·.message))
  let s := match issue with
    | some issue => s.publish (.groupCatalogFallback issue.message)
    | none => s
  let s := s.publish (.groupCatalogChanged catalog.groups.length)
  let s := { s with catalog, issue }
  match s.requested with
  | some rulesetId =>
    let (ticket, s) := s.issueTicket rulesetId
    (issue, some ticket, s)
  | none => (issue, none, s.recompute .catalogChanged)

/-! ## Selecting nodes -/

/-- Selects a node of the ruleset in use; an unknown id changes nothing. -/
def selectNode (s : Session) (id : String) : Option RuleDetails × Session :=
  match RuleDetails.select s.rules s.graph id with
  | some details => (some details, { s with selected := some id }.publish (.nodeSelected id))
  | none => (none, s)

def clearSelection (s : Session) : Session :=
  match s.selected with
  | some _ => { s with selected := none }.publish .selectionCleared
  | none => s

/-- The details of the selected node. -/
def selectedDetails (s : Session) : Option RuleDetails := do
  RuleDetails.select s.rules s.graph (← s.selected)

/-- Takes all events that are pending. -/
def drainEvents (s : Session) : List Event × Session :=
  let (events, queue) := s.events.drain
  (events, { s with events := queue })

end Session

end RulePyramid
