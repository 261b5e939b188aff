/-!
Events: what a session tells about its changes, and the queue in which they wait until somebody
takes them. All handles of a queue share it, and an event is taken once.
-/

namespace RulePyramid

/-- What made the view be drawn again. -/
inductive RecomputeReason where
  | rulesetChanged
  | catalogChanged
  deriving DecidableEq

inductive Event where
  | rulesetSelected (rulesetId : String) (request : UInt64)
  | rulesetLoaded (rulesetId : String) (request : UInt64) (ruleCount : Nat)
  | rulesetLoadFailed (rulesetId : String) (request : UInt64) (error : String)
  /-- A response came after a newer request was issued, and was dropped. -/
  | staleResponseDiscarded (rulesetId : String) (request latest : UInt64)
  | groupCatalogChanged (groupCount : Nat)
  /-- No catalog could be had and the fallback is in use. -/
  | groupCatalogFallback (reason : String)
  | graphRecomputed (reason : RecomputeReason) (nodeCount edgeCount layerCount : Nat)
  | dependencyCyclesDetected (cycles : List (List String))
  | nodeSelected (id : String)
  | selectionCleared
  | preferenceSaveFailed (error : String)
  deriving DecidableEq

/-- The events that nobody has taken yet, the oldest first. -/
structure EventQueue where
  pending : List Event := []

namespace EventQueue

def publish (q : EventQueue) (e : Event) : EventQueue := ⟨q.pending ++ [e]⟩

def size (q : EventQueue) : Nat := q.pending.length

/-- Takes the oldest event. -/
def next (q : EventQueue) : Option Event × EventQueue :=
  match q.pending with
  | [] => (none, q)
  | e :: rest => (some e, ⟨rest⟩)

/-- Takes all events. -/
def drain (q : EventQueue) : List Event × EventQueue := (q.pending, {})

/-- Hands all events to a listener, one by one. -/
def dispatch {σ : Type} (q : EventQueue) (listener : σ → Event → σ) (state : σ) : σ × EventQueue :=
  (q.pending.foldl listener state, {})

end EventQueue

end RulePyramid
