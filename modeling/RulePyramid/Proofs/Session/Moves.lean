import RulePyramid.Proofs.Session.Rest

/-!
The moves that a session makes while operations run on it. Whatever an operation and the
collaborators that it asks do to a session is a list of moves (`Traces`), each made at once, and the
session they leave is found by following the moves (`Traces.session_after`). What a session is at
some moment of a run is what the moves up to that moment make of it, so a property that every move
keeps holds also while collaborators answer. Runs make such moves (`Runs.exists_traces`), and so do
all operations with collaborators that keep to them (`Collaborators.Traced`).
-/

namespace RulePyramid

open Operation

/-! ## Moves -/

/-- What can be done to a session at once. -/
inductive Move where
  /-- A ruleset is asked for, and a ticket is issued for it. -/
  | request (rulesetId : String)
  | announce (ticket : Ticket) (saved : Except Failure Unit)
  | apply (ticket : Ticket) (response : Except Failure Ruleset) (reason : RecomputeReason)
  /-- A number is taken, and no ticket is issued for it. -/
  | advance
  /-- A ticket is issued for a ruleset, whether or not this was the one asked for. -/
  | issue (rulesetId : String)
  | receive (groups : Except Failure (List Group))
  | select (id : String)
  | clear
  /-- The oldest event is taken, if there is one. -/
  | next
  | drain

namespace Session

variable (s : Session)

def nextEvent : Option Event × Session :=
  let (event, queue) := s.events.next
  (event, { s with events := queue })

def move : Move → Session
  | .request rulesetId => (s.recordRequest rulesetId).2
  | .announce ticket saved => s.announceRequest ticket saved
  | .apply ticket response reason => (s.apply ticket response reason).2
  | .advance => s.startRefresh.2
  | .issue rulesetId => (s.issueTicket rulesetId).2
  | .receive groups => (s.receiveGroups groups).2.2
  | .select id => (s.selectNode id).2
  | .clear => s.clearSelection
  | .next => s.nextEvent.2
  | .drain => s.drainEvents.2

/-- The session after some moves. -/
def follow (ms : List Move) : Session := ms.foldl move s

@[simp] theorem follow_cons (m : Move) (ms : List Move) :
    s.follow (m :: ms) = (s.move m).follow ms := rfl

@[simp] theorem follow_append (ms ms' : List Move) :
    s.follow (ms ++ ms') = (s.follow ms).follow ms' := List.foldl_append

/-- The events that a move takes. -/
def taken : Move → List Event
  | .next => s.nextEvent.1.toList
  | .drain => s.drainEvents.1
  | _ => []

/-- The events that are taken along some moves, in the order in which they are. -/
def told (s : Session) : List Move → List Event
  | [] => []
  | m :: ms => s.taken m ++ told (s.move m) ms

/-- No event is lost, none is taken twice, and the order stays. -/
theorem nextEvent_append_pending :
    s.nextEvent.1.toList ++ s.nextEvent.2.events.pending = s.events.pending := by
  cases hpending : s.events.pending with
  | nil => simp only [nextEvent, EventQueue.next, hpending, Option.toList_none, List.append_nil]
  | cons e rest => simp only [nextEvent, EventQueue.next, hpending, Option.toList_some,
      List.singleton_append]

theorem drainEvents_append_pending :
    s.drainEvents.1 ++ s.drainEvents.2.events.pending = s.events.pending := List.append_nil _

/-! ## Drawing and taking in a catalog -/

theorem dropSelection_redrawn (g graph : RuleGraph) (view : View Single) :
    { s with graph, view }.dropSelection g = { s.dropSelection g with graph, view } := by
  cases hselected : s.selected with
  | none => simp only [dropSelection, hselected]
  | some id =>
    cases hcontains : g.contains id with
    | true => simp only [dropSelection, hselected, hcontains, if_true]
    | false =>
      simp only [dropSelection, hselected, hcontains, Bool.false_eq_true, if_false]
      rfl

/-- The session with a new graph and view, before its selection is looked at. -/
def drawn (reason : RecomputeReason) : Session :=
  let graph := RuleGraph.ofRules s.rules
  let view := graph.view s.catalog s.config
  let s := s.publish
    (.graphRecomputed reason view.nodes.length view.edges.length view.layers.length)
  let s := if view.cycles.isEmpty then s else s.publish (.dependencyCyclesDetected view.cycles)
  { s with graph, view }

theorem recompute_eq (reason : RecomputeReason) :
    s.recompute reason = (s.drawn reason).dropSelection (.ofRules s.rules) :=
  (dropSelection_redrawn ..).symm

/-- The session with another catalog, before anything is drawn or fetched. -/
def adopt (catalog : Catalog) (issue : Option Catalog.Issue) : Session :=
  let s := match issue with
    | some issue => s.publish (.groupCatalogFallback issue.message)
    | none => s
  { s.publish (.groupCatalogChanged catalog.groups.length) with catalog, issue }

@[simp] theorem data_adopt (catalog : Catalog) (issue : Option Catalog.Issue) :
    (s.adopt catalog issue).data = { s.data with catalog } := by
  cases issue <;> rfl

/-- The groups make a catalog. Then a ticket is issued if a ruleset was asked for, and the view is
drawn anew if none was. -/
theorem receiveGroups_eq {groups : Except Failure (List Group)} {catalog : Catalog}
    {issue : Option Catalog.Issue}
    (hresolve : Catalog.resolve (groups.mapError (·.message)) = (catalog, issue)) :
    s.receiveGroups groups = match s.requested with
      | some rulesetId =>
        let (ticket, s) := (s.adopt catalog issue).issueTicket rulesetId
        (issue, some ticket, s)
      | none => (issue, none, (s.adopt catalog issue).recompute .catalogChanged) := by
  have hrequested : (s.adopt catalog issue).requested = s.requested := by cases issue <;> rfl
  rw [receiveGroups, hresolve, ← hrequested]
  rfl

theorem exists_move_receive (groups : Except Failure (List Group)) :
    ∃ catalog issue, s.move (.receive groups) =
      match s.requested with
      | some rulesetId => ((s.adopt catalog issue).issueTicket rulesetId).2
      | none => (s.adopt catalog issue).recompute .catalogChanged := by
  rcases hresolve : Catalog.resolve (groups.mapError (·.message)) with ⟨catalog, issue⟩
  refine ⟨catalog, issue, ?_⟩
  rw [move, s.receiveGroups_eq hresolve]
  split <;> rfl

/-! ## The catalog in use -/

/-- The catalog in use, and why it is the fallback if it is. -/
def resolution : Catalog × Option Catalog.Issue := (s.catalog, s.issue)

theorem resolution_dropSelection (g : RuleGraph) :
    (s.dropSelection g).resolution = s.resolution := by
  unfold dropSelection
  split
  · split <;> rfl
  · rfl

theorem resolution_recompute (reason : RecomputeReason) :
    (s.recompute reason).resolution = s.resolution := by
  rw [recompute_eq, resolution_dropSelection, drawn]
  split <;> rfl

theorem resolution_announceRequest (ticket : Ticket) (saved : Except Failure Unit) :
    (s.announceRequest ticket saved).resolution = s.resolution := by
  cases saved <;> rfl

theorem resolution_apply (ticket : Ticket) (response : Except Failure Ruleset)
    (reason : RecomputeReason) : (s.apply ticket response reason).2.resolution = s.resolution := by
  unfold apply
  split
  · cases response <;> exact resolution_recompute ..
  · rfl

theorem resolution_of_receiveGroups {s s' : Session} {groups : Except Failure (List Group)}
    {issue : Option Catalog.Issue} {ticket? : Option Ticket}
    (hreceive : s.receiveGroups groups = (issue, ticket?, s')) :
    s'.resolution = Catalog.resolve (groups.mapError (·.message)) := by
  rcases hresolve : Catalog.resolve (groups.mapError (·.message)) with ⟨catalog, issue'⟩
  rw [hresolve]
  rw [s.receiveGroups_eq hresolve] at hreceive
  cases hrequested : s.requested with
  | some rulesetId =>
    rw [hrequested] at hreceive
    cases hreceive
    rfl
  | none =>
    rw [hrequested] at hreceive
    cases hreceive
    exact resolution_recompute ..

/-- Only groups that are taken in change the catalog. -/
theorem resolution_move {m : Move} (hm : ∀ groups, m ≠ .receive groups) :
    (s.move m).resolution = s.resolution := by
  cases m with
  | receive groups => exact (hm groups rfl).elim
  | request | advance | issue | next | drain => rfl
  | announce ticket saved => exact s.resolution_announceRequest ticket saved
  | apply ticket response reason => exact s.resolution_apply ticket response reason
  | select id =>
    simp only [move, selectNode]
    split <;> rfl
  | clear =>
    simp only [move, clearSelection]
    split <;> rfl

theorem resolution_follow {ms : List Move} (hms : ∀ groups, .receive groups ∉ ms) :
    (s.follow ms).resolution = s.resolution := by
  induction ms generalizing s with
  | nil => rfl
  | cons m ms ih =>
    rw [follow_cons, ih _ fun groups hmem => hms groups (.tail _ hmem)]
    exact s.resolution_move fun groups hm => hms groups (hm ▸ .head _)

end Session

/-! ## Traces -/

/-- Run from the world `w`, an operation makes the moves `ms` on the session and touches it by
nothing else. `store` tells what a store of preferences may do to the session while it saves.
Selecting, restoring and resuming are put together from the operations listed here (see
`Collaborators.Traced`). -/
inductive Traces {σ : Type} (store : List Move → Prop) :
    {α : Type} → (op : Operation σ α) → (w : World σ) → (ms : List Move) → Prop where
  /-- Looking at the session and at what is around it. -/
  | look {α : Type} (f : World σ → α) : Traces store (fun w => (f w, w)) w []
  | outside {α : Type} (f : σ → α × σ) : Traces store (onOutside f) w []
  | bind {α β : Type} {x : Operation σ α} {f : α → Operation σ β} (hx : Traces store x w ms)
      (hf : Traces store (f (x.value w)) (x.after w) ms') : Traces store (x >>= f) w (ms ++ ms')
  | selectNode (id : String) : Traces store (onSession (·.selectNode id)) w [.select id]
  | clearSelection : Traces store (onSession fun s => ((), s.clearSelection)) w [.clear]
  /-- The oldest event is taken from some handle of the queue. -/
  | nextEvent : Traces store (onSession (·.nextEvent)) w [.next]
  | drainEvents : Traces store (onSession (·.drainEvents)) w [.drain]
  | apply (ticket : Ticket) (response : Except Failure Ruleset) :
      Traces store (onSession (·.apply ticket response .rulesetChanged)) w
        [.apply ticket response .rulesetChanged]
  /-- The tracker is used without the session. -/
  | advance : Traces store (onSession (·.startRefresh)) w [.advance]
  | issue (rulesetId : String) :
      Traces store (onSession (·.issueTicket rulesetId)) w [.issue rulesetId]
  | beginRequest (c : Collaborators σ)
      (hrecord : w.session.recordRequest rulesetId = (ticket, s))
      (hsave : Traces store (c.saveLastRuleset rulesetId) { w with session := s } ms)
      (hstore : store ms)
      (hsaved : c.saveLastRuleset rulesetId { w with session := s } = (saved, w₁)) :
      Traces store (c.beginRequest rulesetId) w
        (.request rulesetId :: (ms ++ [.announce ticket saved]))
  /-- A refresh while no ruleset was asked for. -/
  | refreshGroups (c : Collaborators σ)
      (hstart : w.session.startRefresh = (number, s))
      (hfetch : Traces store c.fetchGroups { w with session := s } ms)
      (hgroups : c.fetchGroups { w with session := s } = (groups, w₁))
      (hreceive : w₁.session.receiveGroups groups = (issue, none, s₁)) :
      Traces store c.refreshCatalog w (.advance :: (ms ++ [.receive groups]))
  /-- A refresh that fetches the ruleset again. -/
  | refreshAll (c : Collaborators σ)
      (hstart : w.session.startRefresh = (number, s))
      (hfetch : Traces store c.fetchGroups { w with session := s } ms)
      (hgroups : c.fetchGroups { w with session := s } = (groups, w₁))
      (hreceive : w₁.session.receiveGroups groups = (issue, some ticket, s₁))
      (hrefetch : Traces store (c.fetchRuleset ticket.rulesetId) { w₁ with session := s₁ } ms')
      (hruleset : c.fetchRuleset ticket.rulesetId { w₁ with session := s₁ } = (response, w₂)) :
      Traces store c.refreshCatalog w
        (.advance :: (ms ++ .receive groups :: (ms' ++ [.apply ticket response .catalogChanged])))

namespace Collaborators

variable {σ : Type} {c : Collaborators σ} {w w₁ : World σ}

theorem session_after_beginRequest (hrecord : w.session.recordRequest rulesetId = (ticket, s))
    (hsaved : c.saveLastRuleset rulesetId { w with session := s } = (saved, w₁)) :
    ((c.beginRequest rulesetId).after w).session = w₁.session.announceRequest ticket saved := by
  rw [Operation.after, Collaborators.beginRequest]
  simp only [bind, StateT.bind, onSession, hrecord, hsaved]
  rfl

end Collaborators

namespace Traces

variable {σ α : Type} {store : List Move → Prop} {op : Operation σ α} {w : World σ}
  {ms : List Move}

/-- The moves of an operation make of the session what the operation makes of it. -/
theorem session_after (H : Traces store op w ms) : (op.after w).session = w.session.follow ms := by
  induction H with
  | look | outside | selectNode | clearSelection | nextEvent | drainEvents | apply | advance
  | issue => rfl
  | bind _ _ ihx ihf => rw [Session.follow_append, ← ihx]; exact ihf
  | beginRequest c hrecord _ _ hsaved ih =>
    rw [Operation.after, hsaved] at ih
    rw [Collaborators.session_after_beginRequest hrecord hsaved, ih, Session.follow_cons,
      Session.follow_append, Session.move, hrecord]
    rfl
  | refreshGroups c hstart _ hgroups hreceive ih =>
    rw [Operation.after, hgroups] at ih
    rw [Collaborators.after_refreshCatalog_of_none hstart hgroups hreceive, Session.follow_cons,
      Session.follow_append, Session.move, hstart, ← ih, Session.follow_cons, Session.move, hreceive]
    rfl
  | refreshAll c hstart _ hgroups hreceive _ hruleset ih ih' =>
    rw [Operation.after, hgroups] at ih
    rw [Operation.after, hruleset] at ih'
    rw [Collaborators.after_refreshCatalog_of_some hstart hgroups hreceive hruleset,
      Session.follow_cons, Session.follow_append, Session.move, hstart, ← ih, Session.follow_cons,
      Session.move, hreceive, Session.follow_append, ← ih']
    rfl

end Traces

/-- Every run makes moves, whatever its history. -/
theorem Runs.exists_traces {σ α : Type} {op : Operation σ α} {w : World σ} {h h' : History}
    (H : Runs op w h h') : ∃ ms, Traces (fun _ => True) op w ms := by
  induction H with
  | look f => exact ⟨_, .look f⟩
  | outside f => exact ⟨_, .outside f⟩
  | bind _ _ ihx ihf =>
    obtain ⟨_, hx⟩ := ihx
    obtain ⟨_, hf⟩ := ihf
    exact ⟨_, hx.bind hf⟩
  | selectNode id => exact ⟨_, .selectNode id⟩
  | clearSelection => exact ⟨_, .clearSelection⟩
  | drainEvents => exact ⟨_, .drainEvents⟩
  | apply response => exact ⟨_, .apply _ response⟩
  | beginRequest c hrecord _ ih =>
    obtain ⟨_, hsave⟩ := ih
    exact ⟨_, .beginRequest c hrecord hsave trivial rfl⟩
  | refreshGroups c hstart _ hgroups hreceive ih =>
    obtain ⟨_, hfetch⟩ := ih
    exact ⟨_, .refreshGroups c hstart hfetch hgroups hreceive⟩
  | refreshAll c hstart _ hgroups hreceive _ hruleset ih ih' =>
    obtain ⟨_, hfetch⟩ := ih
    obtain ⟨_, hrefetch⟩ := ih'
    exact ⟨_, .refreshAll c hstart hfetch hgroups hreceive hrefetch hruleset⟩

/-! ## Operations of collaborators that keep to moves -/

namespace Collaborators

variable {σ : Type} {store : List Move → Prop} {c : Collaborators σ}

/-- The collaborators touch the session by nothing but operations, and saving makes such moves as
`store` tells. -/
structure Traced (store : List Move → Prop) (c : Collaborators σ) : Prop where
  fetchRuleset : ∀ rulesetId w, ∃ ms, Traces store (c.fetchRuleset rulesetId) w ms
  fetchGroups : ∀ w, ∃ ms, Traces store c.fetchGroups w ms
  lastRuleset : ∀ w, ∃ ms, Traces store c.lastRuleset w ms
  saveLastRuleset : ∀ rulesetId w, ∃ ms, Traces store (c.saveLastRuleset rulesetId) w ms ∧ store ms

namespace Traced

theorem constant (hstore : store []) (ruleset : Except Failure Ruleset)
    (groups : Except Failure (List Group)) :
    (Collaborators.constant ruleset groups : Collaborators σ).Traced store where
  fetchRuleset _ _ := ⟨_, .look _⟩
  fetchGroups _ := ⟨_, .look _⟩
  lastRuleset _ := ⟨_, .look _⟩
  saveLastRuleset _ _ := ⟨_, .look _, hstore⟩

variable (H : c.Traced store) (rulesetId : String) (w : World σ)
include H

theorem beginRequest : ∃ ms, Traces store (c.beginRequest rulesetId) w ms := by
  rcases hrecord : w.session.recordRequest rulesetId with ⟨ticket, s⟩
  obtain ⟨ms, hsave, hstore⟩ := H.saveLastRuleset rulesetId { w with session := s }
  exact ⟨_, .beginRequest c hrecord hsave hstore rfl⟩

theorem selectRuleset : ∃ ms, Traces store (c.selectRuleset rulesetId) w ms := by
  obtain ⟨ms, hbegin⟩ := H.beginRequest rulesetId w
  obtain ⟨ms', hfetch⟩ := H.fetchRuleset rulesetId ((c.beginRequest rulesetId).after w)
  exact ⟨_, hbegin.bind (hfetch.bind (.apply _ _))⟩

theorem restoreLastSelection : ∃ ms, Traces store c.restoreLastSelection w ms := by
  obtain ⟨ms, hlast⟩ := H.lastRuleset w
  match hvalue : c.lastRuleset.value w with
  | .error failure => exact ⟨_, hlast.bind (by rw [hvalue]; exact .look _)⟩
  | .ok none => exact ⟨_, hlast.bind (by rw [hvalue]; exact .look _)⟩
  | .ok (some rulesetId) =>
    obtain ⟨ms', hselect⟩ := H.selectRuleset rulesetId (c.lastRuleset.after w)
    exact ⟨_, hlast.bind (by rw [hvalue]; exact hselect.bind (.look _))⟩

theorem refreshCatalog : ∃ ms, Traces store c.refreshCatalog w ms := by
  rcases hstart : w.session.startRefresh with ⟨number, s⟩
  obtain ⟨ms, hfetch⟩ := H.fetchGroups { w with session := s }
  rcases hgroups : c.fetchGroups { w with session := s } with ⟨groups, w₁⟩
  rcases hreceive : w₁.session.receiveGroups groups with ⟨issue, _ | ticket, s₁⟩
  · exact ⟨_, .refreshGroups c hstart hfetch hgroups hreceive⟩
  · obtain ⟨ms', hrefetch⟩ := H.fetchRuleset ticket.rulesetId { w₁ with session := s₁ }
    exact ⟨_, .refreshAll c hstart hfetch hgroups hreceive hrefetch rfl⟩

theorem resume : ∃ ms, Traces store c.resume w ms := by
  obtain ⟨ms, hrefresh⟩ := H.refreshCatalog w
  obtain ⟨ms', hrestore⟩ := H.restoreLastSelection (c.refreshCatalog.after w)
  exact ⟨_, hrefresh.bind hrestore⟩

end Traced
end Collaborators
end RulePyramid
