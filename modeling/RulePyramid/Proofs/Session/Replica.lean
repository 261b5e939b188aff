import RulePyramid.Proofs.Session.Moves

/-!
Listeners. A listener keeps a replica of a session by the events that it is told (`Replica.hear`).
Every step of a session tells what it changes (`Session.Tells`), except that a ruleset is asked for
before this is announced. When the store of preferences does nothing to the session, no other move
comes in between (`Undisturbed`), and then the replica is right at every other moment of a run
(`Traces.mirrors_of_start`).
-/

namespace RulePyramid

open Operation

/-! ## Replicas -/

/-- What a listener knows of a session; at first, what holds of a new one. -/
structure Replica where
  selected : Option String := none
  /-- The ruleset that was asked for last. -/
  requested : Option String := none
  /-- The number of rules, if there is a ruleset. -/
  ruleCount : Option Nat := none
  groupCount : Nat := 5
  nodeCount : Nat := 0
  edgeCount : Nat := 0
  layerCount : Nat := 0
  cycles : List (List String) := []

namespace Replica

/-- Each event says anew what it is about. A view has cycles only if this is told after it. -/
def hear (r : Replica) : Event → Replica
  | .rulesetSelected rulesetId _ => { r with requested := some rulesetId }
  | .rulesetLoaded _ _ ruleCount => { r with ruleCount := some ruleCount }
  | .rulesetLoadFailed .. => { r with ruleCount := none }
  | .groupCatalogChanged groupCount => { r with groupCount }
  | .graphRecomputed _ nodeCount edgeCount layerCount =>
    { r with nodeCount, edgeCount, layerCount, cycles := [] }
  | .dependencyCyclesDetected cycles => { r with cycles }
  | .nodeSelected id => { r with selected := some id }
  | .selectionCleared => { r with selected := none }
  | .staleResponseDiscarded .. | .groupCatalogFallback .. | .preferenceSaveFailed .. => r

def hearAll (r : Replica) (es : List Event) : Replica := es.foldl hear r

/-- What is known from some events alone. -/
def ofEvents (es : List Event) : Replica := hearAll {} es

/-- Whenever a selection is cleared, there is one. -/
def Admits (r : Replica) (es : List Event) : Prop :=
  ∀ es', es' ++ [.selectionCleared] <+: es → (r.hearAll es').selected.isSome

variable (r : Replica) {es es' : List Event}

@[simp] theorem hearAll_append (es es' : List Event) :
    r.hearAll (es ++ es') = (r.hearAll es).hearAll es' := List.foldl_append

variable {r}

namespace Admits

theorem nil : r.Admits [] := fun _ hpre => by simp at hpre

theorem singleton {e : Event} (h : e = .selectionCleared → r.selected.isSome) :
    r.Admits [e] := by
  intro es' hpre
  change _ <+: [] ++ [e] at hpre
  rcases List.prefix_concat_iff.mp hpre with heq | hnil
  · obtain ⟨rfl, hcleared⟩ := List.append_inj' heq rfl
    exact h (List.singleton_inj.mp hcleared).symm
  · simp at hnil

theorem append (H : r.Admits es) (H' : (r.hearAll es).Admits es') : r.Admits (es ++ es') := by
  intro es₁ hpre
  rcases List.prefix_or_prefix_of_prefix hpre (List.prefix_append es es') with hfirst | hlater
  · exact H es₁ hfirst
  · rcases List.prefix_concat_iff.mp hlater with rfl | ⟨es₂, rfl⟩
    · exact H es₁ List.prefix_rfl
    · rw [List.append_assoc, List.prefix_append_right_inj] at hpre
      rw [hearAll_append]
      exact H' es₂ hpre

end Admits
end Replica

/-! ## Requests and announcements -/

/-- Neither a request nor its announcement, which belong together. -/
def Move.IsLone : Move → Prop
  | .request _ | .announce .. => False
  | _ => True

/-- Every request is announced before anything else happens. -/
inductive Undisturbed : List Move → Prop
  | nil : Undisturbed []
  | request (ticket : Ticket) (saved : Except Failure Unit) {ms : List Move} : Undisturbed ms →
    Undisturbed (.request ticket.rulesetId :: .announce ticket saved :: ms)
  | lone {m : Move} {ms : List Move} : m.IsLone → Undisturbed ms → Undisturbed (m :: ms)

/-- No request waits to be announced. -/
def Announced (ms : List Move) : Prop := ∀ rulesetId, ms.getLast? ≠ some (.request rulesetId)

namespace Announced

variable {m : Move} {ms : List Move}

theorem cons (hm : ∀ rulesetId, m ≠ .request rulesetId) (H : Announced ms) :
    Announced (m :: ms) := by
  intro rulesetId hlast
  rw [List.getLast?_cons, Option.some_inj] at hlast
  cases hms : ms.getLast? with
  | none =>
    rw [hms] at hlast
    exact hm rulesetId hlast
  | some m' =>
    rw [hms] at hlast
    exact H rulesetId (hms.trans (congrArg some hlast))

theorem tail (H : Announced (m :: ms)) : Announced ms := by
  intro rulesetId hlast
  apply H rulesetId
  rw [List.getLast?_cons, hlast, Option.getD_some]

end Announced

namespace Undisturbed

variable {ms ms' : List Move}

theorem append (H : Undisturbed ms) (H' : Undisturbed ms') : Undisturbed (ms ++ ms') := by
  induction H with
  | nil => exact H'
  | request ticket saved _ ih => exact .request ticket saved ih
  | lone hm _ ih => exact .lone hm ih

theorem announced (H : Undisturbed ms) : Announced ms := by
  induction H with
  | nil => exact nofun
  | @request ticket saved ms _ ih =>
    have hannounce : Announced (.announce ticket saved :: ms) := ih.cons nofun
    intro rulesetId
    rw [List.getLast?_cons_cons]
    exact hannounce rulesetId
  | @lone m ms hm _ ih =>
    refine ih.cons fun rulesetId hrequest => ?_
    rw [hrequest] at hm
    exact hm

theorem of_isPrefix (H : Undisturbed ms) (hpre : ms' <+: ms) (hannounced : Announced ms') :
    Undisturbed ms' := by
  induction H generalizing ms' with
  | nil =>
    cases List.prefix_nil.mp hpre
    exact .nil
  | request ticket saved _ ih =>
    rcases List.prefix_cons_iff.mp hpre with rfl | ⟨ms₁, rfl, hpre₁⟩
    · exact .nil
    rcases List.prefix_cons_iff.mp hpre₁ with rfl | ⟨ms₂, rfl, hpre₂⟩
    · exact (hannounced _ rfl).elim
    · exact .request ticket saved (ih hpre₂ hannounced.tail.tail)
  | lone hm _ ih =>
    rcases List.prefix_cons_iff.mp hpre with rfl | ⟨ms₁, rfl, hpre₁⟩
    · exact .nil
    · exact .lone hm (ih hpre₁ hannounced.tail)

end Undisturbed

/-! ## What steps tell -/

namespace Session

/-- What a listener who has been told everything knows. -/
def replica (s : Session) : Replica where
  selected := s.selected
  requested := s.requested
  ruleCount := s.ruleset.map (·.rules.length)
  groupCount := s.catalog.groups.length
  nodeCount := s.view.nodes.length
  edgeCount := s.view.edges.length
  layerCount := s.view.layers.length
  cycles := s.view.cycles

/-- On the way from `s` to `s'` the events `es` are published and `taken` are taken, and what is
published tells what becomes different. -/
structure Tells (s : Session) (taken es : List Event) (s' : Session) : Prop where
  pending_eq : taken ++ s'.events.pending = s.events.pending ++ es
  replica_eq : s'.replica = s.replica.hearAll es
  admits : s.replica.Admits es

variable {s s' s'' : Session} {taken taken' es es' : List Event}

namespace Tells

theorem trans (H : Tells s taken es s') (H' : Tells s' taken' es' s'') :
    Tells s (taken ++ taken') (es ++ es') s'' where
  pending_eq := by
    rw [List.append_assoc, H'.pending_eq, ← List.append_assoc, H.pending_eq, List.append_assoc]
  replica_eq := by rw [H'.replica_eq, H.replica_eq, Replica.hearAll_append]
  admits := H.admits.append (H.replica_eq ▸ H'.admits)

/-- Nothing becomes different. -/
theorem silent (hevents : s'.events = s.events) (hreplica : s'.replica = s.replica) :
    Tells s [] [] s' :=
  ⟨by rw [hevents, List.nil_append, List.append_nil], hreplica, .nil⟩

theorem single {e : Event} (hevents : s'.events = s.events.publish e)
    (hreplica : s'.replica = s.replica.hear e)
    (hclear : e = .selectionCleared → s.selected.isSome) : Tells s [] [e] s' :=
  ⟨by rw [hevents]; rfl, hreplica, .singleton hclear⟩

end Tells

variable (s)

theorem tells_dropSelection (g : RuleGraph) : ∃ es, Tells s [] es (s.dropSelection g) := by
  cases hselected : s.selected with
  | none =>
    simp only [dropSelection, hselected]
    exact ⟨_, .silent rfl rfl⟩
  | some id =>
    simp only [dropSelection, hselected]
    split
    · exact ⟨_, .silent rfl rfl⟩
    · exact ⟨_, .single rfl rfl fun _ => by rw [hselected]; rfl⟩

theorem tells_drawn (reason : RecomputeReason) : ∃ es, Tells s [] es (s.drawn reason) := by
  let graph := RuleGraph.ofRules s.rules
  let view := graph.view s.catalog s.config
  let e : Event := .graphRecomputed reason view.nodes.length view.edges.length view.layers.length
  by_cases hcycles : view.cycles.isEmpty
  · have hdrawn : s.drawn reason = { s.publish e with graph, view } :=
      congrArg (fun s : Session => { s with graph, view }) (if_pos hcycles)
    have hnone : view.cycles = [] := List.isEmpty_iff.mp hcycles
    rw [hdrawn]
    exact ⟨_, .single rfl (congrArg (fun cycles => { s.replica.hear e with cycles }) hnone) nofun⟩
  · have hdrawn : s.drawn reason =
        { (s.publish e).publish (.dependencyCyclesDetected view.cycles) with graph, view } :=
      congrArg (fun s : Session => { s with graph, view }) (if_neg hcycles)
    -- In between, a listener knows the counts and of no cycles.
    have hcounts : Tells s [] [e] { s.publish e with graph, view := { view with cycles := [] } } :=
      .single rfl rfl nofun
    rw [hdrawn]
    exact ⟨_, hcounts.trans (.single rfl rfl nofun)⟩

theorem tells_recompute (reason : RecomputeReason) :
    ∃ es, Tells s [] es (s.recompute reason) := by
  obtain ⟨es, hdrawn⟩ := s.tells_drawn reason
  obtain ⟨es', hdrop⟩ := (s.drawn reason).tells_dropSelection (.ofRules s.rules)
  rw [recompute_eq]
  exact ⟨_, hdrawn.trans hdrop⟩

theorem tells_adopt (catalog : Catalog) (issue : Option Catalog.Issue) :
    ∃ es, Tells s [] es (s.adopt catalog issue) := by
  cases issue with
  | none => exact ⟨_, .single rfl rfl nofun⟩
  | some issue =>
    have hfallback : Tells s [] [.groupCatalogFallback issue.message]
        (s.publish (.groupCatalogFallback issue.message)) := .single rfl rfl nofun
    exact ⟨_, hfallback.trans (.single rfl rfl nofun)⟩

theorem tells_apply (ticket : Ticket) (response : Except Failure Ruleset)
    (reason : RecomputeReason) : ∃ es, Tells s [] es (s.apply ticket response reason).2 := by
  simp only [apply]
  split
  · cases response with
    | ok ruleset =>
      have hloaded : Tells s [] [.rulesetLoaded ticket.rulesetId ticket.number ruleset.rules.length]
          { s.publish (.rulesetLoaded ticket.rulesetId ticket.number ruleset.rules.length) with
            ruleset := some ruleset } := .single rfl rfl nofun
      obtain ⟨es, hdrawn⟩ := tells_recompute _ reason
      exact ⟨_, hloaded.trans hdrawn⟩
    | error failure =>
      have hfailed : Tells s [] [.rulesetLoadFailed ticket.rulesetId ticket.number failure.chain]
          { s.publish (.rulesetLoadFailed ticket.rulesetId ticket.number failure.chain) with
            ruleset := none } := .single rfl rfl nofun
      obtain ⟨es, hdrawn⟩ := tells_recompute _ reason
      exact ⟨_, hfailed.trans hdrawn⟩
  · exact ⟨_, .single rfl rfl nofun⟩

theorem rulesetId_of_recordRequest {ticket : Ticket} {rulesetId : String}
    (hrecord : s.recordRequest rulesetId = (ticket, s')) : ticket.rulesetId = rulesetId := by
  cases hrecord
  rfl

/-- A request and its announcement together tell what is asked for. -/
theorem tells_request (ticket : Ticket) (saved : Except Failure Unit) :
    ∃ es, Tells s [] es
      ((s.move (.request ticket.rulesetId)).move (.announce ticket saved)) := by
  cases saved with
  | ok => exact ⟨_, .single rfl rfl nofun⟩
  | error failure =>
    have hfailed : Tells s [] [.preferenceSaveFailed failure.chain]
        (s.publish (.preferenceSaveFailed failure.chain)) := .single rfl rfl nofun
    exact ⟨_, hfailed.trans (.single rfl rfl nofun)⟩

/-- Every other move tells what it changes. -/
theorem tells_move {m : Move} (hm : m.IsLone) : ∃ es, Tells s (s.taken m) es (s.move m) := by
  cases m with
  | request | announce => exact hm.elim
  | apply ticket response reason => exact s.tells_apply ticket response reason
  | advance | issue => exact ⟨_, .silent rfl rfl⟩
  | receive groups =>
    obtain ⟨catalog, issue, hreceive⟩ := s.exists_move_receive groups
    obtain ⟨es, hadopt⟩ := s.tells_adopt catalog issue
    rw [hreceive]
    split
    · exact ⟨_, hadopt.trans (.silent rfl rfl)⟩
    · obtain ⟨es', hdrawn⟩ := (s.adopt catalog issue).tells_recompute .catalogChanged
      exact ⟨_, hadopt.trans hdrawn⟩
  | select id =>
    simp only [move, selectNode]
    split
    · exact ⟨_, .single rfl rfl fun hcleared => by cases hcleared⟩
    · exact ⟨_, .silent rfl rfl⟩
  | clear =>
    simp only [move, clearSelection]
    split
    · next hselected => exact ⟨_, .single rfl rfl fun _ => by rw [hselected]; rfl⟩
    · exact ⟨_, .silent rfl rfl⟩
  | next =>
    have hpending := s.nextEvent_append_pending
    exact ⟨[], by rwa [List.append_nil], rfl, .nil⟩
  | drain =>
    have hpending := s.drainEvents_append_pending
    exact ⟨[], by rwa [List.append_nil], rfl, .nil⟩

/-- As long as requests are announced at once, all that is changed is told. -/
theorem tells_follow {ms : List Move} (hms : Undisturbed ms) :
    ∃ es, Tells s (s.told ms) es (s.follow ms) := by
  induction hms generalizing s with
  | nil => exact ⟨_, .silent rfl rfl⟩
  | request ticket saved _ ih =>
    obtain ⟨es, hrequest⟩ := s.tells_request ticket saved
    obtain ⟨es', hrest⟩ := ih _
    exact ⟨_, hrequest.trans hrest⟩
  | @lone m ms hm _ ih =>
    obtain ⟨es, hmove⟩ := s.tells_move hm
    obtain ⟨es', hrest⟩ := ih (s.move m)
    exact ⟨_, hmove.trans hrest⟩

/-- A listener who has heard the events `log` knows the session. -/
structure Mirrors (log : List Event) (s : Session) : Prop where
  replica_eq : .ofEvents log = s.replica
  admits : Replica.Admits {} log

end Session

namespace Traces

open Session

variable {σ α : Type} {op : Operation σ α} {w : World σ} {ms : List Move}
  {config : LayoutConfig Single}

theorem undisturbed (H : Traces (· = []) op w ms) : Undisturbed ms := by
  induction H with
  | look | outside => exact .nil
  | bind _ _ ihx ihf => exact ihx.append ihf
  | selectNode | clearSelection | nextEvent | drainEvents | apply | advance | issue =>
    exact .lone trivial .nil
  | beginRequest c hrecord _ hstore =>
    obtain rfl := rulesetId_of_recordRequest _ hrecord
    obtain rfl := hstore
    exact .request _ _ .nil
  | refreshGroups _ _ _ _ _ ih => exact .lone trivial (ih.append (.lone trivial .nil))
  | refreshAll _ _ _ _ _ _ _ ih ih' =>
    exact .lone trivial (ih.append (.lone trivial (ih'.append (.lone trivial .nil))))

/-- **Events mirror the session.** Whatever operations are run on a new session, and however they
overlap, if the store of preferences does nothing to the session then all events that were taken,
in the order in which they were, and those that are pending tell what the session is at the end and
at each moment before, except between a request and its announcement. -/
theorem mirrors_of_start {s : Session} {outside : σ} (H : Traces (· = []) op ⟨s, outside⟩ ms)
    (hstart : Session.start config = .ok s) :
    (op.after ⟨s, outside⟩).session = s.follow ms ∧ Announced ms ∧
      ∀ ms', ms' <+: ms → Announced ms' →
        Mirrors (s.told ms' ++ (s.follow ms').events.pending) (s.follow ms') := by
  refine ⟨H.session_after, H.undisturbed.announced, fun ms' hpre hannounced => ?_⟩
  obtain ⟨es, htells⟩ := s.tells_follow (H.undisturbed.of_isPrefix hpre hannounced)
  cases eq_of_start hstart
  rw [htells.pending_eq]
  exact ⟨htells.replica_eq.symm, htells.admits⟩

/-- The store fails. While the groups are fetched, a ruleset and one of its nodes are selected, and
an event is taken; while the ruleset is fetched again, another one is asked for. -/
theorem mirrors_of_nested :
    let steady : Collaborators Unit := .constant (.ok ⟨"a", "", [⟨"Net", "", [], {}⟩]⟩) (.ok [])
    let inner : Collaborators Unit := { steady with
      saveLastRuleset := fun _ => pure (.error ⟨"disk full", []⟩) }
    let outer : Collaborators Unit := { inner with
      fetchGroups := inner.selectRuleset "a" >>= fun _ => onSession (·.selectNode "Net") >>= fun _ =>
        onSession (·.nextEvent) >>= fun _ => inner.fetchGroups
      fetchRuleset := fun _ => inner.beginRequest "b" >>= fun _ => inner.fetchRuleset "a" }
    let op := outer.resume >>= fun _ => onSession (·.drainEvents)
    let s : Session := { config := .default }
    ∃ ms, (op.after ⟨s, ()⟩).session = s.follow ms ∧ Announced ms ∧
      ∀ ms', ms' <+: ms → Announced ms' →
        Mirrors (s.told ms' ++ (s.follow ms').events.pending) (s.follow ms') := by
  intro steady inner outer op s
  have hstart : Session.start .default = .ok s := by rfl
  have hsteady : steady.Traced (· = []) := .constant (by rfl) _ _
  have hinner : inner.Traced (· = []) := { hsteady with
    saveLastRuleset := fun _ _ => ⟨_, .look _, rfl⟩ }
  have houter : outer.Traced (· = []) := { hinner with
    fetchGroups := fun w => by
      obtain ⟨ms, hselect⟩ := hinner.selectRuleset "a" w
      exact ⟨_, hselect.bind ((Traces.selectNode "Net").bind (Traces.nextEvent.bind (.look _)))⟩
    fetchRuleset := fun _ w => by
      obtain ⟨ms, hbegin⟩ := hinner.beginRequest "b" w
      exact ⟨_, hbegin.bind (.look _)⟩ }
  obtain ⟨ms, hresume⟩ := houter.resume ⟨s, ()⟩
  have H : Traces (· = []) op ⟨s, ()⟩ _ := hresume.bind .drainEvents
  exact ⟨_, H.mirrors_of_start hstart⟩

end Traces
end RulePyramid
