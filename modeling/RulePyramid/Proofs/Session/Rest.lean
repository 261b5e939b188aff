import RulePyramid.Proofs.Session.Runs
import RulePyramid.Proofs.View.Determinism

/-!
What a session is at rest. While a refresh waits for the groups, the number that it took makes every
ticket stale, and nothing is said of the view (`Session.Busy`). When the groups are there, a new
ticket is issued or the view is drawn anew; then the newest ticket is the current one, and ruleset
and view are those of its response, if there is one (`Session.Rest`). Every complete operation keeps
either of the two (`Runs.keeps`), so at rest the session is what the newest ticket made it
(`Runs.consistent_of_start`).
-/

namespace RulePyramid

open History Operation

namespace Session

/-! ## What the steps of a session change -/

/-- What a session holds, without graph, selection, events and the reason for the fallback. -/
structure Data where
  config : LayoutConfig Single
  tracker : Tracker
  requested : Option String
  ruleset : Option Ruleset
  catalog : Catalog
  view : View Single

def data (s : Session) : Data :=
  ⟨s.config, s.tracker, s.requested, s.ruleset, s.catalog, s.view⟩

namespace Data

variable (d : Data)

def rules : List Rule := (d.ruleset.map (·.rules)).getD []

/-- Draws the view anew. -/
def redraw : Data := { d with view := componentsGraph d.rules d.catalog d.config }

def advance : Data := { d with tracker := d.tracker.advance.2 }

/-- Hands in a response, if its ticket is current. -/
def apply (ticket : Ticket) (response : Except Failure Ruleset) : Data :=
  if d.tracker.isCurrent ticket then { d with ruleset := response.toOption }.redraw else d

variable (ticket : Ticket) (response : Except Failure Ruleset)

@[simp] theorem apply_config : (d.apply ticket response).config = d.config := by
  unfold apply
  split <;> rfl

@[simp] theorem apply_tracker : (d.apply ticket response).tracker = d.tracker := by
  unfold apply
  split <;> rfl

@[simp] theorem apply_requested : (d.apply ticket response).requested = d.requested := by
  unfold apply
  split <;> rfl

end Data

variable (s : Session)

@[simp] theorem data_dropSelection (g : RuleGraph) : (s.dropSelection g).data = s.data := by
  unfold dropSelection
  split
  · split <;> rfl
  · rfl

theorem data_drawn (g : RuleGraph) (view : View Single) :
    { s.dropSelection g with graph := g, view }.data = { s.data with view } :=
  congrArg (fun d : Data => { d with view }) (s.data_dropSelection g)

@[simp] theorem data_recompute (reason : RecomputeReason) :
    (s.recompute reason).data = s.data.redraw := by
  unfold recompute
  refine (data_drawn ..).trans ?_
  split <;> rfl

@[simp] theorem data_apply (ticket : Ticket) (response : Except Failure Ruleset)
    (reason : RecomputeReason) :
    (s.apply ticket response reason).2.data = s.data.apply ticket response := by
  unfold apply Data.apply
  change _ = if s.tracker.isCurrent ticket then _ else _
  split
  · cases response with
    | ok ruleset => exact data_recompute ..
    | error failure => exact data_recompute ..
  · rfl

@[simp] theorem data_announceRequest (ticket : Ticket) (saved : Except Failure Unit) :
    (s.announceRequest ticket saved).data = s.data := by
  cases saved <;> rfl

/-- When the groups come, a catalog takes the place of the one in use. Then a ticket is issued for
the ruleset that was asked for, or the view is drawn anew if none was. -/
theorem exists_receiveGroups (groups : Except Failure (List Group)) :
    ∃ (catalog : Catalog) (issue : Option Catalog.Issue) (s' : Session),
      s'.data = { s.data with catalog } ∧
      s.receiveGroups groups = match s.requested with
        | some rulesetId =>
          (issue, some (s'.issueTicket rulesetId).1, (s'.issueTicket rulesetId).2)
        | none => (issue, none, s'.recompute .catalogChanged) := by
  rcases hresolve : Catalog.resolve (groups.mapError (·.message)) with ⟨catalog, issue⟩
  unfold receiveGroups
  rw [hresolve]
  cases issue with
  | none => exact ⟨catalog, none, _, rfl, rfl⟩
  | some issue => exact ⟨catalog, some issue, _, rfl, rfl⟩

@[simp] theorem data_selectNode (id : String) : (s.selectNode id).2.data = s.data := by
  unfold selectNode
  split <;> rfl

@[simp] theorem data_clearSelection : s.clearSelection.data = s.data := by
  unfold clearSelection
  split <;> rfl

/-! ## Invariants -/

/-- What holds at any time: the ruleset asked for is that of the newest ticket, none is in use
before a ticket is issued, and numbers are given out one by one. -/
structure Busy (config : LayoutConfig Single) (d : Data) (h : History) : Prop where
  config_eq : d.config = config
  requested_eq : d.requested = (newest? h).map (·.rulesetId)
  ruleset_eq_none : newest? h = none → d.ruleset = none
  latest_eq : d.tracker.latest = .ofNat (numbers h)
  inSequence : InSequence h

/-- No refresh waits for groups. -/
structure Rest (config : LayoutConfig Single) (d : Data) (h : History) : Prop
    extends Busy config d h where
  latest_eq_newest : ∀ ticket, newest? h = some ticket → d.tracker.latest = ticket.number
  ruleset_eq : ∀ response, answer? h = some response → d.ruleset = response.toOption
  view_eq : newest? h = none ∨ (answer? h).isSome →
    d.view = componentsGraph d.rules d.catalog d.config

variable {config : LayoutConfig Single} {d : Data} {h : History} {ticket : Ticket}

namespace Busy

/-- A refresh takes a number. -/
theorem advance (H : Busy config d h) : Busy config d.advance (.refreshed :: h) where
  config_eq := H.config_eq
  requested_eq := H.requested_eq
  ruleset_eq_none := H.ruleset_eq_none
  latest_eq := by
    change d.tracker.latest + 1 = _
    rw [H.latest_eq, numbers, UInt64.ofNat_add]
    rfl
  inSequence := H.inSequence.cons nofun

/-- When a ticket is issued, it is the current one, and nothing was handed in with it. -/
theorem issue (H : Busy config d h) (hticket : ticket.number = d.tracker.latest + 1)
    (hrequested : d'.requested = some ticket.rulesetId) (hconfig : d'.config = d.config)
    (htracker : d'.tracker = d.tracker.advance.2) : Rest config d' (.issued ticket :: h) where
  config_eq := hconfig.trans H.config_eq
  requested_eq := hrequested
  ruleset_eq_none := nofun
  latest_eq := by
    rw [htracker]
    exact H.advance.latest_eq
  inSequence := by
    refine H.inSequence.cons fun ticket' hissued => ?_
    cases hissued
    rw [hticket]
    exact H.advance.latest_eq
  latest_eq_newest ticket' hnewest := by
    cases hnewest
    rw [htracker]
    exact hticket.symm
  ruleset_eq := nofun
  view_eq := nofun

/-- If no ruleset was asked for, the session is at rest when the groups have come. -/
theorem redraw (H : Busy config d h) (hrequested : d.requested = none) (catalog : Catalog) :
    Rest config { d with catalog }.redraw h := by
  have hnewest : newest? h = none := by simpa [hrequested] using H.requested_eq.symm
  exact {
    config_eq := H.config_eq
    requested_eq := H.requested_eq
    ruleset_eq_none := H.ruleset_eq_none
    latest_eq := H.latest_eq
    inSequence := H.inSequence
    latest_eq_newest := fun ticket h => by rw [hnewest] at h; cases h
    ruleset_eq := fun response h => by rw [answer?_eq_none hnewest] at h; cases h
    view_eq := fun _ => rfl }

theorem apply (H : Busy config d h) (hissued : .issued ticket ∈ h)
    (response : Except Failure Ruleset) :
    Busy config (d.apply ticket response) (.answered ticket response :: h) where
  config_eq := by rw [Data.apply_config, H.config_eq]
  requested_eq := by rw [Data.apply_requested, H.requested_eq, newest?]
  ruleset_eq_none hnewest := (newest?_eq_none_iff.mp hnewest ticket (.tail _ hissued)).elim
  latest_eq := by rw [Data.apply_tracker, H.latest_eq, numbers]
  inSequence := H.inSequence.cons nofun

end Busy

/-- The step that records a request, from whatever a session is doing. -/
theorem Busy.recordRequest {s s' : Session} (H : Busy config s.data h)
    (hrecord : s.recordRequest rulesetId = (ticket, s')) :
    Rest config s'.data (.issued ticket :: h) := by
  cases hrecord
  exact H.issue rfl rfl rfl rfl

/-- The step that starts a refresh. -/
theorem Busy.startRefresh {s s' : Session} {number : UInt64} (H : Busy config s.data h)
    (hstart : s.startRefresh = (number, s')) : Busy config s'.data (.refreshed :: h) := by
  cases hstart
  exact H.advance

/-- The step that takes the groups in when a ruleset was asked for. -/
theorem Busy.receiveGroups_some {s s' : Session} {issue : Option Catalog.Issue}
    (H : Busy config s.data h)
    (hreceive : s.receiveGroups groups = (issue, some ticket, s')) :
    Rest config s'.data (.issued ticket :: h) := by
  obtain ⟨catalog, issue', t, hdata, heq⟩ := s.exists_receiveGroups groups
  rw [hreceive] at heq
  cases hrequested : s.requested with
  | none => simp [hrequested] at heq
  | some rulesetId =>
    simp only [hrequested, Prod.mk.injEq, Option.some.injEq] at heq
    obtain ⟨-, rfl, rfl⟩ := heq
    have htracker : t.tracker = s.tracker := congrArg Data.tracker hdata
    have hnumber : (t.issueTicket rulesetId).1.number = s.tracker.latest + 1 := by
      rw [← htracker]
      rfl
    have hnext : (t.issueTicket rulesetId).2.data.tracker = s.tracker.advance.2 := by
      rw [← htracker]
      rfl
    have hsame : (t.issueTicket rulesetId).2.data.requested = s.requested :=
      congrArg Data.requested hdata
    have hconfig : (t.issueTicket rulesetId).2.data.config = s.config :=
      congrArg Data.config hdata
    exact H.issue hnumber (hsame.trans hrequested) hconfig hnext

/-- The step that takes the groups in when no ruleset was asked for. -/
theorem Busy.receiveGroups_none {s s' : Session} {issue : Option Catalog.Issue}
    (H : Busy config s.data h)
    (hreceive : s.receiveGroups groups = (issue, none, s')) : Rest config s'.data h := by
  obtain ⟨catalog, issue', t, hdata, heq⟩ := s.exists_receiveGroups groups
  rw [hreceive] at heq
  cases hrequested : s.requested with
  | some rulesetId => simp [hrequested] at heq
  | none =>
    simp only [hrequested, Prod.mk.injEq, true_and] at heq
    rw [heq.2, data_recompute, hdata]
    exact H.redraw hrequested catalog

/-- A response counts at rest if and only if it is handed in with the newest ticket. -/
theorem Rest.apply (H : Rest config d h) (hissued : .issued ticket ∈ h)
    (response : Except Failure Ruleset) :
    Rest config (d.apply ticket response) (.answered ticket response :: h) := by
  have hbusy := H.toBusy.apply hissued response
  obtain ⟨newest, hnewest⟩ : ∃ newest, newest? h = some newest := by
    rw [← Option.ne_none_iff_exists']
    exact fun hnone => newest?_eq_none_iff.mp hnone ticket hissued
  have hlatest := H.latest_eq_newest newest hnewest
  by_cases hcurrent : d.tracker.latest = ticket.number
  · have hanswer : answer? (.answered ticket response :: h) = some response := by
      rw [answer?, hnewest, Option.map_some, ← hlatest, hcurrent, if_pos rfl]
    have happly : d.apply ticket response = { d with ruleset := response.toOption }.redraw :=
      if_pos (decide_eq_true hcurrent)
    refine ⟨hbusy, fun ticket' hticket' => ?_, fun response' hresponse' => ?_, fun _ => ?_⟩
    · rw [Data.apply_tracker]
      exact H.latest_eq_newest ticket' hticket'
    · rw [hanswer] at hresponse'
      cases hresponse'
      rw [happly]
      rfl
    · rw [happly]
      rfl
  · have hanswer : answer? (.answered ticket response :: h) = answer? h := by
      rw [answer?, hnewest, Option.map_some, ← hlatest, if_neg (hcurrent <| Option.some.inj ·)]
    have happly : d.apply ticket response = d := if_neg (hcurrent <| of_decide_eq_true ·)
    rw [happly] at hbusy ⊢
    refine ⟨hbusy, H.latest_eq_newest, fun response' hresponse' => ?_, fun hdrawn => ?_⟩
    · rw [hanswer] at hresponse'
      exact H.ruleset_eq response' hresponse'
    · rw [hanswer] at hdrawn
      exact H.view_eq hdrawn

/-! ## Rest -/

theorem eq_of_start {s : Session} (hstart : Session.start config = .ok s) : s = { config } := by
  unfold start at hstart
  cases hvalid : config.validate with
  | error e => rw [hvalid] at hstart; cases hstart
  | ok => rw [hvalid] at hstart; cases hstart; rfl

theorem rest_start {s : Session} (hstart : Session.start config = .ok s) :
    Rest config s.data [] := by
  have hs := eq_of_start hstart
  subst hs
  exact {
    config_eq := rfl
    requested_eq := rfl
    ruleset_eq_none := fun _ => rfl
    latest_eq := rfl
    inSequence := fun _ _ hsuffix => nomatch List.suffix_nil.mp hsuffix
    latest_eq_newest := nofun
    ruleset_eq := nofun
    view_eq := fun _ => (componentsGraph_nil _ _).symm }

/-- View, ruleset and the ruleset asked for agree with each other and with the newest ticket. -/
structure Consistent (config : LayoutConfig Single) (s : Session) (h : History) : Prop where
  view_eq : s.view = componentsGraph s.rules s.catalog config
  ruleset_eq : s.ruleset = (answer? h).bind (·.toOption)
  requested_eq : s.requested = (newest? h).map (·.rulesetId)
  /-- As long as the numbers do not start again, a number tells the newest ticket. -/
  eq_of_number_eq : numbers h < UInt64.size → ∀ ticket, newest? h = some ticket →
    ∀ ticket', .issued ticket' ∈ h → ticket'.number = ticket.number → ticket' = ticket

theorem Rest.consistent {s : Session} (H : Rest config s.data h)
    (hsettled : newest? h = none ∨ (answer? h).isSome) : s.Consistent config h where
  view_eq := by
    rw [← H.config_eq]
    exact H.view_eq hsettled
  ruleset_eq := by
    cases hanswer : answer? h with
    | some response => exact H.ruleset_eq response hanswer
    | none =>
      rw [hanswer] at hsettled
      exact H.ruleset_eq_none (hsettled.resolve_right nofun)
  requested_eq := H.requested_eq
  eq_of_number_eq hnumbers _ hnewest _ hissued hnumber :=
    H.inSequence.eq_of_number_eq hnumbers hnewest hissued hnumber

end Session

/-! ## Runs -/

theorem Operation.session_after_onSession (f : Session → α × Session) (w : World σ) :
    ((onSession f).after w).session = (f w.session).2 := rfl

namespace Collaborators

variable {σ : Type} {c : Collaborators σ} {w w₁ w₂ : World σ}

theorem after_beginRequest (hrecord : w.session.recordRequest rulesetId = (ticket, s)) :
    ((c.beginRequest rulesetId).after w).session.data =
      ((c.saveLastRuleset rulesetId).after { w with session := s }).session.data := by
  rw [Operation.after, Collaborators.beginRequest]
  simp only [bind, StateT.bind, onSession, hrecord, Operation.after]
  exact Session.data_announceRequest ..

theorem after_refreshCatalog_of_none (hstart : w.session.startRefresh = (number, s))
    (hgroups : c.fetchGroups { w with session := s } = (groups, w₁))
    (hreceive : w₁.session.receiveGroups groups = (issue, none, s₁)) :
    c.refreshCatalog.after w = { w₁ with session := s₁ } := by
  rw [Operation.after, Collaborators.refreshCatalog]
  simp only [bind, StateT.bind, onSession, hstart, hgroups, hreceive]
  rfl

theorem after_refreshCatalog_of_some (hstart : w.session.startRefresh = (number, s))
    (hgroups : c.fetchGroups { w with session := s } = (groups, w₁))
    (hreceive : w₁.session.receiveGroups groups = (issue, some ticket, s₁))
    (hruleset : c.fetchRuleset ticket.rulesetId { w₁ with session := s₁ } = (response, w₂)) :
    c.refreshCatalog.after w =
      { w₂ with session := (w₂.session.apply ticket response .catalogChanged).2 } := by
  rw [Operation.after, Collaborators.refreshCatalog]
  simp only [bind, StateT.bind, onSession, hstart, hgroups, hreceive, hruleset]
  rfl

end Collaborators

namespace Runs

open Session

variable {σ α : Type} {op : Operation σ α} {w : World σ} {config : LayoutConfig Single}
  {h h' : History}

/-- One case for each operation; a collaborator that is asked during a refresh finds the session
busy, and one that is asked during a request finds it at rest. -/
theorem keeps (H : Runs op w h h') :
    (Busy config w.session.data h → Busy config (op.after w).session.data h') ∧
      (Rest config w.session.data h → Rest config (op.after w).session.data h') := by
  induction H with
  | look f => exact ⟨id, id⟩
  | outside f => exact ⟨id, id⟩
  | bind hx hf ihx ihf => exact ⟨ihf.1 ∘ ihx.1, ihf.2 ∘ ihx.2⟩
  | selectNode =>
    rw [session_after_onSession, data_selectNode]
    exact ⟨id, id⟩
  | clearSelection =>
    rw [session_after_onSession, data_clearSelection]
    exact ⟨id, id⟩
  | drainEvents => exact ⟨id, id⟩
  | apply response hissued =>
    rw [session_after_onSession, data_apply]
    exact ⟨fun H => H.apply hissued response, fun H => H.apply hissued response⟩
  | beginRequest c hrecord hsave ih =>
    rw [Collaborators.after_beginRequest hrecord]
    have hrest := fun H => ih.2 (Busy.recordRequest H hrecord)
    exact ⟨fun H => (hrest H).toBusy, fun H => hrest H.toBusy⟩
  | refreshGroups c hstart hfetch hgroups hreceive ih =>
    rw [Collaborators.after_refreshCatalog_of_none hstart hgroups hreceive]
    rw [Operation.after, hgroups] at ih
    have hrest := fun H => (ih.1 (Busy.startRefresh H hstart)).receiveGroups_none hreceive
    exact ⟨fun H => (hrest H).toBusy, fun H => hrest H.toBusy⟩
  | refreshAll c hstart hfetch hgroups hreceive hrefetch hruleset ih ih' =>
    rw [Collaborators.after_refreshCatalog_of_some hstart hgroups hreceive hruleset, data_apply]
    rw [Operation.after, hgroups] at ih
    rw [Operation.after, hruleset] at ih'
    have hissued := hrefetch.suffix.mem List.mem_cons_self
    have hrest := fun H =>
      (ih'.2 ((ih.1 (Busy.startRefresh H hstart)).receiveGroups_some hreceive)).apply hissued
    exact ⟨fun H => (hrest H _).toBusy, fun H => hrest H.toBusy _⟩

/-- **A session at rest is consistent.** Whatever operations were run on a new session, and in
whatever order they overlapped, it is consistent once they have all ended, if the newest ticket has
been answered or there is none. -/
theorem consistent_of_start {s : Session} {outside : σ} (H : Runs op ⟨s, outside⟩ [] h)
    (hstart : Session.start config = .ok s)
    (hsettled : newest? h = none ∨ (answer? h).isSome) :
    (op.after ⟨s, outside⟩).session.Consistent config h :=
  (H.keeps.2 (rest_start hstart)).consistent hsettled

/-- While the groups are fetched anew, another ruleset is asked for, and the response to the first
request comes when the second one has already been issued again. -/
theorem consistent_of_overlap :
    let inner : Collaborators Unit := .constant (.ok ⟨"b", "", [⟨"Net", "", [], {}⟩]⟩) (.ok [])
    let outer : Collaborators Unit := { inner with
      fetchGroups := inner.beginRequest "b" >>= fun _ => inner.fetchGroups
      fetchRuleset := fun id =>
        onSession (·.apply ⟨1, "a"⟩ (.ok ⟨"a", "", []⟩) .rulesetChanged) >>= fun _ =>
          inner.fetchRuleset id }
    let op := inner.beginRequest "a" >>= fun _ => outer.refreshCatalog
    ∃ h, newest? h = some ⟨4, "b"⟩ ∧
      answer? h = some (.ok ⟨"b", "", [⟨"Net", "", [], {}⟩]⟩) ∧
      (op.after ⟨{ config := .default }, ()⟩).session.Consistent .default h := by
  intro inner outer op
  have hstart : Session.start .default = .ok { config := .default } := by rfl
  have hbegin : ∀ id w h, Runs (inner.beginRequest id) w h
      (.issued ⟨w.session.tracker.latest + 1, id⟩ :: h) :=
    fun _ _ _ => .beginRequest inner rfl (.look _)
  have hgroups : ∀ w h, Runs outer.fetchGroups w h
      (.issued ⟨w.session.tracker.latest + 1, "b"⟩ :: h) :=
    fun w h => (hbegin "b" w h).bind (.look _)
  have hruleset : ∀ w h, .issued ⟨1, "a"⟩ ∈ h →
      Runs (outer.fetchRuleset "b") w h (.answered ⟨1, "a"⟩ (.ok ⟨"a", "", []⟩) :: h) :=
    fun w h hissued => (Runs.apply _ hissued).bind (.look _)
  have H : Runs op ⟨{ config := .default }, ()⟩ [] _ :=
    (hbegin "a" _ _).bind (.refreshAll outer rfl (hgroups _ _) rfl rfl
      (hruleset _ _ (.tail _ (.tail _ (.tail _ (.head _))))) rfl)
  exact ⟨_, rfl, by rfl, H.consistent_of_start hstart (.inr rfl)⟩

end Runs
end RulePyramid
