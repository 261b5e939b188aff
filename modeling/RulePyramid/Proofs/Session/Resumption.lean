import RulePyramid.Proofs.Session.Refreshes
import RulePyramid.Proofs.Store.Preferences

/-!
A session takes up where the one before it left off. As long as operations do not overlap and what
is to be saved is saved, the store gives the ruleset that was asked for last (`Completes.keeps`).
What is seen of a session after a refresh depends on this ruleset and on the answers to the refresh
(`Sources.outlook_refreshCatalog`), and so does what is seen of a new session when it has resumed
(`Sources.resume_of_last`). So the two look the same if they get the same answers
(`Completes.outlook_resume_eq`).
-/

namespace RulePyramid

open Operation

/-! ## What is seen of a session -/

/-- What is seen of a session, apart from the selected node and the events. -/
structure Outlook where
  requested : Option String
  ruleset : Option Ruleset
  catalog : Catalog
  issue : Option Catalog.Issue
  view : View Single

/-- What the groups and a ruleset make of a session when both have been fetched. -/
def Outlook.fetched (config : LayoutConfig Single) (rulesetId : String)
    (groups : Except Failure (List Group)) (response : Except Failure Ruleset) : Outlook :=
  let (catalog, issue) := Catalog.resolve (groups.mapError (·.message))
  let ruleset := response.toOption
  { requested := some rulesetId, ruleset, catalog, issue
    view := componentsGraph ((ruleset.map (·.rules)).getD []) catalog config }

namespace Session

variable (s : Session)

def outlook : Outlook := ⟨s.requested, s.ruleset, s.catalog, s.issue, s.view⟩

theorem outlook_eq : s.outlook =
    ⟨s.data.requested, s.data.ruleset, s.resolution.1, s.resolution.2, s.data.view⟩ := rfl

theorem config_apply (ticket : Ticket) (response : Except Failure Ruleset)
    (reason : RecomputeReason) : (s.apply ticket response reason).2.config = s.config :=
  (congrArg Data.config (s.data_apply ticket response reason)).trans (Data.apply_config ..)

theorem requested_apply (ticket : Ticket) (response : Except Failure Ruleset)
    (reason : RecomputeReason) : (s.apply ticket response reason).2.requested = s.requested :=
  (congrArg Data.requested (s.data_apply ticket response reason)).trans (Data.apply_requested ..)

/-- Until another number is given out, the ticket of a request is the current one. -/
theorem isCurrent_announceRequest (rulesetId : String) (saved : Except Failure Unit) :
    let (ticket, s') := s.recordRequest rulesetId
    (s'.announceRequest ticket saved).tracker.isCurrent ticket := by
  cases saved <;> exact decide_eq_true rfl

theorem apply_ne_superseded {s : Session} {ticket : Ticket} (hcurrent : s.tracker.isCurrent ticket)
    (response : Except Failure Ruleset) (reason : RecomputeReason) :
    (s.apply ticket response reason).1 ≠ .superseded := by
  unfold apply
  rw [if_pos hcurrent]
  cases response <;> nofun

theorem outlook_apply {s : Session} {ticket : Ticket} {rulesetId : String}
    {groups : Except Failure (List Group)} (hcurrent : s.tracker.isCurrent ticket)
    (hrequested : s.requested = some rulesetId)
    (hresolution : s.resolution = Catalog.resolve (groups.mapError (·.message)))
    (response : Except Failure Ruleset) (reason : RecomputeReason) :
    (s.apply ticket response reason).2.outlook =
      .fetched s.config rulesetId groups response := by
  have hdata : (s.apply ticket response reason).2.data =
      { s.data with ruleset := response.toOption }.redraw :=
    (s.data_apply ticket response reason).trans (if_pos hcurrent)
  have hsame : (s.apply ticket response reason).2.resolution = s.resolution :=
    s.resolution_apply ticket response reason
  have hseen : (s.apply ticket response reason).2.outlook =
      ⟨s.requested, response.toOption, s.resolution.1, s.resolution.2,
        componentsGraph ((response.toOption.map (·.rules)).getD []) s.resolution.1 s.config⟩ := by
    rw [outlook_eq, hdata, hsame]
    rfl
  rw [hseen, hrequested, Outlook.fetched, ← hresolution]

end Session

/-! ## Sources and a store -/

/-- Where rulesets and groups come from. A source may look at everything around the session, but it
changes only what is its own. -/
structure Sources (σ τ : Type) where
  ruleset : String → σ × τ → Except Failure Ruleset × σ
  groups : σ × τ → Except Failure (List Group) × σ

namespace Sources

variable {σ τ : Type} (sources : Sources σ τ) (store : PreferenceStore τ)

/-- Sources and a store as what a session works with. None of them touches the session. -/
def collaborators : Collaborators (σ × τ) where
  fetchRuleset rulesetId := onOutside fun x =>
    let (response, own) := sources.ruleset rulesetId x
    (response, own, x.2)
  fetchGroups := onOutside fun x =>
    let (groups, own) := sources.groups x
    (groups, own, x.2)
  lastRuleset := onOutside fun x => (store.last x.2, x)
  saveLastRuleset rulesetId := onOutside fun x =>
    let (saved, t) := store.save rulesetId x.2
    (saved, x.1, t)

/-- How the groups are answered, and then a ruleset for which `t` is in the store. -/
def answers (rulesetId : String) (x : σ × τ) (t : τ) :
    Except Failure (List Group) × Except Failure Ruleset :=
  let (groups, own) := sources.groups x
  (groups, (sources.ruleset rulesetId (own, t)).1)

variable (w : World (σ × τ))

/-- A refresh while no ruleset was asked for. -/
theorem after_refreshCatalog_of_none {catalog : Catalog} {issue : Option Catalog.Issue}
    (hnone : w.session.requested = none)
    (hresolve : Catalog.resolve ((sources.groups w.outside).1.mapError (·.message)) =
      (catalog, issue)) :
    (sources.collaborators store).refreshCatalog.after w =
      ⟨(w.session.startRefresh.2.adopt catalog issue).recompute .catalogChanged,
        (sources.groups w.outside).2, w.outside.2⟩ := by
  have hreceive := w.session.startRefresh.2.receiveGroups_eq hresolve
  rw [show w.session.startRefresh.2.requested = none from hnone] at hreceive
  exact Collaborators.after_refreshCatalog_of_none rfl rfl hreceive

/-- A refresh that fetches the ruleset again. -/
theorem after_refreshCatalog_of_some {rulesetId : String} {catalog : Catalog}
    {issue : Option Catalog.Issue} (hsome : w.session.requested = some rulesetId)
    (hresolve : Catalog.resolve ((sources.groups w.outside).1.mapError (·.message)) =
      (catalog, issue)) :
    (sources.collaborators store).refreshCatalog.after w =
      let (ticket, s) := (w.session.startRefresh.2.adopt catalog issue).issueTicket rulesetId
      let (response, own) := sources.ruleset rulesetId ((sources.groups w.outside).2, w.outside.2)
      ⟨(s.apply ticket response .catalogChanged).2, own, w.outside.2⟩ := by
  have hreceive := w.session.startRefresh.2.receiveGroups_eq hresolve
  rw [show w.session.startRefresh.2.requested = some rulesetId from hsome] at hreceive
  exact Collaborators.after_refreshCatalog_of_some rfl rfl hreceive rfl

/-! ## What is seen after a refresh, and what when a session has resumed -/

theorem outlook_refreshCatalog {rulesetId : String} (hsome : w.session.requested = some rulesetId) :
    ((sources.collaborators store).refreshCatalog.after w).session.outlook =
      let answers := sources.answers rulesetId w.outside w.outside.2
      .fetched w.session.config rulesetId answers.1 answers.2 := by
  rcases hresolve : Catalog.resolve ((sources.groups w.outside).1.mapError (·.message)) with
    ⟨catalog, issue⟩
  have hdata := w.session.startRefresh.2.data_adopt catalog issue
  let s := ((w.session.startRefresh.2.adopt catalog issue).issueTicket rulesetId).2
  have hrequested : s.requested = some rulesetId :=
    (congrArg Session.Data.requested hdata).trans hsome
  have hconfig : s.config = w.session.config := congrArg Session.Data.config hdata
  rw [sources.after_refreshCatalog_of_some store w hsome hresolve, ← hconfig]
  exact Session.outlook_apply (decide_eq_true rfl) hrequested hresolve.symm _ _

theorem outlook_selectRuleset (rulesetId : String) {groups : Except Failure (List Group)}
    (hresolution : w.session.resolution = Catalog.resolve (groups.mapError (·.message))) :
    (((sources.collaborators store).selectRuleset rulesetId).after w).session.outlook =
      .fetched w.session.config rulesetId groups
        (sources.ruleset rulesetId (w.outside.1, (store.save rulesetId w.outside.2).2)).1 := by
  let ticket := (w.session.recordRequest rulesetId).1
  let saved := (store.save rulesetId w.outside.2).1
  let s := (w.session.recordRequest rulesetId).2.announceRequest ticket saved
  have hdata : s.data = (w.session.recordRequest rulesetId).2.data :=
    Session.data_announceRequest ..
  have hrequested : s.requested = some rulesetId := congrArg Session.Data.requested hdata
  have hconfig : s.config = w.session.config := congrArg Session.Data.config hdata
  have hsame : s.resolution = w.session.resolution :=
    Session.resolution_announceRequest ..
  rw [← hconfig]
  exact Session.outlook_apply (w.session.isCurrent_announceRequest ..) hrequested
    (hsame.trans hresolution) _ _

theorem restoreLastSelection_eq {rulesetId : String}
    (hlast : store.last w.outside.2 = .ok (some rulesetId)) :
    (sources.collaborators store).restoreLastSelection w =
      let (outcome, w') := (sources.collaborators store).selectRuleset rulesetId w
      (.ok (some outcome), w') := by
  rw [Collaborators.restoreLastSelection]
  simp only [bind, StateT.bind, collaborators, onOutside, hlast]
  rfl

/-- A session that has not asked for a ruleset yet resumes with the one that is remembered. -/
theorem resume_of_last {rulesetId : String} (hnone : w.session.requested = none)
    (hlast : store.last w.outside.2 = .ok (some rulesetId)) :
    (∃ outcome, outcome ≠ .superseded ∧
        (sources.collaborators store).resume.value w = .ok (some outcome)) ∧
      ((sources.collaborators store).resume.after w).session.outlook =
        let answers := sources.answers rulesetId w.outside (store.save rulesetId w.outside.2).2
        .fetched w.session.config rulesetId answers.1 answers.2 := by
  rcases hresolve : Catalog.resolve ((sources.groups w.outside).1.mapError (·.message)) with
    ⟨catalog, issue⟩
  have hrefresh := sources.after_refreshCatalog_of_none store w hnone hresolve
  let s := (w.session.startRefresh.2.adopt catalog issue).recompute .catalogChanged
  let w₁ : World (σ × τ) := ⟨s, (sources.groups w.outside).2, w.outside.2⟩
  have hdata : s.data = { w.session.startRefresh.2.data with catalog }.redraw := by
    rw [Session.data_recompute, Session.data_adopt]
  have hconfig : s.config = w.session.config := congrArg Session.Data.config hdata
  have hresolution : s.resolution = Catalog.resolve ((sources.groups w.outside).1.mapError _) :=
    (Session.resolution_recompute ..).trans hresolve.symm
  have hresume : (sources.collaborators store).resume w =
      (sources.collaborators store).restoreLastSelection w₁ :=
    congrArg (sources.collaborators store).restoreLastSelection hrefresh
  rw [sources.restoreLastSelection_eq store w₁ hlast] at hresume
  constructor
  · refine ⟨((sources.collaborators store).selectRuleset rulesetId).value w₁, ?_,
      congrArg Prod.fst hresume⟩
    exact Session.apply_ne_superseded (s.isCurrent_announceRequest ..) _ _
  · rw [← hconfig, Operation.after, hresume]
    exact sources.outlook_selectRuleset store w₁ rulesetId hresolution

/-- A refresh leaves the settings, the ruleset that was asked for and the store as they are. -/
theorem kept_refreshCatalog :
    let w' := (sources.collaborators store).refreshCatalog.after w
    w'.session.config = w.session.config ∧ w'.session.requested = w.session.requested ∧
      w'.outside.2 = w.outside.2 := by
  rcases hresolve : Catalog.resolve ((sources.groups w.outside).1.mapError (·.message)) with
    ⟨catalog, issue⟩
  let s := w.session.startRefresh.2.adopt catalog issue
  have hadopt : s.data = { w.session.startRefresh.2.data with catalog } := Session.data_adopt ..
  cases hrequested : w.session.requested with
  | none =>
    rw [sources.after_refreshCatalog_of_none store w hrequested hresolve]
    have hdata : (s.recompute .catalogChanged).data = _ := Session.data_recompute ..
    rw [hadopt] at hdata
    exact ⟨congrArg Session.Data.config hdata,
      (congrArg Session.Data.requested hdata).trans hrequested, rfl⟩
  | some rulesetId =>
    rw [sources.after_refreshCatalog_of_some store w hrequested hresolve]
    exact ⟨(Session.config_apply ..).trans (congrArg Session.Data.config hadopt),
      (Session.requested_apply ..).trans
        ((congrArg Session.Data.requested hadopt).trans hrequested), rfl⟩

end Sources

/-! ## Sessions in which nothing overlaps -/

/-- Run from the world `w`, an operation is put together from such as end before the next one
begins. What is to be saved is saved, and what goes on around the session leaves alone what the
store gives.
Selecting, restoring and resuming are put together from the operations listed here
(`Completes.selectRuleset`, `Completes.restoreLastSelection`, `Completes.resume`). -/
inductive Completes {σ τ : Type} (sources : Sources σ τ) (store : PreferenceStore τ) :
    {α : Type} → (op : Operation (σ × τ) α) → (w : World (σ × τ)) → Prop where
  /-- Looking at the session and at what is around it. -/
  | look {α : Type} (f : World (σ × τ) → α) : Completes sources store (fun w => (f w, w)) w
  | outside {α : Type} (f : σ × τ → α × (σ × τ))
      (hkept : store.last (f w.outside).2.2 = store.last w.outside.2) :
      Completes sources store (onOutside f) w
  | bind {α β : Type} {x : Operation (σ × τ) α} {f : α → Operation (σ × τ) β}
      (hx : Completes sources store x w)
      (hf : Completes sources store (f (x.value w)) (x.after w)) :
      Completes sources store (x >>= f) w
  | selectNode (id : String) : Completes sources store (onSession (·.selectNode id)) w
  | clearSelection : Completes sources store (onSession fun s => ((), s.clearSelection)) w
  | nextEvent : Completes sources store (onSession (·.nextEvent)) w
  | drainEvents : Completes sources store (onSession (·.drainEvents)) w
  | apply (ticket : Ticket) (response : Except Failure Ruleset) :
      Completes sources store (onSession (·.apply ticket response .rulesetChanged)) w
  /-- The tracker is used without the session. -/
  | advance : Completes sources store (onSession (·.startRefresh)) w
  | issue (rulesetId : String) : Completes sources store (onSession (·.issueTicket rulesetId)) w
  | beginRequest (rulesetId : String)
      (hsaved : (store.save rulesetId w.outside.2).1 = .ok ()) :
      Completes sources store ((sources.collaborators store).beginRequest rulesetId) w
  | refreshCatalog : Completes sources store (sources.collaborators store).refreshCatalog w

/-- The ruleset that was asked for last is the one that the store gives. -/
structure Remembered {σ τ : Type} (config : LayoutConfig Single) (store : PreferenceStore τ)
    (w : World (σ × τ)) : Prop where
  config_eq : w.session.config = config
  last_eq : ∀ rulesetId, w.session.requested = some rulesetId →
    store.last w.outside.2 = .ok (some rulesetId)

namespace Remembered

variable {σ τ : Type} {config : LayoutConfig Single} {store : PreferenceStore τ}
  {w w' : World (σ × τ)}

theorem of_eq (H : Remembered config store w) (hconfig : w'.session.config = w.session.config)
    (hrequested : w'.session.requested = w.session.requested)
    (hlast : store.last w'.outside.2 = store.last w.outside.2) : Remembered config store w' where
  config_eq := hconfig.trans H.config_eq
  last_eq rulesetId hsome := hlast.trans (H.last_eq rulesetId (hrequested.symm.trans hsome))

theorem of_data_eq (H : Remembered config store w) {s : Session} (hdata : s.data = w.session.data) :
    Remembered config store { w with session := s } :=
  H.of_eq (congrArg Session.Data.config hdata) (congrArg Session.Data.requested hdata) rfl

theorem beginRequest (H : Remembered config store w) (sources : Sources σ τ)
    (hstore : store.Remembers) {rulesetId : String}
    (hsaved : (store.save rulesetId w.outside.2).1 = .ok ()) :
    Remembered config store (((sources.collaborators store).beginRequest rulesetId).after w) := by
  have hdata : (((sources.collaborators store).beginRequest rulesetId).after w).session.data =
      (w.session.recordRequest rulesetId).2.data := Session.data_announceRequest ..
  refine ⟨(congrArg Session.Data.config hdata).trans H.config_eq, fun rulesetId' hsome => ?_⟩
  have hrequested : some rulesetId = some rulesetId' :=
    (congrArg Session.Data.requested hdata).symm.trans hsome
  rw [← hrequested]
  exact hstore rulesetId w.outside.2 hsaved

end Remembered

namespace Completes

variable {σ σ' τ α : Type} {sources : Sources σ τ} {store : PreferenceStore τ}
  {op : Operation (σ × τ) α} {w : World (σ × τ)} {config : LayoutConfig Single}

theorem keeps (H : Completes sources store op w) (hstore : store.Remembers)
    (hw : Remembered config store w) : Remembered config store (op.after w) := by
  induction H with
  | look => exact hw
  | outside f hkept => exact hw.of_eq rfl rfl hkept
  | bind _ _ ihx ihf => exact ihf (ihx hw)
  | selectNode id => exact hw.of_data_eq (Session.data_selectNode ..)
  | clearSelection => exact hw.of_data_eq (Session.data_clearSelection ..)
  | nextEvent | drainEvents | advance | issue => exact hw.of_eq rfl rfl rfl
  | apply => exact hw.of_eq (Session.config_apply ..) (Session.requested_apply ..) rfl
  | beginRequest rulesetId hsaved => exact hw.beginRequest sources hstore hsaved
  | refreshCatalog =>
    obtain ⟨hconfig, hrequested, hsame⟩ := sources.kept_refreshCatalog store _
    exact hw.of_eq hconfig hrequested (congrArg store.last hsame)

/-! ## Operations that are put together from others -/

theorem fetchRuleset (rulesetId : String) :
    Completes sources store ((sources.collaborators store).fetchRuleset rulesetId) w := by
  dsimp only [Sources.collaborators]
  exact outside _ rfl

theorem lastRuleset : Completes sources store (sources.collaborators store).lastRuleset w := by
  dsimp only [Sources.collaborators]
  exact outside _ rfl

theorem selectRuleset {rulesetId : String}
    (hsaved : (store.save rulesetId w.outside.2).1 = .ok ()) :
    Completes sources store ((sources.collaborators store).selectRuleset rulesetId) w :=
  (beginRequest rulesetId hsaved).bind ((fetchRuleset rulesetId).bind (apply _ _))

theorem restoreLastSelection
    (hsaved : ∀ rulesetId, store.last w.outside.2 = .ok (some rulesetId) →
      (store.save rulesetId w.outside.2).1 = .ok ()) :
    Completes sources store (sources.collaborators store).restoreLastSelection w := by
  refine lastRuleset.bind ?_
  split
  · exact .look _
  · exact .look _
  · next rulesetId hlast => exact (selectRuleset (hsaved rulesetId hlast)).bind (.look _)

theorem resume
    (hsaved : ∀ rulesetId, store.last w.outside.2 = .ok (some rulesetId) →
      (store.save rulesetId w.outside.2).1 = .ok ()) :
    Completes sources store (sources.collaborators store).resume w := by
  have hsame := (sources.kept_refreshCatalog store w).2.2
  have hrestore : Completes sources store (sources.collaborators store).restoreLastSelection
      ((sources.collaborators store).refreshCatalog.after w) :=
    restoreLastSelection (by rw [hsame]; exact hsaved)
  exact refreshCatalog.bind hrestore

/-- **A new session takes up where the last one left off.** A session runs complete operations, the
last of which is a refresh, on any sources and with any of the stores. Another one that starts with
the same settings and finds in the store what the first one left there looks the same when it has
resumed, if the groups and the ruleset are answered as they were to that refresh. -/
theorem outlook_resume_eq {s : Session} {x : σ × τ} {rulesetId : String} {w₁ : World (σ × τ)}
    (H : Completes sources store op ⟨s, x⟩) (hstore : store.Standard)
    (hstart : Session.start config = .ok s) (hw : op.after ⟨s, x⟩ = w)
    (hrequested : w.session.requested = some rulesetId)
    (hw₁ : (sources.collaborators store).refreshCatalog.after w = w₁)
    (sources' : Sources σ' τ) {own : σ'} {t : τ} (hkept : store.last t = store.last w₁.outside.2)
    (hanswers : sources'.answers rulesetId (own, t) (store.save rulesetId t).2 =
      sources.answers rulesetId w.outside w.outside.2) :
    let resume := (sources'.collaborators store).resume
    (∃ outcome, outcome ≠ .superseded ∧ resume.value ⟨s, own, t⟩ = .ok (some outcome)) ∧
      (resume.after ⟨s, own, t⟩).session.outlook = w₁.session.outlook := by
  cases Session.eq_of_start hstart
  have hremembered : Remembered config store w :=
    hw ▸ H.keeps hstore.remembers ⟨rfl, nofun⟩
  have hlast : store.last t = .ok (some rulesetId) := by
    rw [hkept, ← hw₁, (sources.kept_refreshCatalog store w).2.2]
    exact hremembered.last_eq rulesetId hrequested
  obtain ⟨hvalue, houtlook⟩ := sources'.resume_of_last store ⟨{ config }, own, t⟩ rfl hlast
  refine ⟨hvalue, houtlook.trans ?_⟩
  rw [hanswers, ← hw₁, sources.outlook_refreshCatalog store w hrequested, hremembered.config_eq]

/-- The first session resumes with a ruleset that cannot be fetched while there are no groups, and
then another ruleset is asked for. Its sources answer by the number of answers that they have given,
those of the second session always in the same way. -/
theorem outlook_resume_eq_of_changed_sources :
    let ruleset : Ruleset := ⟨"b", "", [⟨"Net", "Gross - Tax", [], {}⟩]⟩
    let groups : List Group := [⟨"total", "Totals", "purple", 1⟩]
    let sources : Sources Nat Preferences := {
      ruleset := fun _ x => (if x.1 < 3 then .error ⟨"missing", []⟩ else .ok ruleset, x.1 + 1)
      groups := fun x => (if x.1 = 0 then .error ⟨"down", []⟩ else .ok groups, x.1 + 1) }
    let sources' : Sources Unit Preferences := {
      ruleset := fun _ _ => (.ok ruleset, ())
      groups := fun _ => (.ok groups, ()) }
    let store := PreferenceStore.memory
    let c := sources.collaborators store
    let op := c.resume >>= fun _ => c.beginRequest "b"
    let s : Session := { config := .default }
    let x : Nat × Preferences := (0, { lastRuleset := some "a" })
    let w := op.after ⟨s, x⟩
    let w₁ := c.refreshCatalog.after w
    let t := w₁.outside.2
    let resume := (sources'.collaborators store).resume
    Session.start .default = .ok s ∧ Completes sources store op ⟨s, x⟩ ∧
      w.session.requested = some "b" ∧
      sources'.answers "b" ((), t) (store.save "b" t).2 =
        sources.answers "b" w.outside w.outside.2 ∧
      (∃ outcome, outcome ≠ .superseded ∧ resume.value ⟨s, (), t⟩ = .ok (some outcome)) ∧
      (resume.after ⟨s, (), t⟩).session.outlook = w₁.session.outlook := by
  intro ruleset groups sources sources' store c op s x w w₁ t resume
  have hstart : Session.start .default = .ok s := by rfl
  have H : Completes sources store op ⟨s, x⟩ :=
    (Completes.resume fun _ _ => rfl).bind (.beginRequest "b" rfl)
  have hrequested : w.session.requested = some "b" := by rfl
  have hanswers : sources'.answers "b" ((), t) (store.save "b" t).2 =
      sources.answers "b" w.outside w.outside.2 := by rfl
  have hw : op.after ⟨s, x⟩ = w := rfl
  have hw₁ : c.refreshCatalog.after w = w₁ := rfl
  have hkept : store.last t = store.last w₁.outside.2 := rfl
  have hresume := H.outlook_resume_eq .memory hstart hw hrequested hw₁ sources' hkept hanswers
  exact ⟨hstart, H, hrequested, hanswers, hresume⟩

end Completes
end RulePyramid
