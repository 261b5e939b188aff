import RulePyramid.Proofs.Session.Moves

/-!
Refreshes that overlap. Every refresh takes a number when it starts, but the number is not looked at
when the groups come: each response takes the place of the one before, whichever refresh it is for
(`Refreshes.resolution_after`). So the catalog in use is that of the refresh that was answered last
(`Refreshes.last_answer_wins`), and this need not be the one that was started last
(`Refreshes.not_newest_wins`).
-/

namespace RulePyramid

open Operation

/-! ## Refreshes -/

/-- A refresh that has had its answer. -/
structure Refresh where
  /-- What it took when it started. -/
  number : UInt64
  groups : Except Failure (List Group)

/-- The catalog that the answer to a refresh makes. -/
def Refresh.resolution (r : Refresh) : Catalog × Option Catalog.Issue :=
  Catalog.resolve (r.groups.mapError (·.message))

/-- Run from the world `w`, an operation runs refreshes, and those in `rs` have had their answers,
in this order. -/
inductive Refreshes {σ : Type} : {α : Type} → (op : Operation σ α) → (w : World σ) →
    (rs : List Refresh) → Prop where
  /-- An operation that takes no groups in. -/
  | other {α : Type} {op : Operation σ α} {store : List Move → Prop} (H : Traces store op w ms)
      (hms : ∀ groups, .receive groups ∉ ms) : Refreshes op w []
  | bind {α β : Type} {x : Operation σ α} {f : α → Operation σ β} (hx : Refreshes x w rs)
      (hf : Refreshes (f (x.value w)) (x.after w) rs') : Refreshes (x >>= f) w (rs ++ rs')
  /-- A refresh while no ruleset was asked for. -/
  | refreshGroups (c : Collaborators σ)
      (hstart : w.session.startRefresh = (number, s))
      (hfetch : Refreshes c.fetchGroups { w with session := s } rs)
      (hgroups : c.fetchGroups { w with session := s } = (groups, w₁))
      (hreceive : w₁.session.receiveGroups groups = (issue, none, s₁)) :
      Refreshes c.refreshCatalog w (rs ++ [⟨number, groups⟩])
  /-- A refresh that fetches the ruleset again. -/
  | refreshAll (c : Collaborators σ)
      (hstart : w.session.startRefresh = (number, s))
      (hfetch : Refreshes c.fetchGroups { w with session := s } rs)
      (hgroups : c.fetchGroups { w with session := s } = (groups, w₁))
      (hreceive : w₁.session.receiveGroups groups = (issue, some ticket, s₁))
      (hrefetch : Refreshes (c.fetchRuleset ticket.rulesetId) { w₁ with session := s₁ } rs')
      (hruleset : c.fetchRuleset ticket.rulesetId { w₁ with session := s₁ } = (response, w₂)) :
      Refreshes c.refreshCatalog w (rs ++ ⟨number, groups⟩ :: rs')

namespace Refreshes

open Session

variable {σ α : Type} {op : Operation σ α} {w : World σ} {rs : List Refresh}
  {config : LayoutConfig Single}

/-- Each answer takes the place of what was there before. -/
theorem resolution_after (H : Refreshes op w rs) : (op.after w).session.resolution =
    rs.foldl (fun _ r => r.resolution) w.session.resolution := by
  induction H with
  | other H hms => rw [H.session_after, resolution_follow _ hms, List.foldl_nil]
  | bind _ _ ihx ihf => rw [List.foldl_append, ← ihx, ← ihf]; rfl
  | refreshGroups c hstart _ hgroups hreceive =>
    rw [Collaborators.after_refreshCatalog_of_none hstart hgroups hreceive, List.foldl_append]
    exact resolution_of_receiveGroups hreceive
  | refreshAll c hstart _ hgroups hreceive _ hruleset _ ih =>
    rw [Operation.after, hruleset, resolution_of_receiveGroups hreceive] at ih
    rw [Collaborators.after_refreshCatalog_of_some hstart hgroups hreceive hruleset,
      List.foldl_append]
    exact (resolution_apply ..).trans ih

/-- **The last answer wins.** Whatever operations are run on a new session, and however its
refreshes overlap, the catalog in use is the one that the response received last makes, whichever
refresh it was for. -/
theorem last_answer_wins {s : Session} {outside : σ} (H : Refreshes op ⟨s, outside⟩ rs)
    (hstart : Session.start config = .ok s) : (op.after ⟨s, outside⟩).session.resolution =
      match rs.getLast? with
      | some r => r.resolution
      | none => (.fallback, none) := by
  cases eq_of_start hstart
  rw [H.resolution_after]
  rcases rs.eq_nil_or_concat with rfl | ⟨rs, r, rfl⟩
  · rfl
  · rw [List.concat_eq_append, List.foldl_append, List.getLast?_concat]
    rfl

theorem look {β : Type} (f : World σ → β) : Refreshes (fun w => (f w, w)) w [] := by
  have H : Traces (fun _ => True) (fun w : World σ => (f w, w)) w [] := .look f
  exact .other H nofun

/-- A refresh after which the ruleset is fetched without another one. -/
theorem refreshCatalog (c : Collaborators σ)
    (hfetch : Refreshes c.fetchGroups { w with session := w.session.startRefresh.2 } rs)
    (hrefetch : ∀ rulesetId w, Refreshes (c.fetchRuleset rulesetId) w []) :
    Refreshes c.refreshCatalog w (rs ++ [⟨w.session.tracker.latest + 1,
      c.fetchGroups.value { w with session := w.session.startRefresh.2 }⟩]) := by
  rcases hgroups : c.fetchGroups { w with session := w.session.startRefresh.2 } with ⟨groups, w₁⟩
  have hvalue : c.fetchGroups.value { w with session := w.session.startRefresh.2 } = groups :=
    congrArg Prod.fst hgroups
  rw [hvalue]
  rcases hreceive : w₁.session.receiveGroups groups with ⟨issue, _ | ticket, s⟩
  · exact .refreshGroups c rfl hfetch hgroups hreceive
  · exact .refreshAll c rfl hfetch hgroups hreceive (hrefetch _ _) rfl

/-- While the groups are fetched for a refresh, another one is started and answered. Then the
ruleset is fetched again for either. -/
theorem last_answer_wins_of_nested :
    let late : Except Failure (List Group) := .ok [{ groupName := "late" }]
    let inner : Collaborators Unit := .constant (.error ⟨"missing", []⟩) (.error ⟨"down", []⟩)
    let outer : Collaborators Unit := { inner with
      fetchGroups := inner.refreshCatalog >>= fun _ => pure late }
    let op := inner.beginRequest "a" >>= fun _ => outer.refreshCatalog
    let s : Session := { config := .default }
    let rs : List Refresh := [⟨3, .error ⟨"down", []⟩⟩, ⟨2, late⟩]
    Refreshes op ⟨s, ()⟩ rs ∧ (op.after ⟨s, ()⟩).session.resolution =
      match rs.getLast? with
      | some r => r.resolution
      | none => (.fallback, none) := by
  intro late inner outer op s rs
  have hstart : Session.start .default = .ok s := by rfl
  have hrequest : Traces (fun _ => True) (inner.beginRequest "a") ⟨s, ()⟩ _ :=
    .beginRequest inner rfl (.look _) trivial rfl
  have hbegin : Refreshes (inner.beginRequest "a") ⟨s, ()⟩ [] := .other hrequest nofun
  have hgroups : ∀ w, Refreshes outer.fetchGroups w
      [⟨w.session.tracker.latest + 1, .error ⟨"down", []⟩⟩] :=
    fun w => (refreshCatalog inner (.look _) fun _ _ => .look _).bind (.look _)
  have H : Refreshes op ⟨s, ()⟩ rs :=
    hbegin.bind (refreshCatalog outer (hgroups _) fun _ _ => .look _)
  exact ⟨H, H.last_answer_wins hstart⟩

/-- The refresh that was started last does not win when an older one is answered after it. -/
theorem not_newest_wins :
    ¬ ∀ (op : Operation Unit (Option Catalog.Issue)) (s : Session) (rs : List Refresh),
      Session.start .default = .ok s → Refreshes op ⟨s, ()⟩ rs →
      ∀ r ∈ rs, (∀ r' ∈ rs, r'.number ≤ r.number) →
        (op.after ⟨s, ()⟩).session.resolution = r.resolution := by
  let old : Except Failure (List Group) := .ok [{ groupName := "old" }]
  let new : Except Failure (List Group) := .ok [{ groupName := "new" }]
  let inner : Collaborators Unit := .constant (.error ⟨"missing", []⟩) new
  let outer : Collaborators Unit := { inner with
    fetchGroups := inner.refreshCatalog >>= fun _ => pure old }
  let s : Session := { config := .default }
  have hgroups : Refreshes outer.fetchGroups ⟨s.startRefresh.2, ()⟩ [⟨2, new⟩] :=
    (refreshCatalog inner (.look _) fun _ _ => .look _).bind (.look _)
  have H : Refreshes outer.refreshCatalog ⟨s, ()⟩ ([⟨2, new⟩] ++ [⟨1, old⟩]) :=
    refreshCatalog outer hgroups fun _ _ => .look _
  intro hclaim
  have hnew := hclaim outer.refreshCatalog s _ (by rfl) H ⟨2, new⟩ (.head _) (by decide)
  rw [H.resolution_after] at hnew
  revert hnew
  decide

end Refreshes
end RulePyramid
