import RulePyramid.Session.Operations

/-!
Runs of session operations. While an operation asks a collaborator, that one may run operations
itself, to any depth, and so may the ones that they ask (`Runs`). A run leaves a history of the
numbers that were given out and of the responses that were handed in, in the order in which this
happened.
-/

namespace RulePyramid

/-- What a run does with the numbers of requests. -/
inductive Deed where
  /-- A refresh took a number and issued no ticket for it. -/
  | refreshed
  | issued (ticket : Ticket)
  /-- A response was handed in, whether or not it counted. -/
  | answered (ticket : Ticket) (response : Except Failure Ruleset)

/-- The deeds of a run, the latest first. -/
abbrev History := List Deed

namespace History

def newest? : History → Option Ticket
  | [] => none
  | .issued ticket :: _ => some ticket
  | .refreshed :: h | .answered .. :: h => newest? h

/-- The response that was handed in last with the newest ticket. Tickets are told by number. -/
def answer? : History → Option (Except Failure Ruleset)
  | [] | .issued _ :: _ => none
  | .refreshed :: h => answer? h
  | .answered ticket response :: h =>
    if (newest? h).map (·.number) = some ticket.number then some response else answer? h

/-- How many numbers were given out. -/
def numbers : History → Nat
  | [] => 0
  | .answered .. :: h => numbers h
  | .refreshed :: h | .issued _ :: h => numbers h + 1

/-- Every ticket has the number that was due when it was issued. -/
def InSequence (h : History) : Prop :=
  ∀ ticket h', .issued ticket :: h' <:+ h → ticket.number = .ofNat (numbers h' + 1)

variable {h h' : History} {ticket ticket' : Ticket}

theorem newest?_eq_none_iff : newest? h = none ↔ ∀ ticket, .issued ticket ∉ h := by
  induction h with
  | nil => simp [newest?]
  | cons deed h ih =>
    cases deed with
    | issued ticket =>
      simp only [newest?, reduceCtorEq, false_iff, Classical.not_forall]
      exact ⟨ticket, fun hnot => hnot List.mem_cons_self⟩
    | refreshed | answered => simp [newest?, ih]

/-- Every ticket but the newest one was issued before that. -/
theorem exists_of_newest? (hnewest : newest? h = some ticket) :
    ∃ h', (.issued ticket :: h') <:+ h ∧
      ∀ ticket', .issued ticket' ∈ h → ticket' = ticket ∨ .issued ticket' ∈ h' := by
  induction h with
  | nil => nomatch hnewest
  | cons deed h ih =>
    cases deed with
    | issued ticket' =>
      cases hnewest
      exact ⟨h, List.suffix_rfl, fun ticket' hmem => by simpa using hmem⟩
    | refreshed | answered =>
      obtain ⟨h', hsuffix, hmem⟩ := ih hnewest
      refine ⟨h', hsuffix.trans (List.suffix_cons ..), fun ticket' hissued => hmem ticket' ?_⟩
      simpa using hissued

theorem answer?_eq_none (hnewest : newest? h = none) : answer? h = none := by
  induction h with
  | nil => rfl
  | cons deed h ih =>
    cases deed with
    | issued => rfl
    | refreshed => exact ih hnewest
    | answered ticket response =>
      have hnone : newest? h = none := hnewest
      rw [answer?, hnone, if_neg nofun, ih hnone]

theorem numbers_le_of_suffix (hsuffix : h' <:+ h) : numbers h' ≤ numbers h := by
  induction h with
  | nil =>
    cases List.suffix_nil.mp hsuffix
    exact Nat.le_refl _
  | cons deed h ih =>
    rcases List.suffix_cons_iff.mp hsuffix with rfl | hsuffix
    · exact Nat.le_refl _
    · have hle := ih hsuffix
      cases deed with
      | refreshed | issued => exact Nat.le_succ_of_le hle
      | answered => exact hle

namespace InSequence

theorem cons {deed : Deed} (H : InSequence h)
    (hdue : ∀ ticket, deed = .issued ticket → ticket.number = .ofNat (numbers h + 1)) :
    InSequence (deed :: h) := by
  intro ticket h' hsuffix
  rcases List.suffix_cons_iff.mp hsuffix with heq | hsuffix
  · cases heq
    exact hdue ticket rfl
  · exact H ticket h' hsuffix

/-- As long as the numbers do not start again, no ticket has the number of the newest one. -/
theorem eq_of_number_eq (H : InSequence h) (hnumbers : numbers h < UInt64.size)
    (hnewest : newest? h = some ticket) (hissued : .issued ticket' ∈ h)
    (hnumber : ticket'.number = ticket.number) : ticket' = ticket := by
  obtain ⟨h₁, hsuffix, hmem⟩ := exists_of_newest? hnewest
  refine (hmem ticket' hissued).resolve_right fun hissued => ?_
  obtain ⟨later, h₂, rfl⟩ := List.append_of_mem hissued
  have hsuffix' : .issued ticket' :: h₂ <:+ later ++ .issued ticket' :: h₂ := List.suffix_append ..
  have hle : numbers h₂ + 1 ≤ numbers (later ++ .issued ticket' :: h₂) :=
    numbers_le_of_suffix hsuffix'
  have hle' : numbers (later ++ .issued ticket' :: h₂) + 1 ≤ numbers h :=
    numbers_le_of_suffix hsuffix
  rw [H ticket _ hsuffix, H ticket' _ (hsuffix'.trans ((List.suffix_cons ..).trans hsuffix))]
    at hnumber
  have htoNat := congrArg UInt64.toNat hnumber
  rw [UInt64.toNat_ofNat_of_lt' (by omega), UInt64.toNat_ofNat_of_lt' (by omega)] at htoNat
  omega

end InSequence

end History

/-! ## Runs -/

namespace Operation

variable {σ α : Type}

/-- What an operation gives. -/
def value (op : Operation σ α) (w : World σ) : α := (show α × World σ from op w).1

/-- The world that an operation leaves. -/
def after (op : Operation σ α) (w : World σ) : World σ := (show α × World σ from op w).2

end Operation

open Operation

/-- Collaborators that answer at once and always the same. -/
def Collaborators.constant {σ : Type} (ruleset : Except Failure Ruleset)
    (groups : Except Failure (List Group)) : Collaborators σ where
  fetchRuleset _ := pure ruleset
  fetchGroups := pure groups
  lastRuleset := pure (.ok none)
  saveLastRuleset _ := pure (.ok ())

/-- Run from the world `w`, an operation touches the session by nothing but operations of sessions,
and the history of these goes on from `h` to `h'`. Only tickets that were issued are handed in.
Selecting, restoring and resuming are put together from the operations listed here
(`Runs.selectRuleset`, `Runs.restoreLastSelection`, `Runs.resume`). -/
inductive Runs {σ : Type} : {α : Type} → (op : Operation σ α) → (w : World σ) → (h h' : History) →
    Prop where
  /-- Looking at the session and at what is around it. -/
  | look {α : Type} (f : World σ → α) : Runs (fun w => (f w, w)) w h h
  | outside {α : Type} (f : σ → α × σ) : Runs (onOutside f) w h h
  | bind {α β : Type} {x : Operation σ α} {f : α → Operation σ β} (hx : Runs x w h h₁)
      (hf : Runs (f (x.value w)) (x.after w) h₁ h₂) : Runs (x >>= f) w h h₂
  | selectNode (id : String) : Runs (onSession (·.selectNode id)) w h h
  | clearSelection : Runs (onSession fun s => ((), s.clearSelection)) w h h
  | drainEvents : Runs (onSession (·.drainEvents)) w h h
  | apply (response : Except Failure Ruleset) (hissued : .issued ticket ∈ h) :
      Runs (onSession (·.apply ticket response .rulesetChanged)) w h
        (.answered ticket response :: h)
  | beginRequest (c : Collaborators σ)
      (hrecord : w.session.recordRequest rulesetId = (ticket, s))
      (hsave : Runs (c.saveLastRuleset rulesetId) { w with session := s }
        (.issued ticket :: h) h') :
      Runs (c.beginRequest rulesetId) w h h'
  /-- A refresh while no ruleset was asked for. -/
  | refreshGroups (c : Collaborators σ)
      (hstart : w.session.startRefresh = (number, s))
      (hfetch : Runs c.fetchGroups { w with session := s } (.refreshed :: h) h₁)
      (hgroups : c.fetchGroups { w with session := s } = (groups, w₁))
      (hreceive : w₁.session.receiveGroups groups = (issue, none, s₁)) :
      Runs c.refreshCatalog w h h₁
  /-- A refresh that fetches the ruleset again. -/
  | refreshAll (c : Collaborators σ)
      (hstart : w.session.startRefresh = (number, s))
      (hfetch : Runs c.fetchGroups { w with session := s } (.refreshed :: h) h₁)
      (hgroups : c.fetchGroups { w with session := s } = (groups, w₁))
      (hreceive : w₁.session.receiveGroups groups = (issue, some ticket, s₁))
      (hrefetch : Runs (c.fetchRuleset ticket.rulesetId) { w₁ with session := s₁ }
        (.issued ticket :: h₁) h₂)
      (hruleset : c.fetchRuleset ticket.rulesetId { w₁ with session := s₁ } = (response, w₂)) :
      Runs c.refreshCatalog w h (.answered ticket response :: h₂)

namespace Runs

variable {σ α : Type} {op : Operation σ α} {w : World σ} {h h' : History}

/-- A run forgets nothing. -/
theorem suffix (H : Runs op w h h') : h <:+ h' := by
  induction H with
  | look | outside | selectNode | clearSelection | drainEvents => exact List.suffix_rfl
  | bind _ _ ihx ihf => exact ihx.trans ihf
  | apply => exact List.suffix_cons ..
  | beginRequest _ _ _ ih => exact (List.suffix_cons ..).trans ih
  | refreshGroups _ _ _ _ _ ih => exact (List.suffix_cons ..).trans ih
  | refreshAll _ _ _ _ _ _ _ ih ih' =>
    exact (List.suffix_cons ..).trans <| ih.trans <| (List.suffix_cons ..).trans <|
      ih'.trans (List.suffix_cons ..)

/-! ## Operations that are put together from others -/

variable {c : Collaborators σ} {rulesetId : String} {ticket : Ticket} {s : Session}
  {response : Except Failure Ruleset}

theorem selectRuleset (hrecord : w.session.recordRequest rulesetId = (ticket, s))
    (hsave : Runs (c.saveLastRuleset rulesetId) { w with session := s } (.issued ticket :: h) h₁)
    (hfetch : Runs (c.fetchRuleset rulesetId) ((c.beginRequest rulesetId).after w) h₁ h₂)
    (hruleset : (c.fetchRuleset rulesetId).value ((c.beginRequest rulesetId).after w) = response) :
    Runs (c.selectRuleset rulesetId) w h (.answered ticket response :: h₂) := by
  have hticket : (c.beginRequest rulesetId).value w = ticket := congrArg Prod.fst hrecord
  have hissued : .issued ticket ∈ h₂ :=
    hfetch.suffix.mem (hsave.suffix.mem List.mem_cons_self)
  refine (Runs.beginRequest c hrecord hsave).bind (hfetch.bind ?_)
  rw [hticket, hruleset]
  exact .apply response hissued

theorem restoreLastSelection (hlast : Runs c.lastRuleset w h h₁)
    (hsome : c.lastRuleset.value w = .ok (some rulesetId))
    (hselect : Runs (c.selectRuleset rulesetId) (c.lastRuleset.after w) h₁ h₂) :
    Runs c.restoreLastSelection w h h₂ := by
  refine hlast.bind ?_
  rw [hsome]
  exact hselect.bind (.look _)

/-- Nothing is remembered, or it cannot be read. -/
theorem restoreLastSelection_of_ne (hlast : Runs c.lastRuleset w h h₁)
    (hne : ∀ rulesetId, c.lastRuleset.value w ≠ .ok (some rulesetId)) :
    Runs c.restoreLastSelection w h h₁ := by
  refine hlast.bind ?_
  split
  · exact .look _
  · exact .look _
  · next rulesetId hsome => exact (hne rulesetId hsome).elim

theorem resume (hrefresh : Runs c.refreshCatalog w h h₁)
    (hrestore : Runs c.restoreLastSelection (c.refreshCatalog.after w) h₁ h₂) :
    Runs c.resume w h h₂ :=
  hrefresh.bind hrestore

end Runs

end RulePyramid
