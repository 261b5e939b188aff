import RulePyramid.Session.Basic

/-!
The operations of a session. They put the steps of a session together with calls to the sources
of rulesets and groups and to the store of preferences. Any of these may itself work on the
session before it answers, so that operations overlap.
-/

namespace RulePyramid

/-- A session and what is around it. -/
structure World (σ : Type) where
  session : Session
  outside : σ

abbrev Operation (σ : Type) := StateM (World σ)

/-- The parties that a session works with. -/
structure Collaborators (σ : Type) where
  fetchRuleset : String → Operation σ (Except Failure Ruleset)
  fetchGroups : Operation σ (Except Failure (List Group))
  lastRuleset : Operation σ (Except Failure (Option String))
  saveLastRuleset : String → Operation σ (Except Failure Unit)

namespace Operation

variable {σ α : Type}

/-- A step of the session alone. -/
def onSession (f : Session → α × Session) : Operation σ α := fun w =>
  let (a, session) := f w.session
  (a, { w with session })

/-- A step of what is around the session. -/
def onOutside (f : σ → α × σ) : Operation σ α := fun w =>
  let (a, outside) := f w.outside
  (a, { w with outside })

end Operation

namespace Collaborators

open Operation

variable {σ : Type} (c : Collaborators σ)

/-- Asks for a ruleset: responses to earlier requests will not count any more. -/
def beginRequest (rulesetId : String) : Operation σ Ticket := do
  let ticket ← onSession (·.recordRequest rulesetId)
  let saved ← c.saveLastRuleset rulesetId
  onSession fun s => ((), s.announceRequest ticket saved)
  return ticket

/-- Asks for a ruleset, fetches it and hands it in. -/
def selectRuleset (rulesetId : String) : Operation σ Outcome := do
  let ticket ← c.beginRequest rulesetId
  let response ← c.fetchRuleset rulesetId
  onSession (·.apply ticket response .rulesetChanged)

/-- Selects the ruleset that is remembered, if there is one. -/
def restoreLastSelection : Operation σ (Except Failure (Option Outcome)) := do
  match ← c.lastRuleset with
  | .error failure => return .error failure
  | .ok none => return .ok none
  | .ok (some rulesetId) => return .ok (some (← c.selectRuleset rulesetId))

/-- Fetches the groups anew, and then the ruleset that was asked for last. -/
def refreshCatalog : Operation σ (Option Catalog.Issue) := do
  let _ ← onSession (·.startRefresh)
  let response ← c.fetchGroups
  let (issue, ticket?) ← onSession fun s =>
    let (issue, ticket?, s) := s.receiveGroups response
    ((issue, ticket?), s)
  if let some ticket := ticket? then
    let response ← c.fetchRuleset ticket.rulesetId
    let _ ← onSession (·.apply ticket response .catalogChanged)
  return issue

/-- Fetches the groups and then selects the ruleset that is remembered. -/
def resume : Operation σ (Except Failure (Option Outcome)) := do
  let _ ← c.refreshCatalog
  c.restoreLastSelection

end Collaborators

end RulePyramid
