import Mathlib.Data.List.Induction
import RulePyramid.Proofs.Session.Moves
import RulePyramid.Proofs.Store.Preferences

/-!
Requests that interleave. Noting the ruleset that is asked for and saving it in the store are two
steps of a request (`RequestStep.after_beginRequest`), and those of other ones may come between them
(`RequestStep.Interleaves`). What was asked for is told by the last step of the first kind, and what
is remembered by the last step of the second kind (`RequestStep.remembered_after`). These two may be
of different requests (`RequestStep.not_remembers_requested`).
-/

namespace RulePyramid

open Operation

/-- A step of one of `n` requests. -/
inductive RequestStep (n : Nat) where
  /-- The ruleset is noted and a ticket is issued for it. -/
  | record (request : Fin n)
  | save (request : Fin n)
  deriving DecidableEq

namespace RequestStep

def request {n : Nat} : RequestStep n → Fin n
  | .record i | .save i => i

def recorded? {n : Nat} : RequestStep n → Option (Fin n)
  | .record i => some i
  | .save _ => none

def saved? {n : Nat} : RequestStep n → Option (Fin n)
  | .record _ => none
  | .save i => some i

/-- Every request takes its two steps in order, whatever comes between them. -/
def Interleaves {n : Nat} (steps : List (RequestStep n)) : Prop :=
  ∀ i, steps.filter (·.request = i) = [.record i, .save i]

instance {n : Nat} (steps : List (RequestStep n)) : Decidable (Interleaves steps) :=
  inferInstanceAs (Decidable (∀ i, steps.filter (·.request = i) = [.record i, .save i]))

variable {n : Nat} {τ : Type} (store : PreferenceStore τ) (ids : Fin n → String) (w : World τ)

/-- What a step does when the requests are for the rulesets `ids`. -/
def run : RequestStep n → World τ
  | .record i => { w with session := (w.session.recordRequest (ids i)).2 }
  | .save i => { w with outside := (store.save (ids i) w.outside).2 }

/-- What some steps do, one after the other. -/
def runAll (steps : List (RequestStep n)) : World τ := steps.foldl (run store ids) w

theorem runAll_concat (steps : List (RequestStep n)) (step : RequestStep n) :
    runAll store ids w (steps ++ [step]) = run store ids (runAll store ids w steps) step :=
  List.foldl_concat ..

/-- A request is made up of its two steps and of the events that tell of it. -/
theorem after_beginRequest (c : Collaborators τ)
    (hsave : ∀ id, c.saveLastRuleset id = onOutside (store.save id)) (i : Fin n) :
    (c.beginRequest (ids i)).after w =
      let w' := runAll store ids w [.record i, .save i]
      let ticket := (w.session.recordRequest (ids i)).1
      let saved := (store.save (ids i) w.outside).1
      { w' with session := w'.session.announceRequest ticket saved } := by
  rw [Operation.after, Collaborators.beginRequest, hsave]
  rfl

/-! ## What is left when all steps are made -/

/-- The ruleset of the request that was noted last is the one asked for. -/
theorem requested_runAll (steps : List (RequestStep n)) :
    (runAll store ids w steps).session.requested =
      ((steps.filterMap recorded?).getLast?.map ids).or w.session.requested := by
  induction steps using List.reverseRecOn with
  | nil => rfl
  | append_singleton steps step ih =>
    rw [runAll_concat]
    cases step with
    | record i => simp [recorded?, run, Session.recordRequest, Session.issueTicket]
    | save i => simpa [recorded?, run] using ih

/-- Along the steps, what is to be saved is saved. -/
def Saves (steps : List (RequestStep n)) : Prop :=
  ∀ before i after, steps = before ++ .save i :: after →
    (store.save (ids i) (runAll store ids w before).outside).1 = .ok ()

variable {store ids w} {steps : List (RequestStep n)}

theorem Saves.left {steps' : List (RequestStep n)} (H : Saves store ids w (steps ++ steps')) :
    Saves store ids w steps :=
  fun before i after heq => H before i (after ++ steps') (by rw [heq, List.append_assoc]; rfl)

/-- The ruleset of the request that was saved last is remembered. -/
theorem Saves.last_runAll (H : Saves store ids w steps) (hstore : store.Remembers) {j : Fin n}
    (hj : (steps.filterMap saved?).getLast? = some j) :
    store.last (runAll store ids w steps).outside = .ok (some (ids j)) := by
  induction steps using List.reverseRecOn with
  | nil => cases hj
  | append_singleton steps step ih =>
    rw [runAll_concat]
    cases step with
    | record i => exact ih H.left (by simpa [saved?] using hj)
    | save i =>
      obtain rfl : i = j := by simpa [saved?] using hj
      exact hstore _ _ (H steps i [] rfl)

theorem Interleaves.record_mem (H : Interleaves steps) (i : Fin n) :
    .record i ∈ steps :=
  (List.mem_filter.mp (by rw [H i]; exact .head _)).1

theorem Interleaves.save_mem (H : Interleaves steps) (i : Fin n) :
    .save i ∈ steps :=
  (List.mem_filter.mp (by rw [H i]; exact .tail _ (.head _))).1

private theorem exists_getLast?_filterMap {α β : Type} {f : α → Option β} {as : List α} {a : α}
    {b : β} (hmem : a ∈ as) (hf : f a = some b) : ∃ b', (as.filterMap f).getLast? = some b' := by
  have hmem' : b ∈ as.filterMap f := List.mem_filterMap.mpr ⟨a, hmem, hf⟩
  exact ⟨_, List.getLast?_eq_some_getLast (List.ne_nil_of_mem hmem')⟩

/-- **The last save is remembered.** However the steps of some requests interleave, the ruleset
asked for is that of the request `i` that was noted last, and the one remembered is that of the
request `j` that was saved last. So these agree just if the two requests are for one ruleset. -/
theorem remembered_after (H : Interleaves steps) (hn : 0 < n) (hstore : store.Standard)
    (hsaves : Saves store ids w steps) :
    ∃ i j, (steps.filterMap recorded?).getLast? = some i ∧
      (steps.filterMap saved?).getLast? = some j ∧
      let w' := runAll store ids w steps
      w'.session.requested = some (ids i) ∧ store.last w'.outside = .ok (some (ids j)) ∧
        (store.last w'.outside = .ok w'.session.requested ↔ ids j = ids i) := by
  obtain ⟨i, hi⟩ := exists_getLast?_filterMap (H.record_mem ⟨0, hn⟩) (f := recorded?) rfl
  obtain ⟨j, hj⟩ := exists_getLast?_filterMap (H.save_mem ⟨0, hn⟩) (f := saved?) rfl
  have hrequested : (runAll store ids w steps).session.requested = some (ids i) := by
    rw [requested_runAll, hi]
    rfl
  have hlast := hsaves.last_runAll hstore.remembers hj
  refine ⟨i, j, hi, hj, hrequested, hlast, ?_⟩
  rw [hlast, hrequested, Except.ok.injEq, Option.some.injEq]

/-- The steps of the second request come between those of the first. -/
theorem remembered_after_of_enclosed :
    let steps : List (RequestStep 2) := [.record 0, .record 1, .save 1, .save 0]
    let ids : Fin 2 → String := fun i => if i = 0 then "a" else "b"
    let store := PreferenceStore.memory
    let w : World Preferences := ⟨{ config := .default }, {}⟩
    Interleaves steps ∧ 0 < 2 ∧ store.Standard ∧ Saves store ids w steps ∧
      ∃ i j, (steps.filterMap recorded?).getLast? = some i ∧
        (steps.filterMap saved?).getLast? = some j ∧
        let w' := runAll store ids w steps
        w'.session.requested = some (ids i) ∧ store.last w'.outside = .ok (some (ids j)) ∧
          (store.last w'.outside = .ok w'.session.requested ↔ ids j = ids i) := by
  intro steps ids store w
  have H : Interleaves steps := by decide
  have hsaves : Saves store ids w steps := fun _ _ _ _ => rfl
  exact ⟨H, by decide, .memory, hsaves, remembered_after H (by decide) .memory hsaves⟩

/-- The ruleset asked for last is not remembered when an earlier request is saved after it. -/
theorem not_remembers_requested :
    ¬ ∀ (n : Nat) (ids : Fin n → String) (steps : List (RequestStep n)) (w : World Preferences),
      Interleaves steps → 0 < n →
        let w' := runAll .memory ids w steps
        PreferenceStore.memory.last w'.outside = .ok w'.session.requested := by
  intro hclaim
  let steps : List (RequestStep 2) := [.record 0, .record 1, .save 1, .save 0]
  let ids : Fin 2 → String := fun i => if i = 0 then "a" else "b"
  have hlast := hclaim 2 ids steps ⟨{ config := .default }, {}⟩ (by decide) (by decide)
  revert hlast
  decide

end RequestStep
end RulePyramid
