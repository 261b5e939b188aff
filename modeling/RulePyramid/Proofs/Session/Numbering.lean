import RulePyramid.Proofs.Session.Moves

/-!
The numbers of requests along a run. As long as the counter does not start again, every number that
is given out is greater than those before it, and the tracker has the greatest one
(`Session.toNat_numbers`, `Session.Fits.latest_le_follow`). A ticket that is not the latest any more
never is again, so its responses are dropped for ever (`Traces.superseded_of_start`).
-/

namespace RulePyramid

open Operation

namespace Session

variable (s : Session)

/-! ## Numbers, tickets and responses that count -/

/-- The ticket that a move issues, if it issues one. -/
def ticket? : Move → Option Ticket
  | .request rulesetId => some (s.recordRequest rulesetId).1
  | .issue rulesetId => some (s.issueTicket rulesetId).1
  | .receive groups => (s.receiveGroups groups).2.1
  | _ => none

/-- The number that a move gives out, whether or not there is a ticket for it. -/
def number? : Move → Option UInt64
  | .advance => some s.startRefresh.1
  | m => (s.ticket? m).map (·.number)

/-- The number of the response that a move hands in, if the response counts. -/
def counted? : Move → Option UInt64
  | .apply ticket response reason =>
    if (s.apply ticket response reason).1 = .superseded then none else some ticket.number
  | _ => none

/-- What moves give, one after the other. -/
def gather {α : Type} (give : Session → Move → Option α) (s : Session) : List Move → List α
  | [] => []
  | m :: ms => (give s m).toList ++ gather give (s.move m) ms

def tickets (ms : List Move) : List Ticket := gather ticket? s ms

def numbers (ms : List Move) : List UInt64 := gather number? s ms

def counted (ms : List Move) : List UInt64 := gather counted? s ms

theorem gather_append {α : Type} (give : Session → Move → Option α) (ms ms' : List Move) :
    gather give s (ms ++ ms') = gather give s ms ++ gather give (s.follow ms) ms' := by
  induction ms generalizing s with
  | nil => rfl
  | cons m ms ih => rw [List.cons_append, gather, ih, gather, List.append_assoc, follow_cons]

variable {s} in
theorem exists_of_mem_gather {α : Type} {give : Session → Move → Option α} {ms : List Move} {a : α}
    (hmem : a ∈ gather give s ms) :
    ∃ ms₁ m ms₂, ms = ms₁ ++ m :: ms₂ ∧ give (s.follow ms₁) m = some a := by
  induction ms generalizing s with
  | nil => nomatch hmem
  | cons m ms ih =>
    rw [gather, List.mem_append, Option.mem_toList] at hmem
    rcases hmem with hfirst | hlater
    · exact ⟨[], m, ms, rfl, hfirst⟩
    · obtain ⟨ms₁, m', ms₂, rfl, hgive⟩ := ih hlater
      exact ⟨m :: ms₁, m', ms₂, rfl, hgive⟩

/-! ## The counter -/

/-- A move gives out the number that is due, or none. -/
theorem number?_cases (m : Move) :
    (s.number? m = none ∧ (s.move m).tracker = s.tracker) ∨
      (s.number? m = some (s.tracker.latest + 1) ∧
        (s.move m).tracker.latest = s.tracker.latest + 1) := by
  cases m with
  | request | advance | issue => exact .inr ⟨rfl, rfl⟩
  | next | drain => exact .inl ⟨rfl, rfl⟩
  | announce ticket saved =>
    exact .inl ⟨rfl, congrArg Data.tracker (s.data_announceRequest ticket saved)⟩
  | apply ticket response reason =>
    have hdata := congrArg Data.tracker (s.data_apply ticket response reason)
    exact .inl ⟨rfl, hdata.trans (Data.apply_tracker ..)⟩
  | select id => exact .inl ⟨rfl, congrArg Data.tracker (s.data_selectNode id)⟩
  | clear => exact .inl ⟨rfl, congrArg Data.tracker s.data_clearSelection⟩
  | receive groups =>
    obtain ⟨catalog, issue, s', hdata, hreceive⟩ := s.exists_receiveGroups groups
    have htracker : s'.tracker = s.tracker := congrArg Data.tracker hdata
    simp only [number?, ticket?, move, hreceive]
    cases s.requested with
    | some rulesetId =>
      rw [← htracker]
      exact .inr ⟨rfl, rfl⟩
    | none =>
      rw [← htracker]
      exact .inl ⟨rfl, congrArg Data.tracker (s'.data_recompute _)⟩

theorem number?_of_ticket? {m : Move} {ticket : Ticket} (h : s.ticket? m = some ticket) :
    s.number? m = some ticket.number := by
  cases m with
  | advance => cases h
  | _ => exact congrArg (Option.map (·.number)) h

theorem numbers_cons_cases (m : Move) (ms : List Move) :
    (s.numbers (m :: ms) = (s.move m).numbers ms ∧
        (s.move m).tracker.latest = s.tracker.latest) ∨
      (s.numbers (m :: ms) = (s.tracker.latest + 1) :: (s.move m).numbers ms ∧
        (s.move m).tracker.latest = s.tracker.latest + 1) := by
  rcases s.number?_cases m with ⟨hnumber, htracker⟩ | ⟨hnumber, hlatest⟩
  · refine .inl ⟨?_, congrArg Tracker.latest htracker⟩
    rw [numbers, gather, hnumber]
    rfl
  · refine .inr ⟨?_, hlatest⟩
    rw [numbers, gather, hnumber]
    rfl

/-- Along the moves the counter does not start again. -/
def Fits (ms : List Move) : Prop :=
  s.tracker.latest.toNat + (s.numbers ms).length < UInt64.size

theorem toNat_succ {n : UInt64} (hn : n.toNat + 1 < UInt64.size) :
    (n + 1).toNat = n.toNat + 1 := by
  rw [UInt64.toNat_add]
  exact Nat.mod_eq_of_lt hn

/-- The numbers follow each other without a gap, and the last one is the latest afterwards. -/
theorem toNat_numbers {ms : List Move} (H : s.Fits ms) :
    (s.numbers ms).map UInt64.toNat =
        List.range' (s.tracker.latest.toNat + 1) (s.numbers ms).length ∧
      (s.follow ms).tracker.latest.toNat =
        s.tracker.latest.toNat + (s.numbers ms).length := by
  induction ms generalizing s with
  | nil => exact ⟨rfl, rfl⟩
  | cons m ms ih =>
    have hrest := ih (s.move m)
    rw [Fits] at H hrest
    rcases s.numbers_cons_cases m ms with ⟨hnumbers, hlatest⟩ | ⟨hnumbers, hlatest⟩
    · rw [hlatest] at hrest
      rw [hnumbers] at H ⊢
      exact hrest H
    · rw [hnumbers, List.length_cons] at H
      have hnext : (s.tracker.latest + 1).toNat = s.tracker.latest.toNat + 1 :=
        toNat_succ (by omega)
      rw [hlatest, hnext] at hrest
      obtain ⟨hmap, hfollow⟩ := hrest (by omega)
      rw [hnumbers, List.length_cons, List.map_cons, hmap, hnext, follow_cons, hfollow]
      exact ⟨rfl, by omega⟩

namespace Fits

variable {s} {ms ms' : List Move}

theorem left (H : s.Fits (ms ++ ms')) : s.Fits ms := by
  rw [Fits, numbers, gather_append, List.length_append] at H
  exact (Nat.add_le_add_left (Nat.le_add_right ..) _).trans_lt H

theorem right (H : s.Fits (ms ++ ms')) : (s.follow ms).Fits ms' := by
  rw [Fits, (s.toNat_numbers H.left).2]
  rw [Fits, numbers, gather_append, List.length_append, ← Nat.add_assoc] at H
  exact H

theorem of_isPrefix (H : s.Fits ms) (hpre : ms' <+: ms) : s.Fits ms' := by
  obtain ⟨_, rfl⟩ := hpre
  exact H.left

/-- Later numbers are greater. -/
theorem ascending_numbers (H : s.Fits ms) : (s.numbers ms).Pairwise (· < ·) := by
  have hrange : ((s.numbers ms).map UInt64.toNat).Pairwise (· < ·) := by
    rw [(s.toNat_numbers H).1]
    exact List.pairwise_lt_range'
  exact (List.pairwise_map.mp hrange).imp UInt64.lt_iff_toNat_lt.mpr

theorem between_latest {n : UInt64} (H : s.Fits ms) (hmem : n ∈ s.numbers ms) :
    s.tracker.latest < n ∧ n ≤ (s.follow ms).tracker.latest := by
  obtain ⟨hmap, hfollow⟩ := s.toNat_numbers H
  have hrange : n.toNat ∈ (s.numbers ms).map UInt64.toNat := List.mem_map_of_mem hmem
  rw [hmap, List.mem_range'_1] at hrange
  rw [UInt64.lt_iff_toNat_lt, UInt64.le_iff_toNat_le, hfollow]
  omega

theorem latest_le_follow (H : s.Fits ms) : s.tracker.latest ≤ (s.follow ms).tracker.latest := by
  rw [UInt64.le_iff_toNat_le, (s.toNat_numbers H).2]
  exact Nat.le_add_right ..

end Fits

variable {s} {ms ms' : List Move} {ticket : Ticket}

/-! ## Tickets -/

theorem sublist_numbers_of_tickets :
    ((s.tickets ms).map (·.number)).Sublist (s.numbers ms) := by
  induction ms generalizing s with
  | nil => exact .slnil
  | cons m ms ih =>
    rw [tickets, numbers, gather, gather, List.map_append]
    refine List.Sublist.append ?_ ih
    cases hticket : s.ticket? m with
    | none => exact List.nil_sublist _
    | some ticket => rw [s.number?_of_ticket? hticket]; exact .refl _

/-- Tickets that are issued later have greater numbers. -/
theorem Fits.ascending_tickets (H : s.Fits ms) :
    (s.tickets ms).Pairwise (·.number < ·.number) :=
  List.pairwise_map.mp (H.ascending_numbers.sublist sublist_numbers_of_tickets)

/-! ## Responses that do not count -/

/-- The responses to a ticket are dropped. Handing one in leaves session and surroundings as they
are, but for one event that tells of it. -/
structure Superseded (s : Session) (ticket : Ticket) : Prop where
  number_lt : ticket.number < s.tracker.latest
  value_apply : ∀ {σ : Type} (outside : σ) response reason,
    (onSession (·.apply ticket response reason)).value ⟨s, outside⟩ = .superseded
  after_apply : ∀ {σ : Type} (outside : σ) response reason,
    (onSession (·.apply ticket response reason)).after ⟨s, outside⟩ =
      ⟨{ s with events.pending := s.events.pending ++
        [.staleResponseDiscarded ticket.rulesetId ticket.number s.tracker.latest] }, outside⟩

theorem apply_of_number_ne (hne : ticket.number ≠ s.tracker.latest)
    (response : Except Failure Ruleset) (reason : RecomputeReason) :
    s.apply ticket response reason = (.superseded, s.publish
      (.staleResponseDiscarded ticket.rulesetId ticket.number s.tracker.latest)) :=
  if_neg fun hcurrent => hne (of_decide_eq_true hcurrent).symm

theorem superseded_of_lt (hlt : ticket.number < s.tracker.latest) : s.Superseded ticket where
  number_lt := hlt
  value_apply _ response reason :=
    congrArg Prod.fst (apply_of_number_ne (UInt64.ne_of_lt hlt) response reason)
  after_apply outside response reason :=
    congrArg (fun r : Outcome × Session => World.mk r.2 outside)
      (apply_of_number_ne (UInt64.ne_of_lt hlt) response reason)

/-- Once a number has been given out, a ticket that was issued before it is superseded. -/
theorem Fits.superseded (H : s.Fits (ms ++ ms')) (hticket : ticket ∈ s.tickets ms)
    (hlater : (s.follow ms).numbers ms' ≠ []) : (s.follow (ms ++ ms')).Superseded ticket := by
  obtain ⟨n, hn⟩ := List.exists_mem_of_ne_nil _ hlater
  have hnumber : ticket.number ∈ s.numbers ms :=
    sublist_numbers_of_tickets.mem (List.mem_map_of_mem hticket)
  have hle := (H.left.between_latest hnumber).2
  obtain ⟨hlt, hlatest⟩ := H.right.between_latest hn
  rw [follow_append]
  exact superseded_of_lt (UInt64.lt_of_le_of_lt hle (UInt64.lt_of_lt_of_le hlt hlatest))

/-! ## Responses that count -/

/-- A response counts only while its number is the latest. -/
theorem eq_latest_of_counted? {m : Move} {n : UInt64} (hcounted : s.counted? m = some n) :
    n = s.tracker.latest := by
  cases m with
  | apply ticket response reason =>
    simp only [counted?, Option.ite_none_left_eq_some, Option.some.injEq] at hcounted
    obtain ⟨hcounts, rfl⟩ := hcounted
    by_contra hne
    exact hcounts (congrArg Prod.fst (apply_of_number_ne hne response reason))
  | _ => cases hcounted

theorem Fits.latest_le_of_mem_counted {n : UInt64} (H : s.Fits ms) (hmem : n ∈ s.counted ms) :
    s.tracker.latest ≤ n := by
  obtain ⟨ms₁, m, ms₂, rfl, hcounted⟩ := exists_of_mem_gather hmem
  rw [eq_latest_of_counted? hcounted]
  exact H.left.latest_le_follow

/-- Of two responses that count, the later one has no smaller number. -/
theorem Fits.pairwise_counted (H : s.Fits ms) : (s.counted ms).Pairwise (· ≤ ·) := by
  induction ms generalizing s with
  | nil => exact .nil
  | cons m ms ih =>
    have hfits : s.Fits ([m] ++ ms) := H
    have hrest := ih hfits.right
    cases hcounted : s.counted? m with
    | none =>
      rw [counted, gather, hcounted]
      exact hrest
    | some n =>
      have hcons : s.counted (m :: ms) = n :: (s.move m).counted ms := by
        rw [counted, gather, hcounted]
        rfl
      rw [hcons, eq_latest_of_counted? hcounted]
      refine .cons (fun n' hmem => H.latest_le_of_mem_counted ?_) hrest
      rw [hcons]
      exact .tail _ hmem

end Session

namespace Traces

open Session

variable {σ α : Type} {store : List Move → Prop} {op : Operation σ α} {ms : List Move}
  {config : LayoutConfig Single}

/-- **Superseded is for ever.** Whatever operations are run on a new session, and however they
overlap, as long as the counter does not start again tickets have greater and greater numbers; once
another number has been given out, with a ticket or without one, the responses to a ticket are
dropped at every later moment; and the numbers of the responses that count never decrease. -/
theorem superseded_of_start {s : Session} {outside : σ} (H : Traces store op ⟨s, outside⟩ ms)
    (hstart : Session.start config = .ok s) (hfew : (s.numbers ms).length < UInt64.size) :
    (op.after ⟨s, outside⟩).session = s.follow ms ∧
      (s.tickets ms).Pairwise (·.number < ·.number) ∧
      (∀ ms₁ ms₂, ms₁ ++ ms₂ <+: ms → ∀ ticket ∈ s.tickets ms₁,
        (s.follow ms₁).numbers ms₂ ≠ [] → (s.follow (ms₁ ++ ms₂)).Superseded ticket) ∧
      (s.counted ms).Pairwise (· ≤ ·) := by
  have hfits : s.Fits ms := by
    cases eq_of_start hstart
    rw [Fits]
    exact (Nat.zero_add _).trans_lt hfew
  refine ⟨H.session_after, hfits.ascending_tickets, fun ms₁ ms₂ hpre ticket hticket hlater => ?_,
    hfits.pairwise_counted⟩
  exact (hfits.of_isPrefix hpre).superseded hticket hlater

/-- While the groups are fetched, another ruleset is asked for and a number is taken. The response
to the first request comes while the ruleset is fetched again. -/
theorem superseded_of_nested :
    let inner : Collaborators Unit := .constant (.ok ⟨"b", "", [⟨"Net", "", [], {}⟩]⟩) (.ok [])
    let outer : Collaborators Unit := { inner with
      fetchGroups := inner.beginRequest "b" >>= fun _ => onSession (·.startRefresh) >>= fun _ =>
        inner.fetchGroups
      fetchRuleset := fun id =>
        onSession (·.apply ⟨1, "a"⟩ (.ok ⟨"a", "", []⟩) .rulesetChanged) >>= fun _ =>
          inner.fetchRuleset id }
    let op := inner.beginRequest "a" >>= fun _ => outer.refreshCatalog
    let s : Session := { config := .default }
    ∃ ms, (s.numbers ms).length < UInt64.size ∧
      s.tickets ms = [⟨1, "a"⟩, ⟨3, "b"⟩, ⟨5, "b"⟩] ∧ s.counted ms = [5] ∧
      (op.after ⟨s, ()⟩).session = s.follow ms ∧
      (s.tickets ms).Pairwise (·.number < ·.number) ∧
      (∀ ms₁ ms₂, ms₁ ++ ms₂ <+: ms → ∀ ticket ∈ s.tickets ms₁,
        (s.follow ms₁).numbers ms₂ ≠ [] → (s.follow (ms₁ ++ ms₂)).Superseded ticket) ∧
      (s.counted ms).Pairwise (· ≤ ·) := by
  intro inner outer op s
  have hstart : Session.start .default = .ok s := by rfl
  have hbegin : ∀ id w, Traces (fun _ => True) (inner.beginRequest id) w
      [.request id, .announce ⟨w.session.tracker.latest + 1, id⟩ (.ok ())] :=
    fun _ _ => .beginRequest inner rfl (.look _) trivial rfl
  have hgroups : ∀ w, Traces (fun _ => True) outer.fetchGroups w
      [.request "b", .announce ⟨w.session.tracker.latest + 1, "b"⟩ (.ok ()), .advance] :=
    fun w => (hbegin "b" w).bind (Traces.advance.bind (.look _))
  have hruleset : ∀ w, Traces (fun _ => True) (outer.fetchRuleset "b") w
      [.apply ⟨1, "a"⟩ (.ok ⟨"a", "", []⟩) .rulesetChanged] :=
    fun w => (Traces.apply _ _).bind (.look _)
  let ms : List Move := [.request "a", .announce ⟨1, "a"⟩ (.ok ()), .advance, .request "b",
    .announce ⟨3, "b"⟩ (.ok ()), .advance, .receive (.ok []),
    .apply ⟨1, "a"⟩ (.ok ⟨"a", "", []⟩) .rulesetChanged,
    .apply ⟨5, "b"⟩ (.ok ⟨"b", "", [⟨"Net", "", [], {}⟩]⟩) .catalogChanged]
  have H : Traces (fun _ => True) op ⟨s, ()⟩ ms :=
    (hbegin "a" _).bind (.refreshAll outer rfl (hgroups _) rfl rfl (hruleset _) rfl)
  have hfew : (s.numbers ms).length < UInt64.size := by decide
  exact ⟨ms, hfew, by rfl, by rfl, H.superseded_of_start hstart hfew⟩

end Traces
end RulePyramid
