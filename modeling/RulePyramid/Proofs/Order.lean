import Mathlib.Data.String.Basic
import Mathlib.Data.List.Sort
import Mathlib.Data.Prod.Lex
import Mathlib.Order.WithBot
import RulePyramid.Graph.Cycles
import RulePyramid.Layout.Pyramid

/-!
The orders in which the graph, the pyramid and the view list things. Each comparison compares keys
of a linear order (`SortsBy`), so a strictly ascending list is determined by its members, and
whatever order they came in is gone (`SortsBy.mergeSort_congr`, `Ascending.ext`).
-/

namespace RulePyramid

/-! ## Dropping repetitions -/

section
variable {α : Type} {repeats : α → α → Bool}

/-- The recursion of `List.eraseDupsBy`: what repeats the first member is dropped at once. -/
@[elab_as_elim]
theorem eraseDupsBy_induction (repeats : α → α → Bool) {motive : List α → Prop} (nil : motive [])
    (cons : ∀ a as, motive (as.filter fun b => repeats b a = false) → motive (a :: as))
    (as : List α) : motive as := by
  induction hn : as.length using Nat.strong_induction_on generalizing as with
  | _ n ih =>
    cases as with
    | nil => exact nil
    | cons a as =>
      refine cons a as (ih _ ?_ _ rfl)
      rw [← hn, List.length_cons]
      exact Nat.lt_succ_of_le (List.length_filter_le ..)

theorem sublist_eraseDupsBy (as : List α) : (as.eraseDupsBy repeats).Sublist as := by
  induction as using eraseDupsBy_induction repeats with
  | nil => exact .slnil
  | cons a as ih =>
    rw [List.eraseDupsBy_cons]
    exact (ih.trans List.filter_sublist).cons_cons a

/-- What is kept of a list repeats nothing kept before it. -/
theorem pairwise_eraseDupsBy (as : List α) :
    (as.eraseDupsBy repeats).Pairwise fun a b => repeats b a = false := by
  induction as using eraseDupsBy_induction repeats with
  | nil => exact .nil
  | cons a as ih =>
    rw [List.eraseDupsBy_cons]
    refine List.pairwise_cons.mpr ⟨fun b hb => ?_, ih⟩
    simpa using List.of_mem_filter ((sublist_eraseDupsBy _).subset hb)

/-- Of a list without repetitions all is kept. -/
theorem eraseDupsBy_eq_self {as : List α} (h : as.Pairwise fun a b => repeats b a = false) :
    as.eraseDupsBy repeats = as := by
  induction as with
  | nil => rfl
  | cons a as ih =>
    obtain ⟨ha, has⟩ := List.pairwise_cons.mp h
    have hkept : as.filter (fun b => repeats b a = false) = as :=
      List.filter_eq_self.mpr fun b hb => decide_eq_true (ha b hb)
    rw [List.eraseDupsBy_cons, hkept, ih has]

theorem nodup_eraseDups [BEq α] [LawfulBEq α] (as : List α) : as.eraseDups.Nodup :=
  (pairwise_eraseDupsBy as).imp fun h => (ne_of_beq_false h).symm

/-- Dropping repetitions commutes with a change of the members. -/
theorem eraseDupsBy_map {β : Type} (f : α → β) (repeats : β → β → Bool) (as : List α) :
    (as.map f).eraseDupsBy repeats =
      (as.eraseDupsBy fun later earlier => repeats (f later) (f earlier)).map f := by
  induction as using eraseDupsBy_induction fun later earlier => repeats (f later) (f earlier) with
  | nil => rfl
  | cons a as ih =>
    rw [List.map_cons, List.eraseDupsBy_cons, List.filter_map, List.eraseDupsBy_cons, List.map_cons]
    exact congrArg (f a :: ·) ih

variable {β : Type} [DecidableEq β] (key : α → β)

/-- What is kept is the first member with its key. -/
theorem mem_eraseDupsBy_key {a : α} {as : List α} :
    a ∈ as.eraseDupsBy (fun later earlier => key later == key earlier) ↔
      as.find? (fun b => key b = key a) = some a := by
  induction as using eraseDupsBy_induction fun later earlier => key later == key earlier with
  | nil => simp
  | cons b as ih =>
    rw [List.eraseDupsBy_cons, List.mem_cons, ih, List.find?_filter, List.find?_cons]
    by_cases h : key b = key a
    · have hnone : as.find? (fun c => decide (decide ((key c == key b) = false) ∧
          decide (key c = key a))) = none := by
        rw [List.find?_eq_none]
        intro c _
        simp [h]
      rw [hnone]
      simp only [h, decide_true, reduceCtorEq, or_false, Option.some.injEq]
      exact eq_comm
    · have hne : a ≠ b := fun hab => h (hab ▸ rfl)
      have hsame : (fun c => decide (decide ((key c == key b) = false) ∧
          decide (key c = key a))) = fun c => decide (key c = key a) := by
        funext c
        by_cases hc : key c = key a
        · simp [hc, Ne.symm h]
        · simp [hc]
      simp only [hne, h, hsame, decide_false, false_or]

/-- The keys that are kept are those of the members that are kept. -/
theorem eraseDups_map (as : List α) :
    (as.map key).eraseDups =
      (as.eraseDupsBy fun later earlier => key later == key earlier).map key :=
  eraseDupsBy_map key (· == ·) as

end

section
variable {α : Type} [BEq α] [LawfulBEq α]

/-- What comes behind `a` among the members that pass a test comes behind it in the whole list. -/
theorem idxOf_lt_of_filter {p : α → Bool} {as : List α} {a b : α} (hb : p b)
    (hlt : (as.filter p).idxOf a < (as.filter p).idxOf b) : as.idxOf a < as.idxOf b := by
  induction as with
  | nil => exact hlt
  | cons c as ih =>
    by_cases hcb : c = b
    · rw [hcb, List.filter_cons_of_pos hb, List.idxOf_cons_self] at hlt
      exact (Nat.not_lt_zero _ hlt).elim
    rw [List.idxOf_cons_ne _ hcb]
    by_cases hca : c = a
    · rw [hca, List.idxOf_cons_self]
      exact Nat.succ_pos _
    rw [List.idxOf_cons_ne _ hca]
    refine Nat.succ_lt_succ (ih ?_)
    by_cases hc : p c
    · rw [List.filter_cons_of_pos hc, List.idxOf_cons_ne _ hca, List.idxOf_cons_ne _ hcb] at hlt
      exact Nat.lt_of_succ_lt_succ hlt
    · rwa [List.filter_cons_of_neg hc] at hlt

/-- What is kept of a list is in the order of first appearance. -/
theorem pairwise_idxOf_eraseDups (as : List α) :
    as.eraseDups.Pairwise fun a b => as.idxOf a < as.idxOf b := by
  induction as using eraseDupsBy_induction (fun later earlier : α => later == earlier) with
  | nil => exact .nil
  | cons a as ih =>
    have hfilter : as.filter (fun b => !b == a) = as.filter fun b => (b == a) = false :=
      List.filter_congr fun b _ => by cases b == a <;> rfl
    have hkept : ∀ b ∈ (as.filter fun b => (b == a) = false).eraseDups, (b == a) = false :=
      fun b hb => of_decide_eq_true (List.mem_filter.mp (List.mem_eraseDups.mp hb)).2
    have hne : ∀ b ∈ (as.filter fun b => (b == a) = false).eraseDups, a ≠ b := fun b hb =>
      (ne_of_beq_false (hkept b hb)).symm
    rw [List.eraseDups_cons, hfilter]
    refine List.pairwise_cons.mpr ⟨fun b hb => ?_, ih.imp_of_mem fun {b c} hb hc hlt => ?_⟩
    · rw [List.idxOf_cons_self, List.idxOf_cons_ne _ (hne b hb)]
      exact Nat.succ_pos _
    · rw [List.idxOf_cons_ne _ (hne b hb), List.idxOf_cons_ne _ (hne c hc)]
      exact Nat.succ_lt_succ (idxOf_lt_of_filter (decide_eq_true (hkept c hc)) hlt)

end

/-- In a list in ascending order the first member with a property is a least one. -/
theorem le_of_find?_eq_some {α β : Type} [LinearOrder β] {key : α → β} {p : α → Bool} {as : List α}
    {a b : α} (h : as.Pairwise fun a b => key a ≤ key b) (hfind : as.find? p = some a)
    (hb : b ∈ as) (hp : p b) : key a ≤ key b := by
  obtain ⟨-, before, after, rfl, hbefore⟩ := List.find?_eq_some_iff_append.mp hfind
  rcases List.mem_append.mp hb with hb | hb
  · have hnot := hbefore b hb
    rw [hp] at hnot
    cases hnot
  · rcases List.mem_cons.mp hb with rfl | hb
    · exact le_rfl
    · exact (List.pairwise_cons.mp (List.pairwise_append.mp h).2.1).1 b hb

/-! ## Comparing keys -/

/-- The keys of a list ascend strictly. -/
def Ascending {α β : Type} [LinearOrder β] (key : α → β) (as : List α) : Prop :=
  as.Pairwise fun a b => key a < key b

namespace Ascending

variable {α β : Type} [LinearOrder β] {key : α → β} {as bs : List α}

theorem nodup (H : Ascending key as) : as.Nodup :=
  H.imp fun hab hEq => (hEq ▸ hab).ne rfl

/-- There is one strictly ascending list with given members. -/
theorem ext (ha : Ascending key as) (hb : Ascending key bs) (h : ∀ a, a ∈ as ↔ a ∈ bs) :
    as = bs := by
  have hperm : as.Perm bs := (List.perm_ext_iff_of_nodup ha.nodup hb.nodup).mpr h
  exact hperm.eq_of_pairwise (fun a b _ _ hab hba => (lt_asymm hab hba).elim) ha hb

/-- Of two members the one with the lesser key comes first. -/
theorem rel_of_lt {R : α → α → Prop} {a b : α} (H : Ascending key as) (h : as.Pairwise R)
    (ha : a ∈ as) (hb : b ∈ as) (hlt : key a < key b) : R a b := by
  obtain ⟨i, hi, rfl⟩ := List.getElem_of_mem ha
  obtain ⟨j, hj, rfl⟩ := List.getElem_of_mem hb
  rcases lt_trichotomy i j with hij | rfl | hji
  · exact List.pairwise_iff_getElem.mp h i j hi hj hij
  · exact (hlt.ne rfl).elim
  · exact (lt_asymm hlt (List.pairwise_iff_getElem.mp H j i hj hi hji)).elim

/-- Of two members the one with the lesser key comes first, and the other way round. -/
theorem key_lt_key_iff (H : Ascending key as) {i j : Nat} (hi : i < as.length)
    (hj : j < as.length) : key as[i] < key as[j] ↔ i < j := by
  have hlt := List.pairwise_iff_getElem.mp H
  constructor
  · intro h
    by_contra hij
    rcases (not_lt.mp hij).lt_or_eq with hji | rfl
    · exact lt_asymm h (hlt j i hj hi hji)
    · exact h.ne rfl
  · exact hlt i j hi hj

end Ascending

/-- Sorting by a key is stable: it sorts by the key and, where keys are equal, by position. -/
theorem ascending_mergeSort_zipIdx {α β : Type} [LinearOrder β] (key : α → β) (as : List α) :
    Ascending (fun a => toLex (key a.1, a.2))
      (as.zipIdx.mergeSort (List.zipIdxLE fun a b => key a ≤ key b)) := by
  have hle : ∀ a b : α × Nat, List.zipIdxLE (fun a b => key a ≤ key b) a b →
      toLex (key a.1, a.2) ≤ toLex (key b.1, b.2) := by
    intro a b h
    rw [Prod.Lex.toLex_le_toLex]
    rcases lt_trichotomy (key a.1) (key b.1) with hlt | heq | hgt
    · exact .inl hlt
    · exact .inr ⟨heq, by simpa [List.zipIdxLE, heq] using h⟩
    · simp [List.zipIdxLE, hgt.not_ge] at h
  have htrans : ∀ a b c : α, decide (key a ≤ key b) → decide (key b ≤ key c) →
      decide (key a ≤ key c) := fun _ _ _ => by simpa using le_trans
  have htotal : ∀ a b : α, decide (key a ≤ key b) || decide (key b ≤ key a) := fun a b => by
    simpa using le_total (key a) (key b)
  have hsorted := List.pairwise_mergeSort (List.zipIdxLE_trans htrans)
    (List.zipIdxLE_total htotal) as.zipIdx
  have hpositions : ((as.zipIdx.mergeSort (List.zipIdxLE fun a b => key a ≤ key b)).map
      Prod.snd).Nodup := by
    rw [((List.mergeSort_perm _ _).map Prod.snd).nodup_iff, List.zipIdx_map_snd]
    exact List.nodup_range'
  refine hsorted.imp₂ (fun a b h hne => lt_of_le_of_ne (hle a b h) fun heq => hne ?_)
    (List.pairwise_map.mp hpositions)
  exact congrArg (fun k => (ofLex k).2) heq

/-- The comparison `le` compares the keys of values, and the key tells a value. -/
structure SortsBy {α β : Type} [LinearOrder β] (le : α → α → Bool) (key : α → β) : Prop where
  injective : Function.Injective key
  le_iff : ∀ a b, le a b ↔ key a ≤ key b

namespace SortsBy

variable {α β : Type} [LinearOrder β] {le : α → α → Bool} {key : α → β} {as bs : List α}

theorem pairwise_mergeSort (H : SortsBy le key) (as : List α) :
    (as.mergeSort le).Pairwise fun a b => key a ≤ key b := by
  have hsorted : (as.mergeSort le).Pairwise fun a b => le a b := by
    refine List.pairwise_mergeSort (fun a b c => ?_) (fun a b => ?_) as
    · simp only [H.le_iff]
      exact le_trans
    · simp only [Bool.or_eq_true, H.le_iff]
      exact le_total (key a) (key b)
  exact hsorted.imp fun {a b} h => (H.le_iff a b).mp h

/-- Sorting forgets the order of its input. -/
theorem mergeSort_congr (H : SortsBy le key) (h : as.Perm bs) :
    as.mergeSort le = bs.mergeSort le := by
  refine List.Perm.eq_of_pairwise (fun a b _ _ hab hba => H.injective (le_antisymm hab hba))
    (H.pairwise_mergeSort as) (H.pairwise_mergeSort bs) ?_
  exact ((List.mergeSort_perm as le).trans h).trans (List.mergeSort_perm bs le).symm

/-- A sorted list without repetitions ascends strictly. -/
theorem ascending_mergeSort (H : SortsBy le key) (h : as.Nodup) :
    Ascending key (as.mergeSort le) := by
  have hnodup : (as.mergeSort le).Nodup := (List.mergeSort_perm as le).nodup_iff.mpr h
  exact (H.pairwise_mergeSort as).imp₂ (fun a b hle hne => lt_of_le_of_ne hle (H.injective.ne hne))
    hnodup

end SortsBy

/-! ## Ids, edges, bands and lists of ids -/

theorem sortsBy_ids : SortsBy (fun a b : String => decide (a ≤ b)) id where
  injective := Function.injective_id
  le_iff a b := by simp only [decide_eq_true_eq, id]

/-- Edges are ordered by source, then by target. -/
def Edge.key (e : Edge) : String ×ₗ String := toLex (e.source, e.target)

theorem sortsBy_edges : SortsBy Edge.le Edge.key where
  injective := by
    rintro ⟨s, t⟩ ⟨s', t'⟩ h
    simpa [Edge.key] using h
  le_iff a b := by
    rw [Edge.le, Edge.key, Edge.key, Prod.Lex.toLex_le_toLex]
    split
    · next h => simp only [decide_eq_true_eq, h, lt_self_iff_false, true_and, false_or]
    · next h => simp only [decide_eq_true_eq, h, false_and, or_false]

/-- How high a band is stacked: by rank, and the band for all other nodes on top. -/
def LayerKey.height : LayerKey → WithTop Nat
  | .ranked ordinal => .some ordinal
  | .ungrouped => ⊤

theorem sortsBy_layerKeys : SortsBy LayerKey.le LayerKey.height where
  injective := by
    rintro (i | _) (j | _) h
    · exact congrArg LayerKey.ranked (WithTop.coe_injective h)
    · exact (WithTop.coe_ne_top h).elim
    · exact (WithTop.coe_ne_top h.symm).elim
    · rfl
  le_iff := by
    rintro (i | _) (j | _) <;> simp [LayerKey.le, LayerKey.height]

theorem idsLe_iff {as bs : List String} :
    RuleGraph.idsLe as bs ↔ as = bs ∨ List.Lex (· < ·) as bs := by
  induction as generalizing bs with
  | nil =>
    cases bs with
    | nil => simp only [RuleGraph.idsLe, true_or]
    | cons b bs => simp only [RuleGraph.idsLe, true_iff]; exact .inr .nil
  | cons a as ih =>
    cases bs with
    | nil =>
      simp only [RuleGraph.idsLe, Bool.false_eq_true, reduceCtorEq, List.not_lex_nil, or_self]
    | cons b bs =>
      rw [RuleGraph.idsLe, List.cons_lex_cons_iff, List.cons.injEq]
      split
      · next h => simp only [ih, h, lt_self_iff_false, true_and, false_or]
      · next h => simp only [decide_eq_true_eq, h, false_and, false_or, or_false]

theorem sortsBy_idLists : SortsBy RuleGraph.idsLe (id : List String → List String) where
  injective := Function.injective_id
  le_iff as bs := by
    rw [idsLe_iff, id, id, le_iff_eq_or_lt]
    rfl

end RulePyramid
