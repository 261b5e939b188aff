import Mathlib.Data.List.DropRight
import RulePyramid.Text.Blank
import RulePyramid.Text.Lowercase

/-!
Lower-casing and trimming as normal forms. What a run of capitals leads to is neither a capital nor
blank (`toNat_lower_notMem`). So lower case stays as it is when it is lower-cased again
(`lowercase_lowercase`), and a trimmed text stays trimmed when it is lower-cased
(`trim_lowercase_trim`).
-/

namespace RulePyramid.Text

/-! ## Code points -/

/-- A set of code points as the bits of a number, in which one is found without a search. -/
def bitsOf (codes : List Nat) : Nat := codes.foldr (fun n bits => bits ||| 1 <<< n) 0

theorem testBit_bitsOf {codes : List Nat} {n : Nat} : (bitsOf codes).testBit n ↔ n ∈ codes := by
  induction codes with
  | nil => simp [bitsOf]
  | cons m codes ih =>
    rw [bitsOf, List.foldr_cons, ← bitsOf, Nat.testBit_or, Bool.or_eq_true, ih, Nat.one_shiftLeft,
      Nat.testBit_two_pow, decide_eq_true_eq, List.mem_cons, or_comm, eq_comm]

/-- The code points that a run changes. -/
def CaseRun.codes (r : CaseRun) : List Nat :=
  List.range' r.first ((r.last - r.first) / r.step + 1) r.step

/-- The code points that lower-casing changes. -/
def capitals : List Nat := 'İ'.toNat :: caseRuns.flatMap (·.codes)

def blanks : List Nat := whiteSpace.flatMap fun (first, last) => List.range' first (last - first + 1)

variable {r : CaseRun} {c d : Char} {cs before : List Char} {s : String}

theorem CaseRun.toNat_mem_codes (h : r.contains c) : c.toNat ∈ r.codes := by
  simp only [contains, Bool.and_eq_true, decide_eq_true_eq, beq_iff_eq] at h
  obtain ⟨⟨hfirst, hlast⟩, hstep⟩ := h
  refine List.mem_range'.mpr ⟨(c.toNat - r.first) / r.step, ?_, ?_⟩
  · exact Nat.lt_succ_of_le (Nat.div_le_div_right (Nat.sub_le_sub_right hlast _))
  · rw [Nat.mul_div_cancel' (Nat.dvd_of_mod_eq_zero hstep), Nat.add_sub_cancel' hfirst]

theorem toNat_mem_blanks (h : isBlank c) : c.toNat ∈ blanks := by
  obtain ⟨range, hrange, hfirst, hlast⟩ := CharTable.contains_iff.mp h
  refine List.mem_flatMap.mpr ⟨range, hrange, List.mem_range'.mpr ⟨c.toNat - range.1, ?_⟩⟩
  omega

/-- The tables are such that every run leads to code points of characters that stay as they are and
are not blank. -/
theorem testBit_shift_eq_false : ∀ r ∈ caseRuns, ∀ n ∈ r.codes, (n + r.shift).toNat.isValidChar ∧
    (bitsOf (capitals ++ blanks)).testBit (n + r.shift).toNat = false := by
  decide +kernel

theorem toNat_lower_notMem (hr : r ∈ caseRuns) (hc : r.contains c) :
    (r.lower c).toNat ∉ capitals ∧ (r.lower c).toNat ∉ blanks := by
  obtain ⟨hvalid, hbit⟩ := testBit_shift_eq_false r hr c.toNat (CaseRun.toNat_mem_codes hc)
  have hcode : (r.lower c).toNat = (c.toNat + r.shift).toNat := by
    rw [CaseRun.lower, Char.ofNat, dif_pos hvalid]
    rfl
  rw [← hcode, Bool.eq_false_iff, ne_eq, testBit_bitsOf, List.mem_append, not_or] at hbit
  exact hbit

/-! ## Characters -/

theorem lowerChar_eq_self (h : c.toNat ∉ capitals) : lowerChar c = [c] := by
  rw [capitals, List.mem_cons, not_or] at h
  have hdot : c ≠ 'İ' := fun heq => h.1 (congrArg Char.toNat heq)
  have hnone : caseRuns.find? (·.contains c) = none := List.find?_eq_none.mpr fun r hr hc =>
    h.2 (List.mem_flatMap.mpr ⟨r, hr, CaseRun.toNat_mem_codes hc⟩)
  rw [lowerChar, if_neg hdot, hnone]

/-- A character goes to lower case by the exception, by a run, or not at all. -/
theorem mem_lowerChar_cases (h : d ∈ lowerChar c) :
    (d = 'i' ∨ d = '\u0307') ∨ (∃ r ∈ caseRuns, r.contains c ∧ d = r.lower c) ∨
      d = c ∧ lowerChar c = [c] := by
  by_cases hdot : c = 'İ'
  · rw [lowerChar, if_pos hdot, List.mem_cons, List.mem_singleton] at h
    exact .inl h
  · cases hfind : caseRuns.find? (·.contains c) with
    | some r =>
      have hcontains := List.find?_some hfind
      rw [lowerChar, if_neg hdot, hfind, List.mem_singleton] at h
      exact .inr (.inl ⟨r, List.mem_of_find?_eq_some hfind, hcontains, h⟩)
    | none =>
      have hself : lowerChar c = [c] := by rw [lowerChar, if_neg hdot, hfind]
      rw [hself, List.mem_singleton] at h
      exact .inr (.inr ⟨h, hself⟩)

/-- Lower case is not changed any more. -/
theorem lowerChar_of_mem_lowerChar (h : d ∈ lowerChar c) : lowerChar d = [d] := by
  rcases mem_lowerChar_cases h with (rfl | rfl) | ⟨r, hr, hc, rfl⟩ | ⟨rfl, hself⟩
  · decide +kernel
  · decide +kernel
  · exact lowerChar_eq_self (toNat_lower_notMem hr hc).1
  · exact hself

/-- Only blank characters lead to blank ones. -/
theorem isBlank_of_mem_lowerChar (h : d ∈ lowerChar c) (hd : isBlank d) : isBlank c := by
  rcases mem_lowerChar_cases h with (rfl | rfl) | ⟨r, hr, hc, rfl⟩ | ⟨rfl, -⟩
  · exact absurd hd (by decide)
  · exact absurd hd (by decide)
  · exact ((toNat_lower_notMem hr hc).2 (toNat_mem_blanks hd)).elim
  · exact hd

theorem lowerChar_ne_nil (c : Char) : lowerChar c ≠ [] := by
  unfold lowerChar
  split
  · exact List.cons_ne_nil _ _
  · split <;> exact List.cons_ne_nil _ _

theorem lowerSigma_eq_or (before after : List Char) :
    lowerSigma before after = 'ς' ∨ lowerSigma before after = 'σ' := by
  rw [lowerSigma]
  exact ite_eq_or_eq _ _ _

/-! ## Texts -/

/-- What stands for one character of a text is lower case, and blank only if the character is. -/
theorem exists_lowerAfter_cons (before : List Char) (c : Char) (cs : List Char) :
    ∃ ds ≠ [], lowerAfter before (c :: cs) = ds ++ lowerAfter (c :: before) cs ∧
      ∀ d ∈ ds, lowerChar d = [d] ∧ (isBlank d → isBlank c) := by
  by_cases hsigma : c = 'Σ'
  · refine ⟨[lowerSigma before cs], List.cons_ne_nil _ _, by rw [lowerAfter, if_pos hsigma], ?_⟩
    intro d hd
    rw [List.mem_singleton.mp hd]
    rcases lowerSigma_eq_or before cs with h | h
    · rw [h]
      exact ⟨by decide +kernel, fun hblank => absurd hblank (by decide)⟩
    · rw [h]
      exact ⟨by decide +kernel, fun hblank => absurd hblank (by decide)⟩
  · refine ⟨lowerChar c, lowerChar_ne_nil c, by rw [lowerAfter, if_neg hsigma], fun d hd => ?_⟩
    exact ⟨lowerChar_of_mem_lowerChar hd, isBlank_of_mem_lowerChar hd⟩

theorem lowerAfter_eq_nil_iff : lowerAfter before cs = [] ↔ cs = [] := by
  cases cs with
  | nil => simp only [lowerAfter]
  | cons c cs =>
    obtain ⟨ds, hne, heq, -⟩ := exists_lowerAfter_cons before c cs
    simp only [heq, List.append_eq_nil_iff, hne, false_and, reduceCtorEq]

theorem lowerChar_of_mem_lowerAfter (h : d ∈ lowerAfter before cs) : lowerChar d = [d] := by
  induction cs generalizing before with
  | nil => cases h
  | cons c cs ih =>
    obtain ⟨ds, -, heq, hds⟩ := exists_lowerAfter_cons before c cs
    rw [heq, List.mem_append] at h
    rcases h with h | h
    · exact (hds d h).1
    · exact ih h

theorem lowerAfter_eq_self (h : ∀ c ∈ cs, lowerChar c = [c]) : lowerAfter before cs = cs := by
  induction cs generalizing before with
  | nil => rfl
  | cons c cs ih =>
    obtain ⟨hc, hcs⟩ := List.forall_mem_cons.mp h
    have hsigma : c ≠ 'Σ' := by
      rintro rfl
      revert hc
      decide +kernel
    rw [lowerAfter, if_neg hsigma, hc, ih hcs, List.singleton_append]

theorem lowercase_lowercase (s : String) : lowercase (lowercase s) = lowercase s := by
  rw [lowercase, lowercase, String.toList_ofList,
    lowerAfter_eq_self fun _ h => lowerChar_of_mem_lowerAfter h]

theorem lowercase_eq_empty_iff : lowercase s = "" ↔ s = "" := by
  rw [lowercase, ← String.toList_eq_nil_iff, String.toList_ofList, lowerAfter_eq_nil_iff,
    String.toList_eq_nil_iff]

/-! ## Trimmed texts -/

/-- No end is blank. -/
structure IsTrimmed (cs : List Char) : Prop where
  head : ∀ c ∈ cs.head?, ¬isBlank c
  last : ∀ c ∈ cs.getLast?, ¬isBlank c

theorem IsTrimmed.trim_eq_self (h : IsTrimmed s.toList) : trim s = s := by
  have hfront : trimFront s.toList = s.toList := by
    cases hs : s.toList with
    | nil => rfl
    | cons c cs => exact List.dropWhile_cons_of_neg (h.head c (by rw [hs]; rfl))
  have hback : trimBack s.toList = s.toList :=
    List.rdropWhile_eq_self_iff.mpr fun hne => h.last _ (List.getLast?_eq_getLast_of_ne_nil hne)
  rw [trim, hfront, hback, String.ofList_toList]

theorem isTrimmed_trim (s : String) : IsTrimmed (trim s).toList := by
  rw [trim, String.toList_ofList]
  constructor
  · intro c hc
    obtain ⟨back, hback⟩ := List.rdropWhile_prefix isBlank (l := trimFront s.toList)
    have hhead : (trimFront s.toList).head? = some c := by
      rw [← hback]
      exact List.mem_head?_append_of_mem_head? hc
    have hnot := List.head?_dropWhile_not isBlank s.toList
    rw [← trimFront, hhead] at hnot
    exact Bool.eq_false_iff.mp hnot
  · intro c hc
    obtain ⟨hne, rfl⟩ := List.mem_getLast?_eq_getLast hc
    exact List.rdropWhile_last_not isBlank _ hne

theorem trim_eq_empty_iff : trim s = "" ↔ isBlankText s := by
  rw [trim, ← String.toList_eq_nil_iff, String.toList_ofList, isBlankText, List.all_eq_true]
  constructor
  · intro h c hc
    have hfront : ∀ d ∈ trimFront s.toList, isBlank d := List.rdropWhile_eq_nil_iff.mp h
    cases hs : trimFront s.toList with
    | nil => exact List.dropWhile_eq_nil_iff.mp hs c hc
    | cons d ds =>
      have hnot := List.head?_dropWhile_not isBlank s.toList
      rw [← trimFront, hs] at hnot
      exact (Bool.eq_false_iff.mp hnot (hfront d (by rw [hs]; exact List.mem_cons_self))).elim
  · intro h
    rw [trimFront, List.dropWhile_eq_nil_iff.mpr h]
    rfl

theorem exists_isBlank_of_mem_head? (hd : d ∈ (lowerAfter before cs).head?) (hblank : isBlank d) :
    ∃ c ∈ cs.head?, isBlank c := by
  cases cs with
  | nil => cases hd
  | cons c cs =>
    obtain ⟨ds, hne, heq, hds⟩ := exists_lowerAfter_cons before c cs
    rw [heq, List.head?_append_of_ne_nil _ hne] at hd
    exact ⟨c, rfl, (hds d (List.mem_of_mem_head? hd)).2 hblank⟩

theorem exists_isBlank_of_mem_getLast? (hd : d ∈ (lowerAfter before cs).getLast?)
    (hblank : isBlank d) : ∃ c ∈ cs.getLast?, isBlank c := by
  induction cs generalizing before with
  | nil => cases hd
  | cons c cs ih =>
    obtain ⟨ds, -, heq, hds⟩ := exists_lowerAfter_cons before c cs
    rw [heq] at hd
    cases cs with
    | nil =>
      rw [lowerAfter, List.append_nil] at hd
      exact ⟨c, rfl, (hds d (List.mem_of_mem_getLast? hd)).2 hblank⟩
    | cons c' cs =>
      have hrest : lowerAfter (c :: before) (c' :: cs) ≠ [] :=
        mt lowerAfter_eq_nil_iff.mp (List.cons_ne_nil _ _)
      rw [List.getLast?_append_of_ne_nil _ hrest] at hd
      exact ih hd

theorem IsTrimmed.lowerAfter (h : IsTrimmed cs) : IsTrimmed (lowerAfter before cs) where
  head _ hd hblank := by
    obtain ⟨c, hc, hblank⟩ := exists_isBlank_of_mem_head? hd hblank
    exact h.head c hc hblank
  last _ hd hblank := by
    obtain ⟨c, hc, hblank⟩ := exists_isBlank_of_mem_getLast? hd hblank
    exact h.last c hc hblank

theorem trim_lowercase_trim (s : String) : trim (lowercase (trim s)) = lowercase (trim s) := by
  refine IsTrimmed.trim_eq_self ?_
  rw [lowercase, String.toList_ofList]
  exact (isTrimmed_trim s).lowerAfter

end RulePyramid.Text
