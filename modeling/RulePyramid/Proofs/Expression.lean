import Mathlib.Algebra.Ring.Parity
import RulePyramid.Expression
import RulePyramid.Proofs.Order
import RulePyramid.Proofs.Text.Pattern
import RulePyramid.Proofs.Text.Word

/-!
What is read of an expression. The quotes of an expression are paired from the left, and a blank
takes the place of each pair and of what it encloses (`blankLiterals_eq`), so nothing is left of what
a literal says (`blankLiterals_append_literal`), and no literal (`blankLiterals_blankLiterals`). Of
what remains the candidates are the words that are spelled like names of rules (`findAll_ruleName`),
each listed once where it stands first. The two patterns come in only through the texts that they
fit (`fits_quotedLiteral_iff`, `fits_ruleName_iff`).
-/

namespace RulePyramid.Expression

open Text Text.Pattern

variable {before : Option Char} {c : Char} {a cs found inside rest run w : List Char}

/-! ## Quoted literals -/

/-- Puts the pieces of a text that was cut at its quotes together again. A blank takes the place of
every second piece with the quotes around it; only a last quote without a partner stays. -/
def joinUnquoted : List (List Char) → List Char
  | [] => []
  | [piece] => piece
  | [piece, unclosed] => piece ++ '"' :: unclosed
  | piece :: _ :: next :: pieces => piece ++ ' ' :: joinUnquoted (next :: pieces)

theorem fits_quotedLiteral_iff :
    Fits quotedLiteral before found rest ↔ ∃ inside, found = '"' :: (inside ++ ['"']) ∧
      '"' ∉ inside := by
  simp only [quotedLiteral, fits_one_iff, fits_many_iff, fits_nil_iff, decide_eq_true_eq]
  constructor
  · rintro ⟨_, _, rfl, rfl, inside, _, rfl, hinside, _, _, rfl, rfl, rfl⟩
    exact ⟨inside, rfl, fun hquote => hinside _ hquote rfl⟩
  · rintro ⟨inside, rfl, hinside⟩
    exact ⟨_, _, rfl, rfl, inside, _, rfl, fun d hd heq => hinside (heq ▸ hd), _, _, rfl, rfl, rfl⟩

/-- Up to the first quote every character stays, whatever is in front of it. -/
theorem split_quotedLiteral_append (hrun : '"' ∉ run) (before : Option Char) (rest : List Char) :
    quotedLiteral.split before (run ++ rest) =
      run.map .inl ++ quotedLiteral.split (run.getLast?.or before) rest := by
  induction run generalizing before with
  | nil => rfl
  | cons c run ih =>
    obtain ⟨hc, hrun⟩ := not_or.mp (List.mem_cons.not.mp hrun)
    have hnone : quotedLiteral.fit before (c :: (run ++ rest)) = none := by
      refine fit_eq_none fun found rest' heq hfits => ?_
      obtain ⟨inside, rfl, -⟩ := fits_quotedLiteral_iff.mp hfits
      exact hc (List.cons.inj heq).1.symm
    rw [List.cons_append, split_cons_of_none hnone, ih hrun, getLast?_cons_or, List.map_cons,
      List.cons_append]

theorem split_quotedLiteral_of_not_mem (hcs : '"' ∉ cs) (before : Option Char) :
    quotedLiteral.split before cs = cs.map .inl := by
  have hsplit := split_quotedLiteral_append hcs before []
  rwa [List.append_nil, split, List.append_nil] at hsplit

theorem split_quotedLiteral_unclosed (hrest : '"' ∉ rest) (before : Option Char) :
    quotedLiteral.split before ('"' :: rest) = .inl '"' :: rest.map .inl := by
  have hnone : quotedLiteral.fit before ('"' :: rest) = none := by
    refine fit_eq_none fun found rest' heq hfits => hrest ?_
    obtain ⟨inside, rfl, -⟩ := fits_quotedLiteral_iff.mp hfits
    rw [(List.cons.inj heq).2]
    simp
  rw [split_cons_of_none hnone, split_quotedLiteral_of_not_mem hrest]

theorem split_quotedLiteral_closed (hinside : '"' ∉ inside) (before : Option Char)
    (rest : List Char) :
    quotedLiteral.split before ('"' :: (inside ++ '"' :: rest)) =
      .inr ('"' :: (inside ++ ['"'])) :: quotedLiteral.split (some '"') rest := by
  have happend : '"' :: (inside ++ '"' :: rest) = '"' :: (inside ++ ['"']) ++ rest := by simp
  have hfit : quotedLiteral.fit before ('"' :: (inside ++ ['"']) ++ rest) =
      some ('"' :: (inside ++ ['"'])).length := by
    refine fit_eq_of_unique (fits_quotedLiteral_iff.mpr ⟨inside, rfl, hinside⟩)
      fun found' rest' heq hfits => ?_
    obtain ⟨inside', rfl, hinside'⟩ := fits_quotedLiteral_iff.mp hfits
    have hpieces : inside ++ '"' :: rest = inside' ++ '"' :: rest' := by simpa using heq
    have hcut := congrArg (List.splitOn '"') hpieces
    rw [List.splitOn_append_cons_self_of_not_mem hinside,
      List.splitOn_append_cons_self_of_not_mem hinside'] at hcut
    rw [(List.cons.inj hcut).1]
  rw [happend, split_append (List.cons_ne_nil _ _) hfit]
  simp [List.getLast?_cons]

/-- Every pair of quotes, from left to right, is one literal. -/
theorem flatMap_split_quotedLiteral (before : Option Char) (cs : List Char) :
    (quotedLiteral.split before cs).flatMap (Sum.elim (fun c => [c]) fun _ => [' ']) =
      joinUnquoted (cs.splitOn '"') := by
  induction hn : cs.length using Nat.strong_induction_on generalizing before cs with
  | _ n ih =>
    have hkept : ∀ run : List Char, (run.map .inl : List (Char ⊕ List Char)).flatMap
        (Sum.elim (fun c => [c]) fun _ => [' ']) = run := fun run => by
      simp [List.flatMap_map]
    by_cases hcs : '"' ∈ cs
    · obtain ⟨run, rest, rfl, hrun⟩ := List.eq_append_cons_of_mem hcs
      rw [split_quotedLiteral_append hrun, List.flatMap_append, hkept,
        List.splitOn_append_cons_self_of_not_mem hrun]
      by_cases hrest : '"' ∈ rest
      · obtain ⟨inside, rest, rfl, hinside⟩ := List.eq_append_cons_of_mem hrest
        have hlt : rest.length < n := by
          rw [← hn]
          simp only [List.length_append, List.length_cons]
          omega
        obtain ⟨next, pieces, hpieces⟩ :=
          List.exists_cons_of_ne_nil (List.splitOn_ne_nil '"' rest)
        rw [split_quotedLiteral_closed hinside, List.flatMap_cons, ih _ hlt _ _ rfl,
          List.splitOn_append_cons_self_of_not_mem hinside, hpieces]
        rfl
      · rw [split_quotedLiteral_unclosed hrest, List.flatMap_cons, hkept,
          List.splitOn_eq_singleton hrest]
        rfl
    · rw [split_quotedLiteral_of_not_mem hcs, hkept, List.splitOn_eq_singleton hcs]
      rfl

theorem blankLiterals_eq (cs : List Char) : blankLiterals cs = joinUnquoted (cs.splitOn '"') :=
  flatMap_split_quotedLiteral none cs

example : joinUnquoted ("A\"x\"B\"y".toList.splitOn '"') = "A B\"y".toList := by decide

/-! ## Texts with a literal -/

theorem length_splitOn (c : Char) (cs : List Char) :
    (cs.splitOn c).length = cs.count c + 1 := by
  induction cs with
  | nil => rfl
  | cons d cs ih =>
    rw [List.splitOn_cons_eq_if_modifyHead, List.count_cons, Nat.add_right_comm, ← ih]
    split
    · rw [List.length_cons]
    · rw [List.length_modifyHead, Nat.add_zero]

theorem joinUnquoted_append {pieces rest : List (List Char)} (hpieces : Odd pieces.length)
    (inside : List Char) (hrest : rest ≠ []) :
    joinUnquoted (pieces ++ inside :: rest) = joinUnquoted pieces ++ ' ' :: joinUnquoted rest := by
  induction pieces using joinUnquoted.induct with
  | case1 => exact absurd hpieces (by decide)
  | case2 piece =>
    obtain ⟨next, rest, rfl⟩ := List.exists_cons_of_ne_nil hrest
    rfl
  | case3 => exact absurd (show Odd 2 from hpieces) (by decide)
  | case4 piece quoted next pieces ih =>
    have hodd : Odd (next :: pieces).length := by
      simp only [List.length_cons, Nat.odd_iff] at hpieces ⊢
      omega
    calc joinUnquoted (piece :: quoted :: next :: pieces ++ inside :: rest)
      _ = piece ++ ' ' :: joinUnquoted (next :: pieces ++ inside :: rest) := rfl
      _ = piece ++ ' ' :: (joinUnquoted (next :: pieces) ++ ' ' :: joinUnquoted rest) := by
        rw [ih hodd]
      _ = _ := by rw [joinUnquoted, List.append_assoc, List.cons_append]

/-- Behind an even number of quotes a literal begins, and a blank takes its place whatever it
says. -/
theorem blankLiterals_append_literal (ha : Even (a.count '"')) (hinside : '"' ∉ inside)
    (rest : List Char) :
    blankLiterals (a ++ '"' :: (inside ++ '"' :: rest)) =
      blankLiterals a ++ ' ' :: blankLiterals rest := by
  have hodd : Odd (a.splitOn '"').length := by
    rw [length_splitOn]
    exact ha.add_one
  have hcut : (a ++ '"' :: (inside ++ '"' :: rest)).splitOn '"' =
      a.splitOn '"' ++ inside :: rest.splitOn '"' := by
    rw [List.splitOn_append_cons_self, List.splitOn_append_cons_self_of_not_mem hinside]
  rw [blankLiterals_eq, hcut, joinUnquoted_append hodd _ (List.splitOn_ne_nil _ _),
    ← blankLiterals_eq, ← blankLiterals_eq]

/-- Without a second quote there is no literal. -/
theorem blankLiterals_eq_self (hcs : cs.count '"' ≤ 1) : blankLiterals cs = cs := by
  rw [blankLiterals_eq]
  by_cases hmem : '"' ∈ cs
  · obtain ⟨run, rest, rfl, hrun⟩ := List.eq_append_cons_of_mem hmem
    have hrest : '"' ∉ rest := fun h => by
      have hpos := List.count_pos_iff.mpr h
      rw [List.count_append, List.count_cons_self] at hcs
      omega
    rw [List.splitOn_append_cons_self_of_not_mem hrun, List.splitOn_eq_singleton hrest]
    rfl
  · rw [List.splitOn_eq_singleton hmem]
    rfl

/-- Up to a second quote there is a first literal. -/
theorem exists_eq_append_literal (hcs : 1 < cs.count '"') :
    ∃ run inside rest, cs = run ++ '"' :: (inside ++ '"' :: rest) ∧ '"' ∉ run ∧ '"' ∉ inside := by
  have hmem : '"' ∈ cs := List.count_pos_iff.mp (by omega)
  obtain ⟨run, after, rfl, hrun⟩ := List.eq_append_cons_of_mem hmem
  rw [List.count_append, List.count_eq_zero.mpr hrun, Nat.zero_add, List.count_cons_self] at hcs
  have hmem' : '"' ∈ after := List.count_pos_iff.mp (Nat.lt_of_succ_lt_succ hcs)
  obtain ⟨inside, rest, rfl, hinside⟩ := List.eq_append_cons_of_mem hmem'
  exact ⟨run, inside, rest, rfl, hrun, hinside⟩

/-- At most a last quote without a partner is left. -/
theorem count_quote_blankLiterals (cs : List Char) : (blankLiterals cs).count '"' ≤ 1 := by
  induction hn : cs.length using Nat.strong_induction_on generalizing cs with
  | _ n ih =>
    by_cases hcs : cs.count '"' ≤ 1
    · rwa [blankLiterals_eq_self hcs]
    · obtain ⟨run, inside, rest, rfl, hrun, hinside⟩ := exists_eq_append_literal (not_le.mp hcs)
      have hzero := List.count_eq_zero.mpr hrun
      have hlt : rest.length < n := by
        rw [← hn]
        simp only [List.length_append, List.length_cons]
        omega
      rw [blankLiterals_append_literal (hzero ▸ Even.zero) hinside,
        blankLiterals_eq_self (hzero ▸ Nat.zero_le 1), List.count_append, hzero, Nat.zero_add,
        List.count_cons_of_ne (by decide)]
      exact ih _ hlt rest rfl

theorem blankLiterals_blankLiterals (cs : List Char) :
    blankLiterals (blankLiterals cs) = blankLiterals cs :=
  blankLiterals_eq_self (count_quote_blankLiterals cs)

theorem candidates_stripLiterals (expression : String) :
    candidates (stripLiterals expression) = candidates expression := by
  rw [candidates, stripLiterals, String.toList_ofList, blankLiterals_blankLiterals, ← candidates]

/-! ## Names -/

/-- A word in plain letters, digits and underscores with a capital in front and a small letter
somewhere. -/
def isRuleName (w : List Char) : Bool :=
  w.all isNameChar && w.head?.any Char.isUpper && w.any Char.isLower

theorem isNameChar_iff : isNameChar c ↔ c.isUpper ∨ c.isLower ∨ c.isDigit ∨ c = '_' := by
  change (c.isUpper || c.isLower || c.isDigit || decide (c = '_')) = true ↔ _
  simp only [Bool.or_eq_true, decide_eq_true_eq, or_assoc]

theorem not_isLower_of_isUpper (hc : c.isUpper) : ¬c.isLower := by
  intro hlower
  have hupperRange := range_of_isUpper hc
  have hlowerRange := range_of_isLower hlower
  omega

theorem isWordChar_of_isNameChar (hc : isNameChar c) : isWordChar c := by
  refine CharTable.contains_iff.mpr ?_
  rcases isNameChar_iff.mp hc with hc | hc | hc | rfl
  · exact ⟨(0x0041, 0x005A), by decide, range_of_isUpper hc⟩
  · exact ⟨(0x0061, 0x007A), by decide, range_of_isLower hc⟩
  · exact ⟨(0x0030, 0x0039), by decide, range_of_isDigit hc⟩
  · exact ⟨(0x005F, 0x005F), by decide, by decide⟩

/-- The small letter comes after the capital. -/
theorem isRuleName_cons :
    isRuleName (c :: w) ↔ c.isUpper ∧ (∀ d ∈ w, isNameChar d) ∧ ∃ d ∈ w, d.isLower := by
  simp only [isRuleName, List.all_cons, List.head?_cons, Option.any_some, List.any_cons,
    Bool.and_eq_true, Bool.or_eq_true, List.all_eq_true, List.any_eq_true]
  constructor
  · rintro ⟨⟨⟨-, hw⟩, hupper⟩, hlower | hlower⟩
    · exact (not_isLower_of_isUpper hupper hlower).elim
    · exact ⟨hupper, hw, hlower⟩
  · rintro ⟨hupper, hw, hlower⟩
    exact ⟨⟨⟨isNameChar_iff.mpr (.inl hupper), hw⟩, hupper⟩, .inr hlower⟩

theorem isWordChar_of_isRuleName (hw : isRuleName w) : ∀ c ∈ w, isWordChar c := by
  simp only [isRuleName, Bool.and_eq_true, List.all_eq_true] at hw
  exact fun c hc => isWordChar_of_isNameChar (hw.1.1 c hc)

theorem isWordBorder_some_right (hc : isWordChar c) :
    isWordBorder before (some c) ↔ ∀ d ∈ before, ¬isWordChar d := by
  cases before <;> simp [isWordBorder, hc]

theorem isWordBorder_some_left {after : Option Char} (hc : isWordChar c) :
    isWordBorder (some c) after ↔ ∀ d ∈ after, ¬isWordChar d := by
  cases after <;> simp [isWordBorder, hc]

theorem isWordBorder_after_names (hc : isNameChar c) (hrun : ∀ d ∈ run, isNameChar d) :
    isWordBorder (run.getLast?.or (some c)) rest.head? ↔ ∀ d ∈ rest.head?, ¬isWordChar d := by
  cases h : run.getLast? with
  | none => exact isWordBorder_some_left (isWordChar_of_isNameChar hc)
  | some d =>
    exact isWordBorder_some_left (isWordChar_of_isNameChar (hrun d (List.mem_of_getLast? h)))

/-- The pattern fits the words that are spelled like names. -/
theorem fits_ruleName_iff :
    Fits ruleName before found rest ↔
      isRuleName found ∧ (∀ c ∈ before, ¬isWordChar c) ∧ ∀ c ∈ rest.head?, ¬isWordChar c := by
  have hupper : ∀ {c : Char}, c.isUpper → isWordChar c := fun hc =>
    isWordChar_of_isNameChar (isNameChar_iff.mpr (.inl hc))
  simp only [ruleName, fits_wordBorder_iff, fits_one_iff, fits_many_iff, fits_nil_iff]
  constructor
  · rintro ⟨hstart, c, _, rfl, hc, run, _, rfl, hrun, d, _, rfl, hd, run', _, rfl, hrun', hend, rfl⟩
    have hd' : isNameChar d := isNameChar_iff.mpr (.inr (.inl hd))
    refine ⟨isRuleName_cons.mpr ⟨hc, ?_, d, by simp, hd⟩, ?_, ?_⟩
    · simp only [List.forall_mem_append, List.forall_mem_cons]
      exact ⟨hrun, hd', hrun', List.forall_mem_nil _⟩
    · exact (isWordBorder_some_right (hupper hc)).mp hstart
    · exact (isWordBorder_after_names hd' hrun').mp hend
  · rintro ⟨hname, hbefore, hrest⟩
    cases found with
    | nil => cases hname
    | cons c found =>
      obtain ⟨hc, hfound, d, hd, hlower⟩ := isRuleName_cons.mp hname
      obtain ⟨run, run', rfl⟩ := List.append_of_mem hd
      simp only [List.forall_mem_append, List.forall_mem_cons] at hfound
      obtain ⟨hrun, hd', hrun'⟩ := hfound
      have hstart := (isWordBorder_some_right (hupper hc)).mpr hbefore
      have hend := (isWordBorder_after_names hd' hrun').mpr hrest
      exact ⟨hstart, c, _, rfl, hc, run, _, rfl, hrun, d, _, rfl, hlower, run', [],
        (List.append_nil run').symm, hrun', hend, rfl⟩

/-! ## Searching for names -/

/-- The names found in a text behind a character. -/
def namesFrom (before : Option Char) (cs : List Char) : List (List Char) :=
  (ruleName.split before cs).filterMap Sum.getRight?

theorem namesFrom_cons_of_none (h : ruleName.fit before (c :: cs) = none) :
    namesFrom before (c :: cs) = namesFrom (some c) cs := by
  rw [namesFrom, split_cons_of_none h]
  rfl

/-- Behind a word character no name begins. -/
theorem namesFrom_run (hc : isWordChar c) (hrun : ∀ d ∈ run, isWordChar d) (rest : List Char) :
    namesFrom (some c) (run ++ rest) = namesFrom (c :: run).getLast? rest := by
  induction run generalizing c with
  | nil => rfl
  | cons d run ih =>
    obtain ⟨hd, hrun⟩ := List.forall_mem_cons.mp hrun
    have hnone : ruleName.fit (some c) (d :: (run ++ rest)) = none :=
      fit_eq_none fun _ _ _ hfits => (fits_ruleName_iff.mp hfits).2.1 c rfl hc
    rw [List.cons_append, namesFrom_cons_of_none hnone, ih hd hrun, List.getLast?_cons_cons]

theorem namesFrom_cons_of_not (hc : ¬isWordChar c) (before : Option Char) (cs : List Char) :
    namesFrom before (c :: cs) = namesFrom (some c) cs := by
  refine namesFrom_cons_of_none (fit_eq_none fun found rest heq hfits => ?_)
  obtain ⟨hname, -, -⟩ := fits_ruleName_iff.mp hfits
  cases found with
  | nil => cases hname
  | cons d found =>
    obtain rfl := (List.cons.inj heq).1
    exact hc (isWordChar_of_isRuleName hname _ List.mem_cons_self)

/-- What is in front does not matter where no word begins. -/
theorem namesFrom_congr (hrest : ∀ c ∈ rest.head?, ¬isWordChar c) (before other : Option Char) :
    namesFrom before rest = namesFrom other rest := by
  cases rest with
  | nil => rw [namesFrom, namesFrom, split, split]
  | cons c rest =>
    rw [namesFrom_cons_of_not (hrest c rfl), namesFrom_cons_of_not (hrest c rfl)]

/-- A word is found as a whole or not at all. -/
theorem namesFrom_word (H : IsWord [] w rest) (hbefore : ∀ c ∈ before, ¬isWordChar c) :
    namesFrom before (w ++ rest) = [w].filter isRuleName ++ namesFrom none rest := by
  have hwhole : ∀ found rest', w ++ rest = found ++ rest' → Fits ruleName before found rest' →
      found = w := fun found rest' heq hfits => by
    obtain ⟨hname, -, hrest'⟩ := fits_ruleName_iff.mp hfits
    have hrun := takeWhile_run (isWordChar_of_isRuleName hname) hrest'
    rw [← heq, takeWhile_run H.all H.back] at hrun
    exact hrun.symm
  by_cases hw : isRuleName w
  · have hfit := fit_eq_of_unique (fits_ruleName_iff.mpr ⟨hw, hbefore, H.back⟩)
      fun found rest' heq hfits => congrArg List.length (hwhole found rest' heq hfits)
    rw [namesFrom, split_append H.ne_nil hfit, List.filter_cons_of_pos hw]
    exact congrArg (w :: ·) (namesFrom_congr H.back _ _)
  · obtain ⟨c, run, rfl⟩ := List.exists_cons_of_ne_nil H.ne_nil
    obtain ⟨hc, hrun⟩ := List.forall_mem_cons.mp H.all
    have hnone : ruleName.fit before (c :: (run ++ rest)) = none := by
      refine fit_eq_none fun found rest' heq hfits => hw ?_
      rw [← hwhole found rest' heq hfits]
      exact (fits_ruleName_iff.mp hfits).1
    rw [List.cons_append, namesFrom_cons_of_none hnone, namesFrom_run hc hrun,
      List.filter_cons_of_neg hw]
    exact namesFrom_congr H.back _ _

theorem namesFrom_eq (hbefore : ∀ c ∈ before, ¬isWordChar c) (cs : List Char) :
    namesFrom before cs = (words cs).filter isRuleName := by
  induction cs using words.induct generalizing before with
  | case1 =>
    rw [words, namesFrom, split]
    rfl
  | case2 c cs hc ih =>
    have hsplit : c :: cs = c :: cs.takeWhile isWordChar ++ cs.dropWhile isWordChar := by
      rw [List.cons_append, List.takeWhile_append_dropWhile]
    have hrest : namesFrom none (cs.dropWhile isWordChar) = _ :=
      ih fun _ h => absurd h (Option.not_mem_none _)
    rw [words, if_pos hc, hsplit, namesFrom_word (isWord_takeWhile hc cs) hbefore, hrest,
      ← List.filter_append, List.singleton_append]
  | case3 c cs hc ih =>
    rw [words, if_neg hc, namesFrom_cons_of_not hc]
    exact ih fun d hd => Option.some.inj hd ▸ hc

theorem findAll_ruleName (cs : List Char) :
    ruleName.findAll cs = (words cs).filter isRuleName :=
  namesFrom_eq (fun _ h => absurd h (Option.not_mem_none _)) cs

/-! ## Names in a row -/

theorem findAll_ruleName_append_cons (hc : ¬isWordChar c) (cs rest : List Char) :
    ruleName.findAll (cs ++ c :: rest) = ruleName.findAll cs ++ ruleName.findAll rest := by
  simp only [findAll_ruleName, words_append_cons hc, List.filter_append]

theorem findAll_ruleName_eq_singleton (hw : isRuleName w) : ruleName.findAll w = [w] := by
  have hne : w ≠ [] := by
    rintro rfl
    cases hw
  rw [findAll_ruleName, words_eq_singleton hne (isWordChar_of_isRuleName hw),
    List.filter_cons_of_pos hw, List.filter_nil]

/-- Without a small letter there is no name. -/
theorem findAll_ruleName_eq_nil (hcs : cs.any Char.isLower = false) :
    ruleName.findAll cs = [] := by
  rw [findAll_ruleName, List.filter_eq_nil_iff]
  intro w hw hname
  simp only [isRuleName, Bool.and_eq_true, List.any_eq_true] at hname
  obtain ⟨c, hc, hlower⟩ := hname.2
  exact List.any_eq_false.mp hcs c (subset_of_mem_words hw hc) hlower

/-! ## The candidates -/

theorem mem_candidates {expression name : String} :
    name ∈ candidates expression ↔
      name.toList ∈ ruleName.findAll (blankLiterals expression.toList) := by
  rw [candidates, List.mem_eraseDups, List.mem_map]
  constructor
  · rintro ⟨w, hw, rfl⟩
    rwa [String.toList_ofList]
  · intro hname
    exact ⟨_, hname, String.ofList_toList⟩

/-- The words of a text that are spelled like names of rules, each with its position. -/
def placedNames (cs : List Char) : List (Nat × String) :=
  ((placedWords 0 cs).filter fun p => isRuleName p.2).map fun p => (p.1, .ofList p.2)

theorem map_snd_placedNames (cs : List Char) :
    (placedNames cs).map (·.2) = ((words cs).filter isRuleName).map String.ofList := by
  rw [placedNames, List.map_map, ← map_snd_placedWords 0, List.filter_map, List.map_map]
  rfl

theorem mem_placedNames {i : Nat} {name : String} :
    (i, name) ∈ placedNames cs ↔ isRuleName name.toList ∧ WordAt cs i name.toList := by
  simp only [placedNames, List.mem_map, List.mem_filter, Prod.exists, Prod.mk.injEq]
  constructor
  · rintro ⟨i, w, ⟨hmem, hname⟩, rfl, rfl⟩
    obtain ⟨j, rfl, hat⟩ := mem_placedWords.mp hmem
    rw [String.toList_ofList, Nat.zero_add]
    exact ⟨hname, hat⟩
  · rintro ⟨hname, hat⟩
    exact ⟨i, _, ⟨mem_placedWords.mpr ⟨i, (Nat.zero_add i).symm, hat⟩, hname⟩, rfl,
      String.ofList_toList⟩

theorem pairwise_placedNames (cs : List Char) :
    (placedNames cs).Pairwise fun a b => a.1 < b.1 :=
  List.pairwise_map.mpr ((pairwise_placedWords 0 cs).filter _)

/-- The words of a text that are spelled like names of rules, each once, in the order in which they
come up. -/
structure ListsNames (cs : List Char) (names : List String) : Prop where
  mem_iff {name : String} :
    name ∈ names ↔ isRuleName name.toList ∧ ∃ i, WordAt cs i name.toList
  nodup : names.Nodup
  /-- A name comes up in front of all appearances of the names listed after it. -/
  pairwise_first : names.Pairwise fun a b =>
    ∃ i, WordAt cs i a.toList ∧ ∀ j, WordAt cs j b.toList → i < j

theorem listsNames_placedNames (cs : List Char) :
    ListsNames cs ((placedNames cs).map (·.2)).eraseDups where
  mem_iff {name} := by
    simp only [List.mem_eraseDups, List.mem_map, Prod.exists, exists_eq_right, mem_placedNames,
      exists_and_left]
  nodup := nodup_eraseDups _
  pairwise_first := by
    have hascending : (placedNames cs).Pairwise fun a b => a.1 ≤ b.1 :=
      (pairwise_placedNames cs).imp Nat.le_of_lt
    rw [eraseDups_map, List.pairwise_map]
    refine ((pairwise_placedNames cs).sublist (sublist_eraseDupsBy _)).imp_of_mem ?_
    rintro ⟨i, a⟩ ⟨j, b⟩ ha hb hlt
    obtain ⟨hname, -⟩ := mem_placedNames.mp ((sublist_eraseDupsBy _).subset hb)
    refine ⟨i, (mem_placedNames.mp ((sublist_eraseDupsBy _).subset ha)).2, fun k hk => ?_⟩
    -- Of the appearances of a name the one that is kept is the first.
    have hfirst : j ≤ k := le_of_find?_eq_some hascending (mem_eraseDupsBy_key _ |>.mp hb)
      (mem_placedNames.mpr ⟨hname, hk⟩) (decide_eq_true rfl)
    exact lt_of_lt_of_le hlt hfirst

/-- **The candidates of an expression are the names of its unquoted part.** -/
theorem listsNames_candidates (expression : String) :
    stripLiterals expression = .ofList (joinUnquoted (expression.toList.splitOn '"')) ∧
      ListsNames (stripLiterals expression).toList (candidates expression) := by
  have hstrip : (stripLiterals expression).toList = blankLiterals expression.toList :=
    String.toList_ofList
  refine ⟨congrArg String.ofList (blankLiterals_eq _), ?_⟩
  rw [hstrip, candidates, findAll_ruleName, ← map_snd_placedNames]
  exact listsNames_placedNames _

end RulePyramid.Expression
