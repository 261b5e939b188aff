import RulePyramid.Json.Number
import RulePyramid.Json.Parser
import RulePyramid.Proofs.Text.Word

/-!
Numbers are read as they are spelled (`numeral_spelling`), and integers as they were written. The
digits of an integer are a numeral (`numeral_toString`), and this numeral stands for the integer
itself if it has at most sixty-four bits (`Numeral.number_ofInt`). All integers that come from
numerals are of that size (`Number.isExact_of_number`).
-/

namespace RulePyramid.Json

variable {cs rest : List Char} {c : Char} {n : Nat}

/-! ## Digits -/

/-- A text that no number goes on with. -/
def EndsNumber (rest : List Char) : Prop :=
  ∀ c ∈ rest.head?, ¬c.isDigit ∧ c ≠ '.' ∧ c ≠ 'e' ∧ c ≠ 'E'

/-- A text that no digits go on with. -/
def EndsDigits (rest : List Char) : Prop := ∀ c ∈ rest.head?, ¬c.isDigit

theorem EndsNumber.endsDigits (h : EndsNumber rest) : EndsDigits rest := fun c hc => (h c hc).1

theorem endsDigits_cons (hc : ¬c.isDigit) (cs : List Char) : EndsDigits (c :: cs) := by
  rintro d ⟨⟩
  exact hc

theorem digits_append (hcs : ∀ c ∈ cs, c.isDigit) (hrest : EndsDigits rest) :
    digits (cs ++ rest) = (cs.map digitValue, rest) := by
  rw [digits, Text.takeWhile_run hcs hrest, Text.dropWhile_run hcs hrest]

theorem isDigit_of_mem_toDigits (hc : c ∈ Nat.toDigits 10 n) : c.isDigit :=
  Nat.isDigit_of_mem_toDigits (by decide) (by decide) hc

theorem eq_zero_of_digitValue (hc : c.isDigit) (h : digitValue c = 0) : c = '0' := by
  have hlow := (Text.range_of_isDigit hc).1
  have hhigh : c.toNat - 48 = 0 := h
  have hnat : c.toNat = '0'.toNat := by
    change c.toNat = 48
    omega
  exact Char.toNat_inj.mp hnat

/-- No zero stands in front of a number. -/
theorem head?_toDigits_ne (hn : 0 < n) : (Nat.toDigits 10 n).head? ≠ some '0' := by
  induction n using Nat.strongRecOn with
  | ind n ih =>
    by_cases hlt : n < 10
    · rw [Nat.toDigits_of_lt_base hlt, List.head?_cons]
      intro h
      have hzero := Nat.digitChar_eq_zero.mp (Option.some.inj h)
      omega
    · obtain ⟨c, cs, hcs⟩ := List.exists_cons_of_ne_nil (@Nat.toDigits_ne_nil (n / 10) 10)
      have hc := ih (n / 10) (by omega) (by omega)
      rw [Nat.toDigits_eq_if (by decide), if_neg hlt]
      rw [hcs] at hc ⊢
      exact hc

/-- At least one digit. -/
structure IsDigits (cs : List Char) : Prop where
  ne_nil : cs ≠ []
  isDigit : ∀ c ∈ cs, c.isDigit

theorem isDigits_toDigits (n : Nat) : IsDigits (Nat.toDigits 10 n) :=
  ⟨Nat.toDigits_ne_nil, fun _ hc => isDigit_of_mem_toDigits hc⟩

theorem isDigits_zero : IsDigits ['0'] :=
  ⟨List.cons_ne_nil _ _, List.forall_mem_singleton.mpr rfl⟩

theorem someDigits_append (hcs : IsDigits cs) (hrest : EndsDigits rest) :
    someDigits (cs ++ rest) = .ok (cs.map digitValue, rest) := by
  obtain ⟨c, cs, rfl⟩ := List.exists_cons_of_ne_nil hcs.ne_nil
  rw [someDigits, digits_append hcs.isDigit hrest]
  rfl

/-- The digits before the point may begin with a zero only if there are no others. -/
theorem wholePart_append (hcs : IsDigits cs) (hzero : cs.head? = some '0' → cs.length = 1)
    (hrest : EndsDigits rest) : wholePart (cs ++ rest) = .ok (cs.map digitValue, rest) := by
  rw [wholePart, someDigits_append hcs hrest]
  obtain ⟨c, cs, rfl⟩ := List.exists_cons_of_ne_nil hcs.ne_nil
  simp only [bind, Except.bind]
  split
  · next heq =>
    obtain ⟨hhead, htail⟩ := List.cons.inj (Prod.mk.inj heq).1
    have hc := eq_zero_of_digitValue (hcs.isDigit c List.mem_cons_self) hhead
    have hlength := hzero (congrArg some hc)
    rw [List.length_eq_zero_iff.mp (Nat.succ.inj hlength)] at htail
    cases htail
  · rfl

theorem fractionPart_of_endsNumber (hrest : EndsNumber rest) :
    fractionPart rest = .ok (none, rest) := by
  cases rest with
  | nil => rfl
  | cons c rest =>
    rw [fractionPart]
    rintro cs heq
    exact (hrest c rfl).2.1 (List.cons.inj heq).1

theorem powerPart_of_endsNumber (hrest : EndsNumber rest) :
    powerPart rest = .ok (none, rest) := by
  cases rest with
  | nil => rfl
  | cons c rest =>
    obtain ⟨-, -, he, hE⟩ := hrest c rfl
    rw [powerPart.eq_def]
    simp only [he, hE, decide_false, Bool.or_self, Bool.false_eq_true, if_false]

/-! ## Spellings -/

/-- The digits before the point, those after it, and those of the power of ten, whose sign is true
for a negative one. -/
structure Spelling where
  whole : List Char
  fraction : Option (List Char)
  power : Option (Bool × List Char)

namespace Spelling

variable {s : Spelling}

def fractionChars : Option (List Char) → List Char
  | none => []
  | some cs => '.' :: cs

def powerChars : Option (Bool × List Char) → List Char
  | none => []
  | some (down, cs) => 'e' :: (if down then '-' else '+') :: cs

def chars (s : Spelling) : List Char := s.whole ++ (fractionChars s.fraction ++ powerChars s.power)

/-- The numeral that is spelled. -/
def numeral (negative : Bool) (s : Spelling) : Numeral where
  negative := negative
  whole := s.whole.map digitValue
  fraction := s.fraction.map (·.map digitValue)
  power := s.power.map fun (down, cs) => (down, cs.map digitValue)

/-- The spellings of the grammar. -/
structure Valid (s : Spelling) : Prop where
  whole : IsDigits s.whole
  zero : s.whole.head? = some '0' → s.whole.length = 1
  fraction : ∀ cs ∈ s.fraction, IsDigits cs
  power : ∀ p ∈ s.power, IsDigits p.2

theorem endsDigits_powerChars (hrest : EndsNumber rest) (power : Option (Bool × List Char)) :
    EndsDigits (powerChars power ++ rest) := by
  cases power with
  | none => exact hrest.endsDigits
  | some => exact endsDigits_cons (by decide) _

theorem powerPart_powerChars {power : Option (Bool × List Char)}
    (h : ∀ p ∈ power, IsDigits p.2) (hrest : EndsNumber rest) :
    powerPart (powerChars power ++ rest) =
      .ok (power.map fun (down, cs) => (down, cs.map digitValue), rest) := by
  cases power with
  | none => exact powerPart_of_endsNumber hrest
  | some p =>
    obtain ⟨down, cs⟩ := p
    have hdigits := someDigits_append (h _ rfl) hrest.endsDigits
    cases down <;> simp [powerChars, powerPart, hdigits, bind, Except.bind, pure, Except.pure]

theorem fractionPart_fractionChars {fraction : Option (List Char)}
    (h : ∀ cs ∈ fraction, IsDigits cs) (power : Option (Bool × List Char))
    (hrest : EndsNumber rest) :
    fractionPart (fractionChars fraction ++ (powerChars power ++ rest)) =
      .ok (fraction.map (·.map digitValue), powerChars power ++ rest) := by
  cases fraction with
  | none =>
    cases power with
    | none => exact fractionPart_of_endsNumber hrest
    | some => rfl
  | some cs =>
    have hdigits := someDigits_append (h _ rfl) (endsDigits_powerChars hrest power)
    simp [fractionChars, fractionPart, hdigits, bind, Except.bind, pure, Except.pure]

end Spelling

/-- A number is read as it is spelled, with a sign or without. -/
theorem numeral_spelling {s : Spelling} (hs : s.Valid) (hrest : EndsNumber rest) :
    numeral ('-' :: (s.chars ++ rest)) = .ok (s.numeral true, rest) ∧
      numeral (s.chars ++ rest) = .ok (s.numeral false, rest) := by
  have hends : EndsDigits
      (Spelling.fractionChars s.fraction ++ (Spelling.powerChars s.power ++ rest)) := by
    cases s.fraction with
    | none => exact Spelling.endsDigits_powerChars hrest _
    | some => exact endsDigits_cons (by decide) _
  have hwhole := wholePart_append hs.whole hs.zero hends
  have hfraction := Spelling.fractionPart_fractionChars hs.fraction s.power hrest
  have hpower := Spelling.powerPart_powerChars hs.power hrest
  rw [Spelling.chars, List.append_assoc, List.append_assoc]
  have hsign : ∀ cs, s.whole ++ (Spelling.fractionChars s.fraction ++
      (Spelling.powerChars s.power ++ rest)) ≠ '-' :: cs := by
    intro cs heq
    obtain ⟨c, ds, hc⟩ := List.exists_cons_of_ne_nil hs.whole.ne_nil
    have hdigit := hs.whole.isDigit c (hc ▸ List.mem_cons_self)
    rw [hc] at heq
    rw [(List.cons.inj heq).1] at hdigit
    exact absurd hdigit (by decide)
  -- `hsign` lets the second equation of the sign apply
  constructor <;>
    simp [numeral, hwhole, hfraction, hpower, bind, Except.bind, pure, Except.pure,
      Spelling.numeral]

/-! ## Integers -/

/-- The numeral that an integer is written as. -/
def Numeral.ofInt (n : Int) : Numeral :=
  ⟨n < 0, (Nat.toDigits 10 n.natAbs).map digitValue, none, none⟩

theorem toList_toString (n : Int) :
    (toString n).toList = (if n < 0 then ['-'] else []) ++ Nat.toDigits 10 n.natAbs := by
  rw [Int.toString_eq_repr, Int.repr_eq_if]
  split
  · next hn =>
    have habs : n.toNat = n.natAbs := by omega
    rw [if_neg (Int.not_lt.mpr hn), Nat.repr_eq_ofList_toDigits, String.toList_ofList, habs,
      List.nil_append]
  · next hn =>
    have habs : (-n).toNat = n.natAbs := by omega
    rw [if_pos (Int.not_le.mp hn), Nat.repr_eq_ofList_toDigits, String.toList_append, habs]
    exact congrArg ('-' :: ·) String.toList_ofList

theorem valid_toDigits (n : Nat) : Spelling.Valid ⟨Nat.toDigits 10 n, none, none⟩ where
  whole := isDigits_toDigits n
  zero hzero := by
    rcases Nat.eq_zero_or_pos n with rfl | hn
    · rfl
    · exact absurd hzero (head?_toDigits_ne hn)
  fraction _ h := nomatch h
  power _ h := nomatch h

theorem numeral_toString (n : Int) (hrest : EndsNumber rest) :
    numeral ((toString n).toList ++ rest) = .ok (.ofInt n, rest) := by
  obtain ⟨hneg, hpos⟩ := numeral_spelling (valid_toDigits n.natAbs) hrest
  simp only [Spelling.chars, Spelling.fractionChars, Spelling.powerChars, List.append_nil]
    at hneg hpos
  rw [toList_toString, Numeral.ofInt]
  by_cases hn : n < 0
  · rw [if_pos hn, List.append_assoc, List.singleton_append, hneg, decide_eq_true hn]
    rfl
  · rw [if_neg hn, List.nil_append, hpos, decide_eq_false hn]
    rfl

/-- A character that a number begins with. -/
def BeginsNumber (c : Char) : Prop := c = '-' ∨ c.isDigit

theorem BeginsNumber.ne {d : Char} (hc : BeginsNumber c) (hminus : d ≠ '-') (hdigit : ¬d.isDigit) :
    c ≠ d := by
  rintro rfl
  rcases hc with hc | hc
  · exact hminus hc
  · exact hdigit hc

theorem exists_toString_eq_cons (n : Int) :
    ∃ c cs, (toString n).toList = c :: cs ∧ BeginsNumber c := by
  rw [toList_toString]
  by_cases hn : n < 0
  · rw [if_pos hn]
    exact ⟨'-', _, rfl, .inl rfl⟩
  · obtain ⟨c, cs, hcs⟩ := List.exists_cons_of_ne_nil (@Nat.toDigits_ne_nil n.natAbs 10)
    rw [if_neg hn, hcs]
    exact ⟨c, cs, rfl, .inr (isDigit_of_mem_toDigits (hcs ▸ List.mem_cons_self))⟩

theorem BeginsNumber.isSpace_eq_false (hc : BeginsNumber c) : isSpace c = false := by
  have hspaces : ∀ d ∈ [' ', '\n', '\t', '\r'], c ≠ d := fun d hd => by
    simp only [List.mem_cons, List.not_mem_nil, or_false] at hd
    rcases hd with rfl | rfl | rfl | rfl <;> exact hc.ne (by decide) (by decide)
  simpa [isSpace, and_assoc] using hspaces

/-- A numeral that stands for a value. -/
theorem value_of_numeral (fuel : Nat) {m : Numeral} (hc : BeginsNumber c)
    (h : numeral (c :: cs) = .ok (m, rest)) :
    value (fuel + 1) (c :: cs) = (.number m, .ok rest) := by
  have hne : ∀ d ∈ ['\x7b', '[', '"', 'n', 't', 'f'], c ≠ d := fun d hd => by
    simp only [List.mem_cons, List.not_mem_nil, or_false] at hd
    rcases hd with rfl | rfl | rfl | rfl | rfl | rfl <;> exact hc.ne (by decide) (by decide)
  simp only [List.forall_mem_cons] at hne
  have hfirst : (decide (c = '-') || c.isDigit) = true := by
    rcases hc with rfl | hc
    · rfl
    · rw [hc, Bool.or_true]
  rw [value, skipSpace, List.dropWhile_cons_of_neg (by rw [hc.isSpace_eq_false]; decide)]
  simp only [hne, hfirst, if_true, if_false, number, h]
  rfl

/-- An integer that stands for a value. -/
theorem value_toString (fuel : Nat) (n : Int) (hrest : EndsNumber rest) :
    value (fuel + 1) ((toString n).toList ++ rest) = (.number (.ofInt n), .ok rest) := by
  have hnumeral := numeral_toString n hrest
  obtain ⟨c, cs, hcs, hc⟩ := exists_toString_eq_cons n
  rw [hcs, List.cons_append] at hnumeral ⊢
  exact value_of_numeral fuel hc hnumeral

/-! ## Numbers -/

namespace Number

/-- A signed or unsigned integer of sixty-four bits. -/
def IsExact (n : Int) : Prop := -((wordSize / 2 : Nat) : Int) ≤ n ∧ n < (wordSize : Int)

theorem appendDigits_lt (hn : n < wordSize) (ds : List Nat) : (appendDigits n ds).1 < wordSize := by
  induction ds generalizing n with
  | nil => exact hn
  | cons d ds ih =>
    rw [appendDigits]
    split
    · next hd => exact ih hd
    · exact hn

theorem le_foldl_digits (n : Nat) (ds : List Nat) : n ≤ ds.foldl (fun n d => n * 10 + d) n := by
  induction ds generalizing n with
  | nil => exact Nat.le_refl n
  | cons d ds ih =>
    have hstep : n ≤ n * 10 + d := by omega
    exact Nat.le_trans hstep (ih _)

theorem appendDigits_of_lt {ds : List Nat} (h : ds.foldl (fun n d => n * 10 + d) n < wordSize) :
    appendDigits n ds = (ds.foldl (fun n d => n * 10 + d) n, ds.length) := by
  induction ds generalizing n with
  | nil => rfl
  | cons d ds ih =>
    have hd : n * 10 + d < wordSize := Nat.lt_of_le_of_lt (le_foldl_digits _ ds) h
    rw [appendDigits, if_pos hd, ih h]
    rfl

end Number

/-- The digits of a number stand for it. -/
theorem foldl_digitValue (n : Nat) :
    ((Nat.toDigits 10 n).map digitValue).foldl (fun n d => n * 10 + d) 0 = n := by
  have hvalue : Nat.ofDigitChars 10 (Nat.toDigits 10 n) 0 = n := Nat.ofDigitChars_ten_toDigits
  rw [List.foldl_map]
  simpa only [Nat.ofDigitChars, digitValue, Nat.mul_comm] using hvalue

/-- An integer of at most sixty-four bits is read as it was written. -/
theorem Numeral.number_ofInt {n : Int} (hn : Number.IsExact n) :
    (Numeral.ofInt n).number = .ok (.integer n) := by
  obtain ⟨hlow, hhigh⟩ := hn
  have habs : n.natAbs < Number.wordSize := by
    simp only [Number.wordSize] at hlow hhigh ⊢
    omega
  have happend : Number.appendDigits 0 ((Nat.toDigits 10 n.natAbs).map digitValue) =
      (n.natAbs, ((Nat.toDigits 10 n.natAbs).map digitValue).length) := by
    have hdigits := foldl_digitValue n.natAbs
    rw [Number.appendDigits_of_lt (hdigits.symm ▸ habs), hdigits]
  simp only [Numeral.number, Numeral.ofInt, happend, Nat.sub_self]
  by_cases hneg : n < 0
  · have hword : n.natAbs ≠ 0 ∧ n.natAbs ≤ Number.wordSize / 2 := by omega
    have hvalue : -(n.natAbs : Int) = n := by omega
    simp only [hneg, hword, hvalue, decide_true, Bool.not_true, Bool.and_false, Bool.false_eq_true,
      if_false, Bool.and_self, if_true, ne_eq, not_false_eq_true]
    rfl
  · have hvalue : (n.natAbs : Int) = n := by omega
    simp only [hneg, hvalue, decide_true, decide_false, Bool.not_false, Bool.and_self, if_true]
    rfl

theorem Number.isExact_of_number {m : Numeral} {n : Int} (h : m.number = .ok (.integer n)) :
    IsExact n := by
  have hreal : ∀ x : Except Fault Double, (do return Number.real (← x)) ≠ .ok (.integer n) := by
    intro x hx
    cases x <;> cases hx
  have hlt : (appendDigits 0 m.whole).1 < wordSize := appendDigits_lt (by decide) m.whole
  obtain ⟨negative, whole, fraction, power⟩ := m
  simp only [Numeral.number] at h hlt
  generalize appendDigits 0 whole = taken at h hlt
  obtain ⟨significand, taken⟩ := taken
  cases fraction with
  | some => exact (hreal _ h).elim
  | none =>
    cases power with
    | some => exact (hreal _ h).elim
    | none =>
      simp only at h hlt
      split at h
      · cases h
        simp only [IsExact]
        omega
      · split at h
        · next hword =>
          cases h
          simp only [Bool.and_eq_true, decide_eq_true_eq] at hword
          simp only [IsExact]
          omega
        · exact (hreal _ h).elim

end RulePyramid.Json
