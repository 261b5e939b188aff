import RulePyramid.Json.Printer
import RulePyramid.Proofs.Binary.Shortest
import RulePyramid.Proofs.Json.Numbers

/-!
How numbers are spelled, and what their spellings stand for. The text of a number is a spelling of
the grammar (`toList_finiteText`, `valid_spelling`), so that it is read as the form of the number
(`value_numberText`). The digits of the spelling are those of the shortest decimal, or these with
zeros up to the point and one after it (`Spelling.spells_spelling`), and a spelling with a point or
a power of ten becomes a double (`Spelling.number_numeral`).
-/

namespace RulePyramid

open Json (Spelling IsDigits isDigits_zero digitValue)

namespace Decimal

variable {cs : List Char} {style : Style} {magnitude : Int} {d : Decimal}

def zeros (k : Nat) : List Char := List.replicate k '0'

/-- The spelling without a power of ten. -/
def plainSpelling (digits : List Char) (magnitude : Int) : Spelling :=
  if magnitude < 0 then ⟨['0'], some (zeros (-magnitude - 1).toNat ++ digits), none⟩
  else
    let whole := magnitude.toNat + 1
    if digits.length ≤ whole then ⟨digits ++ zeros (whole - digits.length), some ['0'], none⟩
    else ⟨digits.take whole, some (digits.drop whole), none⟩

/-- The spelling with one digit before the point. -/
def scientificSpelling (digits : List Char) (magnitude : Int) : Spelling where
  whole := digits.take 1
  fraction := if digits.length = 1 then none else some (digits.drop 1)
  power := some (magnitude < 0, Nat.toDigits 10 magnitude.natAbs)

def spelling (style : Style) (d : Decimal) : Spelling :=
  let digits := Nat.toDigits 10 d.digits
  let magnitude := d.exponent + digits.length - 1
  if style.plain magnitude then plainSpelling digits magnitude
  else scientificSpelling digits magnitude

theorem plainChars_eq (hpoint : style.keepPoint = true) (cs : List Char) (magnitude : Int) :
    plainChars style cs magnitude = (plainSpelling cs magnitude).chars := by
  rw [plainChars, plainSpelling]
  split
  · simp [Spelling.chars, Spelling.fractionChars, Spelling.powerChars, zeros]
  · dsimp only
    split
    · simp [Spelling.chars, Spelling.fractionChars, Spelling.powerChars, zeros]
    · simp [Spelling.chars, Spelling.fractionChars, Spelling.powerChars]

theorem scientificChars_eq (hcs : cs ≠ []) (magnitude : Int) :
    scientificChars cs magnitude = (scientificSpelling cs magnitude).chars := by
  match cs, hcs with
  | [d], _ =>
    simp [scientificChars, scientificSpelling, Spelling.chars, Spelling.fractionChars,
      Spelling.powerChars]
  | d :: d' :: rest, _ =>
    simp [scientificChars, scientificSpelling, Spelling.chars, Spelling.fractionChars,
      Spelling.powerChars]

theorem chars_eq (hpoint : style.keepPoint = true) (d : Decimal) :
    d.chars style = (d.spelling style).chars := by
  simp only [chars, spelling]
  split
  · exact plainChars_eq hpoint _ _
  · exact scientificChars_eq Nat.toDigits_ne_nil _

/-! ## The grammar -/

theorem isDigits_append (h : IsDigits cs) {ds : List Char} (hds : ∀ c ∈ ds, c.isDigit) :
    IsDigits (cs ++ ds) ∧ IsDigits (ds ++ cs) := by
  refine ⟨⟨by simp [h.ne_nil], fun c hc => ?_⟩, ⟨by simp [h.ne_nil], fun c hc => ?_⟩⟩ <;>
    rcases List.mem_append.mp hc with hc | hc
  · exact h.isDigit c hc
  · exact hds c hc
  · exact hds c hc
  · exact h.isDigit c hc

theorem isDigit_of_mem_zeros {k : Nat} : ∀ c ∈ zeros k, c.isDigit := fun c hc => by
  rw [List.eq_of_mem_replicate hc]
  rfl

/-- A row of digits that spells a number of its own. -/
structure Leads (cs : List Char) : Prop extends IsDigits cs where
  head_ne : cs.head? ≠ some '0'

theorem valid_plainSpelling (h : Leads cs) (magnitude : Int) :
    (plainSpelling cs magnitude).Valid := by
  obtain ⟨c, ds, rfl⟩ := List.exists_cons_of_ne_nil h.ne_nil
  rw [plainSpelling]
  split
  · refine ⟨isDigits_zero, fun _ => rfl, ?_, nofun⟩
    rintro fs ⟨⟩
    exact (isDigits_append h.toIsDigits isDigit_of_mem_zeros).2
  · dsimp only
    split
    · refine ⟨(isDigits_append h.toIsDigits isDigit_of_mem_zeros).1, fun hhead => ?_, ?_, nofun⟩
      · exact absurd hhead h.head_ne
      · rintro fs ⟨⟩
        exact isDigits_zero
    · refine ⟨⟨List.cons_ne_nil _ _, fun c hc => h.isDigit c (List.mem_of_mem_take hc)⟩,
        fun hhead => absurd hhead h.head_ne, ?_, nofun⟩
      rintro fs ⟨⟩
      refine ⟨fun hnil => ?_, fun c hc => h.isDigit c (List.mem_of_mem_drop hc)⟩
      have hdrop := List.drop_eq_nil_iff.mp hnil
      omega

theorem valid_scientificSpelling (h : Leads cs) (magnitude : Int) :
    (scientificSpelling cs magnitude).Valid := by
  obtain ⟨c, ds, rfl⟩ := List.exists_cons_of_ne_nil h.ne_nil
  refine ⟨⟨List.cons_ne_nil _ _, fun c hc => h.isDigit c (List.mem_of_mem_take hc)⟩,
    fun _ => rfl, fun fs hfs => ?_, ?_⟩
  · rw [scientificSpelling] at hfs
    dsimp only at hfs
    split at hfs
    · cases hfs
    · cases hfs
      refine ⟨fun hnil => ?_, fun c hc => h.isDigit c (List.mem_of_mem_drop hc)⟩
      have hdrop := List.drop_eq_nil_iff.mp hnil
      simp only [List.length_cons] at *
      omega
  · rintro p ⟨⟩
    exact Json.isDigits_toDigits _

theorem leads_toDigits {n : Nat} (hn : 0 < n) : Leads (Nat.toDigits 10 n) where
  toIsDigits := Json.isDigits_toDigits n
  head_ne := Json.head?_toDigits_ne hn

theorem valid_spelling (style : Style) (hd : 0 < d.digits) : (d.spelling style).Valid := by
  simp only [spelling]
  split
  · exact valid_plainSpelling (leads_toDigits hd) _
  · exact valid_scientificSpelling (leads_toDigits hd) _

end Decimal

namespace Json.Spelling

variable {s : Spelling} {cs ds : List Char} {k : Nat}

/-! ## Numbers -/

/-- The number that digits stand for. -/
def digitsNumber (cs : List Char) : Nat := Number.digitsValue (cs.map digitValue)

theorem digitsNumber_toDigits (n : Nat) : digitsNumber (Nat.toDigits 10 n) = n :=
  foldl_digitValue n

theorem digitsNumber_append_zeros (cs : List Char) (k : Nat) :
    digitsNumber (cs ++ Decimal.zeros k) = digitsNumber cs * 10 ^ k := by
  induction k with
  | zero => rw [Decimal.zeros, List.replicate_zero, List.append_nil, Nat.pow_zero, Nat.mul_one]
  | succ k ih =>
    have hsplit : cs ++ Decimal.zeros (k + 1) = cs ++ Decimal.zeros k ++ ['0'] := by
      simp [Decimal.zeros, List.replicate_succ']
    rw [hsplit, digitsNumber, Number.digitsValue, List.map_append, List.foldl_append]
    change digitsNumber (cs ++ Decimal.zeros k) * 10 + 0 = _
    rw [ih, Nat.pow_succ, Nat.mul_assoc, Nat.add_zero]

theorem digitsNumber_zeros_append (k : Nat) (cs : List Char) :
    digitsNumber (Decimal.zeros k ++ cs) = digitsNumber cs := by
  induction k with
  | zero => rfl
  | succ k ih => exact ih

/-- All digits as one number. -/
def significand (s : Spelling) : Nat := digitsNumber (s.whole ++ s.fraction.getD [])

def powerShift : Option (Bool × List Char) → Int
  | none => 0
  | some (down, cs) => if down then -digitsNumber cs else digitsNumber cs

/-- The power of ten of the last digit. -/
def shift (s : Spelling) : Int := -((s.fraction.getD []).length : Int) + powerShift s.power

theorem appendDigits_append (n : Nat) (ds es : List Nat)
    (h : (ds ++ es).foldl (fun n d => n * 10 + d) n < Number.wordSize) :
    Number.appendDigits n ds = (ds.foldl (fun n d => n * 10 + d) n, ds.length) ∧
      Number.appendDigits (ds.foldl (fun n d => n * 10 + d) n) es =
        ((ds ++ es).foldl (fun n d => n * 10 + d) n, es.length) := by
  rw [List.foldl_append] at h ⊢
  exact ⟨Number.appendDigits_of_lt ((Number.le_foldl_digits _ es).trans_lt h),
    Number.appendDigits_of_lt h⟩

theorem bind_pure_eq_map {α β : Type} (x : Except Fault α) (f : α → β) :
    (do return f (← x)) = x.map f :=
  bind_pure_comp f x

theorem doubleOf_eq (negative : Bool) (n : Nat) (k : Int)
    {power : Option (Bool × List Char)}
    (hpower : ∀ p ∈ power, digitsNumber p.2 < Number.powerLimit) :
    Number.doubleOf negative n k (power.map fun (down, cs) => (down, cs.map digitValue)) =
      (Number.scale (.ofNat n) (k + powerShift power)).map fun x => if negative then -x else x := by
  cases power with
  | none =>
    rw [← bind_pure_eq_map]
    rfl
  | some p =>
    obtain ⟨down, cs⟩ := p
    have hlt : Number.digitsValue (cs.map digitValue) < Number.powerLimit := hpower _ rfl
    simp only [Number.doubleOf, Option.map_some, powerShift, hlt, if_true, digitsNumber]
    rw [← bind_pure_eq_map]
    cases down <;> rfl

/-- A number with a point or a power of ten is a double. -/
theorem number_numeral (negative : Bool) (hreal : s.fraction.isSome ∨ s.power.isSome)
    (hsmall : s.significand < Number.wordSize)
    (hpower : ∀ p ∈ s.power, digitsNumber p.2 < Number.powerLimit) :
    (s.numeral negative).number =
      (Number.scale (.ofNat s.significand) s.shift).map fun x =>
        .real (if negative then -x else x) := by
  obtain ⟨whole, fraction, power⟩ := s
  have happend := appendDigits_append 0 (whole.map digitValue) ((fraction.getD []).map digitValue)
    (by rw [← List.map_append]; exact hsmall)
  rw [← List.map_append] at happend
  have hdouble := doubleOf_eq negative (digitsNumber (whole ++ fraction.getD []))
    (-((fraction.getD []).length : Int)) hpower
  have hnumber : (numeral negative ⟨whole, fraction, power⟩).number = (do
      let x ← Number.doubleOf negative (digitsNumber (whole ++ fraction.getD []))
        (-((fraction.getD []).length : Int)) (power.map fun (down, cs) => (down, cs.map digitValue))
      return .real x) := by
    cases fraction with
    | none =>
      obtain ⟨p, rfl⟩ := Option.isSome_iff_exists.mp (hreal.resolve_left Bool.false_ne_true)
      simp only [numeral, Numeral.number, happend.1, Option.map_none, Option.map_some,
        Option.getD_none, List.append_nil, Nat.sub_self]
      rfl
    | some cs =>
      simp only [Option.getD_some] at happend
      simp only [numeral, Numeral.number, happend, Option.map_some, Option.getD_some,
        List.length_map, Nat.sub_self, Int.natCast_zero, Int.zero_sub]
      rfl
  rw [hnumber, bind_pure_eq_map, hdouble]
  have hmap : ∀ x : Except Fault Double, (x.map fun x => if negative then -x else x).map .real =
      x.map fun x => Number.real (if negative then -x else x) := fun x => by cases x <;> rfl
  exact hmap _

/-- A spelling of `n * 10 ^ k` as a double: its digits are `n`, or where this is plain `n` with zeros
up to the point and one after it. -/
structure Spells (style : Decimal.Style) (s : Spelling) (n : Nat) (k : Int) : Prop where
  isReal : s.fraction.isSome ∨ s.power.isSome
  number : s.significand = n ∧ s.shift = k ∨
    0 ≤ k ∧ style.plain (k + Decimal.length n - 1) ∧
      s.significand = n * 10 ^ (k.toNat + 1) ∧ s.shift = -1
  power : ∀ p ∈ s.power, digitsNumber p.2 = (k + Decimal.length n - 1).natAbs

theorem spells_plainSpelling {style : Decimal.Style} {n : Nat} {k magnitude : Int}
    (h : magnitude = k + Decimal.length n - 1) (hplain : style.plain magnitude = true) :
    (Decimal.plainSpelling (Nat.toDigits 10 n) magnitude).Spells style n k := by
  have hn := digitsNumber_toDigits n
  rw [h] at hplain
  rw [Decimal.length] at h hplain
  rw [Decimal.plainSpelling]
  split
  · refine ⟨.inl rfl, .inl ⟨?_, ?_⟩, nofun⟩
    · exact (digitsNumber_zeros_append (_ + 1) _).trans hn
    · simp only [shift, powerShift, Option.getD_some, Decimal.zeros, List.length_append,
        List.length_replicate]
      omega
  · dsimp only
    split
    · refine ⟨.inl rfl, .inr ⟨by omega, hplain, ?_, rfl⟩, nofun⟩
      have hzeros : Decimal.zeros (magnitude.toNat + 1 - (Nat.toDigits 10 n).length) ++ ['0'] =
          Decimal.zeros (k.toNat + 1) := by
        rw [Decimal.zeros, Decimal.zeros, List.replicate_succ',
          show magnitude.toNat + 1 - (Nat.toDigits 10 n).length = k.toNat by omega]
      rw [significand, Option.getD_some, List.append_assoc, hzeros, digitsNumber_append_zeros, hn]
    · refine ⟨.inl rfl, .inl ⟨?_, ?_⟩, nofun⟩
      · rw [significand, Option.getD_some, List.take_append_drop, hn]
      · simp only [shift, powerShift, Option.getD_some, List.length_drop]
        omega

theorem spells_scientificSpelling {style : Decimal.Style} {n : Nat} {k magnitude : Int}
    (h : magnitude = k + Decimal.length n - 1) :
    (Decimal.scientificSpelling (Nat.toDigits 10 n) magnitude).Spells style n k := by
  have hn := digitsNumber_toDigits n
  have hpos : 0 < (Nat.toDigits 10 n).length := Nat.length_toDigits_pos
  have hpower : powerShift (Decimal.scientificSpelling (Nat.toDigits 10 n) magnitude).power =
      magnitude := by
    simp only [Decimal.scientificSpelling, powerShift, digitsNumber_toDigits, decide_eq_true_eq]
    split <;> omega
  refine ⟨.inr rfl, .inl ⟨?_, ?_⟩, ?_⟩
  · simp only [significand, Decimal.scientificSpelling]
    split
    · next hone => rw [Option.getD_none, List.append_nil, List.take_of_length_le hone.le, hn]
    · rw [Option.getD_some, List.take_append_drop, hn]
  · rw [Decimal.length] at h
    rw [shift, hpower]
    simp only [Decimal.scientificSpelling]
    split
    · simp only [Option.getD_none, List.length_nil]
      omega
    · simp only [Option.getD_some, List.length_drop]
      omega
  · rintro p ⟨⟩
    rw [digitsNumber_toDigits, h]

theorem spells_spelling (style : Decimal.Style) (d : Decimal) :
    (d.spelling style).Spells style d.digits d.exponent := by
  simp only [Decimal.spelling]
  split
  · next hplain => exact spells_plainSpelling rfl hplain
  · exact spells_scientificSpelling rfl

end Json.Spelling

/-! ## Texts -/

namespace Binary

variable {f : Format} {style : Decimal.Style}

/-- The spelling of a finite number without its sign. -/
def spelling (f : Format) (style : Decimal.Style) (m : Nat) (e : Int) : Spelling :=
  if m = 0 then ⟨['0'], some ['0'], none⟩ else (shortest f style.tie m e).spelling style

theorem toList_finiteText (hpoint : style.keepPoint = true) (negative : Bool) (m : Nat) (e : Int) :
    (finiteText (f := f) style negative m e).toList =
      (if negative then ['-'] else []) ++ (spelling f style m e).chars := by
  have hbody : (if m = 0 then Decimal.plainChars style ['0'] 0
      else (shortest f style.tie m e).chars style) = (spelling f style m e).chars := by
    rw [spelling]
    split
    · exact Decimal.plainChars_eq hpoint _ _
    · exact Decimal.chars_eq hpoint _
  rw [finiteText, hbody, String.toList_ofList]
  cases negative <;> rfl

theorem valid_spelling (f : Format) (style : Decimal.Style) (m : Nat) (e : Int) :
    (spelling f style m e).Valid := by
  rw [spelling]
  split
  · refine ⟨isDigits_zero, fun _ => rfl, ?_, nofun⟩
    rintro cs ⟨⟩
    exact isDigits_zero
  · next hm =>
    exact Decimal.valid_spelling style
      (isShortest_shortest style.tie (Nat.pos_of_ne_zero hm)).digits_pos

end Binary

namespace Json

variable {f : Binary.Format} {style : Decimal.Style} {rest : List Char}

/-- The form of the text of a number. -/
def numberForm (style : Decimal.Style) : Binary f → Form
  | .finite negative m e => .number ((Binary.spelling f style m e).numeral negative)
  | _ => .null

theorem exists_spelling_eq_cons (f : Binary.Format) (style : Decimal.Style) (m : Nat) (e : Int) :
    ∃ c cs, (Binary.spelling f style m e).chars = c :: cs ∧ c.isDigit := by
  have hwhole := (Binary.valid_spelling f style m e).whole
  obtain ⟨c, cs, hcs⟩ := List.exists_cons_of_ne_nil hwhole.ne_nil
  exact ⟨c, _, by rw [Spelling.chars, hcs, List.cons_append],
    hwhole.isDigit c (hcs ▸ List.mem_cons_self)⟩

/-- The text of a number begins as a number or is the word for no value. -/
theorem exists_numberText_eq_cons (hpoint : style.keepPoint = true) (x : Binary f) :
    ∃ c cs, (numberText style x).toList = c :: cs ∧ (c = 'n' ∨ BeginsNumber c) := by
  cases x with
  | nan => exact ⟨'n', "ull".toList, show "null".toList = _ from rfl, .inl rfl⟩
  | infinite => exact ⟨'n', "ull".toList, show "null".toList = _ from rfl, .inl rfl⟩
  | finite negative m e =>
    obtain ⟨c, cs, hcs, hc⟩ := exists_spelling_eq_cons f style m e
    rw [numberText, Binary.toList_finiteText hpoint, hcs]
    cases negative
    · exact ⟨c, cs, rfl, .inr (.inr hc)⟩
    · exact ⟨'-', c :: cs, rfl, .inr (.inl rfl)⟩

/-- A number that stands for a value. -/
theorem value_numberText (fuel : Nat) (hpoint : style.keepPoint = true) (x : Binary f)
    (hrest : EndsNumber rest) :
    value (fuel + 1) ((numberText style x).toList ++ rest) = (numberForm style x, .ok rest) := by
  cases x with
  | nan => exact show value (fuel + 1) ("null".toList ++ rest) = (.null, .ok rest) from rfl
  | infinite => exact show value (fuel + 1) ("null".toList ++ rest) = (.null, .ok rest) from rfl
  | finite negative m e =>
    obtain ⟨hneg, hpos⟩ := numeral_spelling (Binary.valid_spelling f style m e) hrest
    obtain ⟨c, cs, hcs, hc⟩ := exists_spelling_eq_cons f style m e
    rw [hcs] at hneg hpos
    rw [numberText, Binary.toList_finiteText hpoint, numberForm, hcs]
    cases negative
    · exact value_of_numeral fuel (.inr hc) hpos
    · exact value_of_numeral fuel (.inl rfl) hneg

end Json

end RulePyramid
