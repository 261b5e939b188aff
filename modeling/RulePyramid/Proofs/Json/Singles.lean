import RulePyramid.Json.Decode
import RulePyramid.Proofs.Json.Decimals
import RulePyramid.Proofs.Json.Midpoints

/-!
Numbers of single precision are read as they were written (`single_numberForm`). Their shortest
decimal lies in their interval, and at each end of it there are three cases (`Settled`): the decimal
is farther away than the double is off, or it is the end itself and the double exact, or the double
makes no difference. So the double rounds to the same number as the decimal
(`convert_decimalDouble`). A number whose point is spelled out after zeros is exact in any case
(`yields_plain`).
-/

namespace RulePyramid

namespace Binary

variable {f g : Format} {negative : Bool} {num den : Nat}

theorem round_not (negative : Bool) (num den : Nat) :
    (round (!negative) num den : Binary f) = -round negative num den := by
  change _ = neg _
  simp only [round]
  split_ifs <;> rfl

theorem convert_neg (x : Binary f) : ((-x).convert : Binary g) = -x.convert := by
  cases x with
  | nan => rfl
  | infinite => rfl
  | finite n m e =>
    change roundScaled (!n) m e = -roundScaled n m e
    rw [roundScaled, roundScaled]
    split <;> exact round_not _ _ _

end Binary

namespace Json.Number

open Binary

variable {m M : Nat} {e k : Int} {d : Decimal}

/-! ## Sizes -/

theorem lt_pow_single (hm : IsNormal .single m e) : (m : ℚ) + 1 ≤ 2 ^ 24 := by
  exact_mod_cast hm.lt_pow

theorem pow_half (e : Int) : (2 : ℚ) ^ (e - 1) = 2 * 2 ^ (e - 2) := by
  rw [← zpow_one_add₀ two_ne_zero]
  congr 1
  ring

theorem value_interval (f : Format) (m : Nat) (e : Int) :
    ((interval f m e).value : ℚ) = 4 * m ∧ ((interval f m e).high : ℚ) = 4 * m + 2 := by
  constructor <;> simp only [interval] <;> push_cast <;> rfl

theorem value_lt (hm : IsNormal .single m e) (hd : IsShortest .single m e d) :
    d.value < 2 ^ 25 * 2 ^ (e - 1) := by
  have hunit : (0 : ℚ) < 2 ^ (e - 2) := by positivity
  have hhigh := hd.holds.le_high
  have hmax := lt_pow_single hm
  rw [(value_interval _ _ _).2, div_le_iff₀ hunit] at hhigh
  rw [pow_half]
  nlinarith

theorem digits_lt (hm : IsNormal .single m e) (hd : IsShortest .single m e d) :
    d.digits < 2 ^ 53 := by
  have hcoarse := hd.coarse
  have hlt := value_lt hm hd
  rw [(value_interval _ _ _).1, (value_interval _ _ _).2, zpow_add_one₀ (by norm_num)] at hcoarse
  have hplace : (0 : ℚ) < 10 ^ d.exponent := by positivity
  have hdigits : (d.digits : ℚ) < 2 ^ 53 := by
    refine lt_of_mul_lt_mul_right ?_ hplace.le
    rw [pow_half, Decimal.value] at hlt
    nlinarith
  exact_mod_cast hdigits

theorem exponent_le (hm : IsNormal .single m e) (hd : IsShortest .single m e d) :
    d.exponent.natAbs ≤ 60 := by
  have hleast : -149 ≤ e := hm.least_le
  have hgreatest : e ≤ 104 := hm.le_greatest
  have hupper : (10 : ℚ) ^ d.exponent < 10 ^ (60 : Int) := by
    have hone : (1 : ℚ) ≤ d.digits := by exact_mod_cast hd.digits_pos
    calc (10 : ℚ) ^ d.exponent ≤ d.value := le_mul_of_one_le_left (by positivity) hone
      _ < 2 ^ 25 * 2 ^ (e - 1) := value_lt hm hd
      _ ≤ 2 ^ 25 * 2 ^ (103 : Int) := by gcongr <;> [norm_num; omega]
      _ ≤ 10 ^ (60 : Int) := by norm_num
  have hlower : (10 : ℚ) ^ (-60 : Int) < 10 ^ (d.exponent + 1) := by
    have hcoarse := hd.coarse
    rw [(value_interval _ _ _).1, (value_interval _ _ _).2, add_sub_cancel_left, ← pow_half]
      at hcoarse
    calc (10 : ℚ) ^ (-60 : Int) ≤ 2 ^ (-150 : Int) := by norm_num
      _ ≤ 2 ^ (e - 1) := zpow_le_zpow_right₀ one_le_two (by omega)
      _ < 10 ^ (d.exponent + 1) := hcoarse
  have h1 := (zpow_lt_zpow_iff_right₀ (by norm_num : (1 : ℚ) < 10)).mp hupper
  have h2 := (zpow_lt_zpow_iff_right₀ (by norm_num : (1 : ℚ) < 10)).mp hlower
  omega

/-- The distance from an end of the interval is more than what the double is off by, unless the
double is not off or makes no difference. -/
def Settled (d : Decimal) (x : ℚ) : Prop :=
  3 * d.value / 2 ^ 53 < |d.value - x| ∨ d.value = x ∧ d.exponent.natAbs ≤ 22 ∨
    readsRight d.digits d.exponent = true

theorem settled_of_midpoint {h : ℚ} (hlow : -149 ≤ e) (hhigh : e ≤ 104) (hh : h = 2 ^ (e - 1))
    (hM : M % 2 = 1) (hd : d.digits % 10 ≠ 0) (hsmall : d.value < 2 ^ 25 * h)
    (hk : h ≤ 2 * |d.value - M * h| ∨ h < 10 ^ d.exponent) : Settled d (M * h) := by
  subst hh
  have hhalf : (0 : ℚ) < 2 ^ (e - 1) := by positivity
  rcases hk with hfar | hk
  · left
    linarith
  · rcases midpoint_cases hlow hhigh hM hd hk hsmall with hfar | hcases
    · left
      have hfar : (2 : ℚ) ^ (e - 1) ≤ 2 ^ 26 * |d.value - M * 2 ^ (e - 1)| := hfar
      linarith
    · exact .inr hcases

theorem settled_high (hm : IsNormal .single m e) (hd : IsShortest .single m e d) :
    Settled d ((interval .single m e).high * 2 ^ (e - 2)) := by
  have hunit : (0 : ℚ) < 2 ^ (e - 2) := by positivity
  obtain ⟨hvalue, hhigh⟩ := value_interval .single m e
  have hmidpoint : ((interval .single m e).high : ℚ) * 2 ^ (e - 2) =
      (2 * m + 1 : Nat) * 2 ^ (e - 1) := by
    rw [hhigh, pow_half]
    push_cast
    ring
  have hclose := hd.high
  rw [hvalue, hhigh, ← mul_div_assoc, div_le_iff₀ hunit, add_sub_cancel_left, ← pow_half] at hclose
  rw [hmidpoint]
  refine settled_of_midpoint hm.least_le hm.le_greatest rfl (by omega) hd.digits
    (value_lt hm hd) (hclose.imp_left fun hfar => ?_)
  rw [← hmidpoint, hhigh, pow_half, abs_sub_comm]
  have hle := le_abs_self ((4 * (m : ℚ) + 2) * 2 ^ (e - 2) - d.value)
  linarith

/-- The low end of a power of two, below which the unit is half as large. -/
theorem settled_low_of_pow (hlt : -149 < e) (hle : e ≤ 104) (hd : IsShortest .single (2 ^ 23) e d)
    (hlow : ((interval .single (2 ^ 23) e).low : ℚ) = 2 ^ 25 - 1) :
    Settled d ((interval .single (2 ^ 23) e).low * 2 ^ (e - 2)) := by
  have hunit : (0 : ℚ) < 2 ^ (e - 2) := by positivity
  have hclose := hd.low
  rw [(value_interval _ _ _).1, hlow, ← mul_div_assoc, le_div_iff₀ hunit] at hclose
  rcases lt_or_ge d.value (2 ^ 25 * 2 ^ (e - 2)) with hbelow | habove
  · have hmidpoint : (2 : ℚ) ^ 25 - 1 = (2 ^ 25 - 1 : Nat) := by norm_num
    rw [hlow, hmidpoint]
    refine settled_of_midpoint (e := e - 1) (by omega) (by omega) ?_ (by decide) hd.digits hbelow ?_
    · exact congrArg _ (by omega)
    · rw [← hmidpoint]
      rcases hclose with hfar | hplace
      · left
        have hle := le_abs_self (d.value - ((2 : ℚ) ^ 25 - 1) * 2 ^ (e - 2))
        push_cast at hfar
        linarith
      · right
        push_cast at hplace
        linarith
  · left
    have hmax := hd.holds.le_high
    rw [(value_interval _ _ _).2, div_le_iff₀ hunit] at hmax
    push_cast at hmax
    rw [hlow]
    refine lt_of_lt_of_le ?_ (le_abs_self _)
    linarith

theorem settled_low (hm : IsNormal .single m e) (hpos : 0 < m) (hd : IsShortest .single m e d) :
    Settled d ((interval .single m e).low * 2 ^ (e - 2)) := by
  have hunit : (0 : ℚ) < 2 ^ (e - 2) := by positivity
  by_cases hpow : m = 1 <<< (Format.single.precision - 1) ∧ Format.single.least < e
  · obtain ⟨hm23, hlt⟩ := hpow
    obtain rfl : m = 2 ^ 23 := hm23
    refine settled_low_of_pow hlt hm.le_greatest hd ?_
    rw [interval, if_pos ⟨rfl, hlt⟩]
    norm_num
  · have hends : ((interval .single m e).low : ℚ) = 4 * m - 2 := by
      rw [interval, if_neg hpow, Nat.cast_sub (by omega)]
      push_cast
      rfl
    have hmidpoint : (4 * (m : ℚ) - 2) * 2 ^ (e - 2) = (2 * m - 1 : Nat) * 2 ^ (e - 1) := by
      rw [pow_half, Nat.cast_sub (by omega)]
      push_cast
      ring
    have hclose := hd.low
    rw [(value_interval _ _ _).1, hends, ← mul_div_assoc, le_div_iff₀ hunit] at hclose
    rw [hends, hmidpoint]
    refine settled_of_midpoint hm.least_le hm.le_greatest rfl (by omega) hd.digits
      (value_lt hm hd) (hclose.imp (fun hfar => ?_) fun hplace => ?_)
    · rw [← hmidpoint, pow_half]
      have hle := le_abs_self (d.value - (4 * (m : ℚ) - 2) * 2 ^ (e - 2))
      linarith
    · rw [pow_half]
      linarith

/-! ## Reading -/

theorem convert_of_holds {x : Double} {v : ℚ} (hm : IsNormal .single m e) (hpos : 0 < m)
    (hx : x.Stands false v) (hv : 0 < v) (h : (interval .single m e).Holds (v / 2 ^ (e - 2))) :
    (x.convert : Single) = .finite false m e := by
  obtain ⟨num, den, hden, hquotient, heq⟩ := hx.exists_convert (g := .single)
  rw [heq]
  exact round_eq_of_holds Format.proper_single hm hpos (num_pos_of_div_eq hquotient hv) hden
    hquotient h

theorem decimalSingle_eq (hm : IsNormal .single m e) (hpos : 0 < m)
    (hd : IsShortest .single m e d) :
    decimalSingle d.digits d.exponent = .finite false m e := by
  have hdigits := hd.digits_pos
  have hholds := hd.holds
  rw [decimalSingle]
  split
  · refine round_eq_of_holds Format.proper_single hm hpos (by positivity) one_pos ?_ hholds
    rw [Nat.cast_one, div_one, Nat.cast_mul, Nat.cast_pow, ← zpow_natCast,
      Int.natAbs_of_nonneg (by omega)]
    rfl
  · refine round_eq_of_holds Format.proper_single hm hpos hdigits (by positivity) ?_ hholds
    rw [Nat.cast_pow, ← zpow_natCast, Int.ofNat_natAbs_of_nonpos (by omega), zpow_neg,
      div_inv_eq_mul]
    rfl

/-- The double is on the same side of both ends as the decimal. -/
theorem convert_of_far (hm : IsNormal .single m e) (hpos : 0 < m) (hd : IsShortest .single m e d)
    (hlow : 3 * d.value / 2 ^ 53 < |d.value - (interval .single m e).low * 2 ^ (e - 2)|)
    (hhigh : 3 * d.value / 2 ^ 53 < |d.value - (interval .single m e).high * 2 ^ (e - 2)|) :
    ((decimalDouble d.digits d.exponent).convert : Single) = .finite false m e := by
  have hunit : (0 : ℚ) < 2 ^ (e - 2) := by positivity
  obtain ⟨v, hv, hnear⟩ :=
    exists_stands_decimalDouble hd.digits_pos (digits_lt hm hd) (exponent_le hm hd)
  change |v - d.value| ≤ 3 * d.value / 2 ^ 53 at hnear
  obtain ⟨hbelow, habove⟩ := abs_le.mp hnear
  have hlowle := (le_div_iff₀ hunit).mp hd.holds.low_le
  have hlehigh := (div_le_iff₀ hunit).mp hd.holds.le_high
  rw [abs_of_nonneg (sub_nonneg.mpr hlowle)] at hlow
  rw [abs_sub_comm, abs_of_nonneg (sub_nonneg.mpr hlehigh)] at hhigh
  have hlowlt : ((interval .single m e).low : ℚ) < v / 2 ^ (e - 2) := by
    rw [lt_div_iff₀ hunit]
    linarith
  have hlthigh : v / 2 ^ (e - 2) < (interval .single m e).high := by
    rw [div_lt_iff₀ hunit]
    linarith
  have hvpos := hd.value_pos
  refine convert_of_holds hm hpos hv (by linarith) ⟨hlowlt.le, hlthigh.le, fun hend => ?_⟩
  rcases hend with hend | hend
  · exact absurd hend hlowlt.ne'
  · exact absurd hend hlthigh.ne

/-- A decimal that is an end of the interval is a double. -/
theorem convert_of_end {c : Nat} (hm : IsNormal .single m e) (hpos : 0 < m)
    (hd : IsShortest .single m e d) (hc : c ≤ 4 * m + 2) (heq : d.value = c * 2 ^ (e - 2))
    (hk : d.exponent.natAbs ≤ 22) :
    ((decimalDouble d.digits d.exponent).convert : Single) = .finite false m e := by
  have hlt : m < 2 ^ 24 := hm.lt_pow
  have hleast : -149 ≤ e := hm.least_le
  exact convert_of_holds hm hpos
    (stands_decimalDouble hd.digits_pos (digits_lt hm hd) hk heq (by omega) (by omega))
    hd.value_pos hd.holds

/-- **The shortest decimal is read as the number that it is of.** -/
theorem convert_decimalDouble (hm : IsNormal .single m e) (hpos : 0 < m)
    (hd : IsShortest .single m e d) :
    ((decimalDouble d.digits d.exponent).convert : Single) = .finite false m e := by
  have hends : (interval .single m e).low ≤ 4 * m + 2 ∧
      (interval .single m e).high ≤ 4 * m + 2 := by
    simp only [interval]
    split <;> omega
  have hright : readsRight d.digits d.exponent = true →
      ((decimalDouble d.digits d.exponent).convert : Single) = .finite false m e := fun h =>
    (of_decide_eq_true h).trans (decimalSingle_eq hm hpos hd)
  rcases settled_low hm hpos hd with hlow | ⟨heq, hk⟩ | h
  · rcases settled_high hm hd with hhigh | ⟨heq, hk⟩ | h
    · exact convert_of_far hm hpos hd hlow hhigh
    · exact convert_of_end hm hpos hd hends.2 heq hk
    · exact hright h
  · exact convert_of_end hm hpos hd hends.1 heq hk
  · exact hright h

end Json.Number

/-! ## Texts -/

namespace Json

open Binary Number

variable {m : Nat} {e : Int} {d : Decimal} {s : Spelling} {negative : Bool}

/-- The number before the point of a plain number is small. -/
theorem plain_lt (hk : 0 ≤ d.exponent)
    (hplain : singleStyle.plain (d.exponent + Decimal.length d.digits - 1) = true) :
    d.digits * 10 ^ d.exponent.toNat < 10 ^ 13 := by
  have hmax : d.exponent + Decimal.length d.digits - 1 ≤ 12 := by
    simp only [singleStyle, Bool.and_eq_true, decide_eq_true_eq] at hplain
    exact hplain.2
  calc d.digits * 10 ^ d.exponent.toNat
      < 10 ^ Decimal.length d.digits * 10 ^ d.exponent.toNat :=
        Nat.mul_lt_mul_of_pos_right (Decimal.lt_pow_length _) (by positivity)
    _ = 10 ^ (Decimal.length d.digits + d.exponent.toNat) := (Nat.pow_add _ _ _).symm
    _ ≤ 10 ^ 13 := Nat.pow_le_pow_right (by decide) (by omega)

/-- The decimal `n * 10 ^ k` is read as the number `m * 2 ^ e` of single precision. -/
structure Yields (n : Nat) (k : Int) (m : Nat) (e : Int) : Prop where
  small : n < 2 ^ 53
  near : k.natAbs ≤ 60
  stands : ∃ v, (decimalDouble n k).Stands false v
  convert : ((decimalDouble n k).convert : Single) = .finite false m e

theorem yields_shortest (hm : IsNormal .single m e) (hpos : 0 < m)
    (hd : IsShortest .single m e d) : Yields d.digits d.exponent m e := by
  have hsmall := digits_lt hm hd
  have hnear := exponent_le hm hd
  obtain ⟨v, hv, -⟩ := exists_stands_decimalDouble hd.digits_pos hsmall hnear
  exact ⟨hsmall, hnear, ⟨v, hv⟩, convert_decimalDouble hm hpos hd⟩

/-- With zeros up to the point and one after it. -/
theorem yields_plain (hm : IsNormal .single m e) (hpos : 0 < m) (hd : IsShortest .single m e d)
    (hk : 0 ≤ d.exponent)
    (hplain : singleStyle.plain (d.exponent + Decimal.length d.digits - 1) = true) :
    Yields (d.digits * 10 ^ (d.exponent.toNat + 1)) (-1) m e := by
  have hlt := plain_lt hk hplain
  have hsmall : d.digits * 10 ^ (d.exponent.toNat + 1) < 2 ^ 53 := by
    rw [Nat.pow_succ, ← Nat.mul_assoc]
    omega
  have hdigits := hd.digits_pos
  have hvalue : ((d.digits * 10 ^ (d.exponent.toNat + 1) : Nat) : ℚ) * 10 ^ (-1 : Int) =
      (d.digits * 10 ^ d.exponent.toNat : Nat) * 2 ^ (0 : Int) := by
    rw [Nat.pow_succ]
    push_cast
    rw [zpow_neg_one, mul_one, ← mul_assoc, mul_inv_cancel_right₀ (by norm_num)]
  have hstands := stands_decimalDouble (by positivity) hsmall (by decide) hvalue
    (hlt.trans (by decide)) (by decide)
  have hholds : (d.digits * 10 ^ d.exponent.toNat : Nat) * (2 : ℚ) ^ (0 : Int) = d.value := by
    rw [zpow_zero, mul_one, Decimal.value, ← Int.toNat_of_nonneg hk, zpow_natCast,
      Int.toNat_natCast]
    push_cast
    rfl
  rw [hvalue, hholds] at hstands
  refine ⟨hsmall, by decide, ⟨_, hstands⟩, convert_of_holds hm hpos hstands ?_ hd.holds⟩
  rw [← hholds]
  positivity

theorem Spelling.Spells.yields (hs : s.Spells singleStyle d.digits d.exponent)
    (hm : IsNormal .single m e) (hpos : 0 < m) (hd : IsShortest .single m e d) :
    Yields s.significand s.shift m e := by
  rcases hs.number with ⟨hdigits, hshift⟩ | ⟨hk, hplain, hdigits, hshift⟩
  · rw [hdigits, hshift]
    exact yields_shortest hm hpos hd
  · rw [hdigits, hshift]
    exact yields_plain hm hpos hd hk hplain

/-- The power of ten that is spelled is small. -/
theorem Spelling.Spells.power_lt (hs : s.Spells singleStyle d.digits d.exponent)
    (hm : IsNormal .single m e) (hd : IsShortest .single m e d) :
    ∀ p ∈ s.power, digitsNumber p.2 < powerLimit := by
  intro p hp
  have hlength : Decimal.length d.digits ≤ 16 :=
    (Nat.length_toDigits_le_iff (by decide) (by decide)).mpr
      ((digits_lt hm hd).trans (by decide))
  have hnear := exponent_le hm hd
  rw [hs.power p hp, powerLimit]
  omega

theorem single_numeral {x : Double} (negative : Bool) (hreal : s.fraction.isSome ∨ s.power.isSome)
    (hsmall : s.significand < wordSize)
    (hpower : ∀ p ∈ s.power, Spelling.digitsNumber p.2 < powerLimit)
    (hscale : scale (.ofNat s.significand) s.shift = .ok x) :
    Decoder.single (.number (s.numeral negative)) =
      .ok (if negative then -x.convert else x.convert) := by
  rw [Decoder.single, Spelling.number_numeral negative hreal hsmall hpower, hscale]
  cases negative
  · rfl
  · exact congrArg Except.ok (convert_neg x)

/-- Zero is read with its sign. -/
theorem single_zero (negative : Bool) :
    Decoder.single (.number (Spelling.numeral negative ⟨['0'], some ['0'], none⟩)) =
      .ok (.zero negative) := by
  have hscale : scale (.ofNat 0) (-1) = .ok (.zero false) := by
    rw [scale, if_pos (by decide), if_neg (by decide)]
    rfl
  have hread := single_numeral (s := ⟨['0'], some ['0'], none⟩) negative (.inl rfl) (by decide)
    (by simp) hscale
  rw [hread]
  cases negative <;> rfl

/-- **A number of single precision is read from its text.** -/
theorem single_numberForm (hm : IsNormal .single m e) :
    Decoder.single (numberForm singleStyle (.finite negative m e : Single)) =
      .ok (.finite negative m e) := by
  rw [numberForm, Binary.spelling]
  split
  · next hzero =>
    subst hzero
    obtain rfl : e = -149 := hm.unit.resolve_right (by decide)
    exact single_zero negative
  · next hpos =>
    have hpos : 0 < m := Nat.pos_of_ne_zero hpos
    have hd := isShortest_shortest (f := .single) (e := e) singleStyle.tie hpos
    have hs := Spelling.spells_spelling singleStyle (shortest .single singleStyle.tie m e)
    have hyields := hs.yields hm hpos hd
    obtain ⟨v, hv⟩ := hyields.stands
    rw [single_numeral negative hs.isReal (hyields.small.trans (by decide)) (hs.power_lt hm hd)
      (scale_ofNat (hyields.near.trans (by decide)) hv), hyields.convert]
    cases negative <;> rfl

end Json

end RulePyramid
