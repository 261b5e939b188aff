import RulePyramid.Json.Number
import RulePyramid.Proofs.Binary.Rounding

/-!
How near the double that a decimal becomes is to the decimal. The digits are exact, the power of ten
is rounded, and so is what comes out, which makes an error of less than three halves of a unit in
all (`exists_stands_decimalDouble`). Where the power of ten is a double and so is the decimal,
nothing is rounded (`stands_decimalDouble`).
-/

namespace RulePyramid.Json.Number

open Binary

variable {n j m : Nat} {k e : Int}

/-- The double that a decimal becomes: its digits times or through a power of ten. -/
def decimalDouble (digits : Nat) (k : Int) : Double :=
  if 0 ≤ k then .ofNat digits * powerOfTen k.natAbs else .ofNat digits / powerOfTen k.natAbs

theorem scale_ofNat {v : ℚ} (hk : k.natAbs ≤ maxPower) (h : (decimalDouble n k).Stands false v) :
    scale (.ofNat n) k = .ok (decimalDouble n k) := by
  obtain ⟨m, e, hfinite, -⟩ := h
  rw [scale, if_pos hk]
  by_cases hsign : 0 ≤ k
  · rw [decimalDouble, if_pos hsign] at hfinite ⊢
    rw [if_pos hsign, hfinite]
  · rw [if_neg hsign, decimalDouble, if_neg hsign]

/-! ## Digits and powers of ten -/

theorem stands_ofNat (hpos : 0 < n) (hn : n < 2 ^ 53) : (ofNat n : Double).Stands false n := by
  have hbig : (n : ℚ) < 2 ^ (53 : Int) := by exact_mod_cast hn
  have hstands := stands_round false Format.proper_double hpos one_pos
    (m := n) (e := 0) (by simp) hn (by decide) (by
      rw [zpow_zero, mul_one]
      exact hbig.trans (zpow_lt_zpow_right₀ one_lt_two (by decide)))
  rwa [zpow_zero, mul_one] at hstands

/-- The powers of ten that are looked at are far from both ends of the doubles. -/
theorem ten_pow_lt (hj : j ≤ 60) : (10 : ℚ) ^ j < 2 ^ (200 : Int) := by
  have hle : 10 ^ j ≤ 10 ^ 60 := Nat.pow_le_pow_right (by decide) hj
  have hlt : 10 ^ j < 2 ^ 200 := hle.trans_lt (by decide)
  exact_mod_cast hlt

theorem exists_stands_powerOfTen (hj : j ≤ 60) :
    ∃ p, (powerOfTen j).Stands false p ∧ |p - 10 ^ j| ≤ 10 ^ j / 2 ^ 53 := by
  have hbig := ten_pow_lt hj
  refine exists_stands_round false (x := 10 ^ j) Format.proper_double (Nat.pow_pos (by decide))
    one_pos ?_ ?_ ?_
  · rw [Nat.cast_one, div_one]
    exact_mod_cast rfl
  · exact (zpow_le_one_of_nonpos₀ one_le_two (by decide)).trans (one_le_pow₀ (by norm_num))
  · exact hbig.trans (zpow_lt_zpow_right₀ one_lt_two (by decide))

/-- The first powers of ten are doubles. -/
theorem stands_powerOfTen (hj : j ≤ 22) : (powerOfTen j).Stands false (10 ^ j) := by
  have hbig := ten_pow_lt (hj.trans (by decide))
  have hten : (10 : ℚ) ^ j = (5 ^ j : Nat) * 2 ^ (j : Int) := by
    rw [zpow_natCast, Nat.cast_pow, ← mul_pow]
    norm_num
  rw [hten] at hbig ⊢
  refine stands_round false Format.proper_double (Nat.pow_pos (by decide)) one_pos ?_ ?_ ?_ ?_
  · rw [← hten, Nat.cast_one, div_one]
    exact_mod_cast rfl
  · exact (Nat.pow_le_pow_right (by decide) hj).trans_lt (by decide)
  · exact le_trans (by decide) (Int.natCast_nonneg j)
  · exact hbig.trans (zpow_lt_zpow_right₀ one_lt_two (by decide))

/-! ## Decimals -/

/-- `n` times or through `p`. -/
def shifted (n : Nat) (k : Int) (p : ℚ) : ℚ := if 0 ≤ k then n * p else n / p

theorem shifted_ten_pow (n : Nat) (k : Int) : shifted n k (10 ^ k.natAbs) = n * 10 ^ k := by
  rw [shifted]
  split
  · rw [← zpow_natCast, Int.natAbs_of_nonneg (by omega)]
  · rw [← zpow_natCast, Int.ofNat_natAbs_of_nonpos (by omega), zpow_neg, div_inv_eq_mul]

theorem exists_decimalDouble_eq {p : ℚ} (hpos : 0 < n) (hn : n < 2 ^ 53)
    (hp : (powerOfTen k.natAbs).Stands false p) (hppos : 0 < p) :
    ∃ num den : Nat, 0 < num ∧ 0 < den ∧ (num : ℚ) / den = shifted n k p ∧
      decimalDouble n k = round false num den := by
  have hx := stands_ofNat hpos hn
  have hnq : (0 : ℚ) < n := by exact_mod_cast hpos
  rw [shifted, decimalDouble]
  split
  · obtain ⟨num, den, hden, hquotient, heq⟩ := hx.exists_mul hp
    exact ⟨num, den, num_pos_of_div_eq hquotient (by positivity), hden, hquotient, heq⟩
  · obtain ⟨num, den, hden, hquotient, heq⟩ := hx.exists_div hp hppos
    exact ⟨num, den, num_pos_of_div_eq hquotient (by positivity), hden, hquotient, heq⟩

/-- A small relative error of the power of ten is one of the result. -/
theorem abs_shifted_sub_le {p t u : ℚ} (ht : 0 < t) (hu : 0 < u) (hu' : u < 1 / 3)
    (h : |p - t| ≤ t * u) :
    0 < p ∧ |shifted n k p - shifted n k t| ≤ shifted n k t * (3 / 2 * u) := by
  obtain ⟨hlow, hhigh⟩ := abs_le.mp h
  have hp : t ≤ 3 / 2 * p := by nlinarith
  have hppos : 0 < p := by linarith
  refine ⟨hppos, ?_⟩
  rw [shifted, shifted]
  split
  · rw [← mul_sub, abs_mul, Nat.abs_cast, mul_assoc]
    gcongr
    nlinarith
  · have hfactor : (n : ℚ) / p - n / t = n / t * ((t - p) / p) := by field_simp
    have hsmall : |(t - p) / p| ≤ 3 / 2 * u := by
      rw [abs_div, abs_of_pos hppos, div_le_iff₀ hppos, abs_sub_comm]
      nlinarith
    rw [hfactor, abs_mul, abs_of_nonneg (by positivity : (0 : ℚ) ≤ n / t)]
    gcongr

/-- The decimals that are looked at are far from both ends of the doubles. -/
theorem decimal_bounds (hpos : 0 < n) (hn : n < 2 ^ 53) (hk : k.natAbs ≤ 60) :
    2 ^ (-200 : Int) < (n : ℚ) * 10 ^ k ∧ (n : ℚ) * 10 ^ k < 2 ^ (253 : Int) := by
  have hone : (1 : ℚ) ≤ n := by exact_mod_cast hpos
  have hn : (n : ℚ) < 2 ^ (53 : Int) := by exact_mod_cast hn
  have hten := ten_pow_lt hk
  rw [← zpow_natCast] at hten
  constructor
  · calc (2 : ℚ) ^ (-200 : Int) = (2 ^ (200 : Int))⁻¹ := zpow_neg _ _
      _ < (10 ^ (k.natAbs : Int))⁻¹ := by gcongr
      _ = 10 ^ (-(k.natAbs : Int)) := (zpow_neg _ _).symm
      _ ≤ 10 ^ k := zpow_le_zpow_right₀ (by norm_num) (by omega)
      _ ≤ n * 10 ^ k := le_mul_of_one_le_left (by positivity) hone
  · calc (n : ℚ) * 10 ^ k ≤ n * 10 ^ (k.natAbs : Int) := by
          gcongr
          · norm_num
          · exact Int.le_natAbs
      _ < 2 ^ (53 : Int) * 2 ^ (200 : Int) := by gcongr
      _ = 2 ^ (253 : Int) := by rw [← zpow_add₀ two_ne_zero]; rfl

theorem exists_stands_decimalDouble (hpos : 0 < n) (hn : n < 2 ^ 53) (hk : k.natAbs ≤ 60) :
    ∃ y, (decimalDouble n k).Stands false y ∧ |y - n * 10 ^ k| ≤ 3 * (n * 10 ^ k) / 2 ^ 53 := by
  obtain ⟨p, hp, hnear⟩ := exists_stands_powerOfTen hk
  obtain ⟨hppos, herror⟩ := abs_shifted_sub_le (n := n) (k := k) (p := p) (t := 10 ^ k.natAbs)
    (u := 1 / 2 ^ 53) (by positivity) (by norm_num) (by norm_num) (by rwa [mul_one_div])
  obtain ⟨num, den, hnum, hden, hquotient, heq⟩ := exists_decimalDouble_eq hpos hn hp hppos
  rw [shifted_ten_pow] at herror
  generalize shifted n k p = x at herror hquotient
  obtain ⟨hlow, hhigh⟩ := decimal_bounds hpos hn hk
  obtain ⟨herrorLow, herrorHigh⟩ := abs_le.mp herror
  have hvpos : (0 : ℚ) < n * 10 ^ k := lt_trans (by positivity) hlow
  generalize (n : ℚ) * 10 ^ k = v at *
  have hhalf : v / 2 ≤ x := by linarith only [herrorLow, hvpos]
  have htwice : x ≤ v * 2 := by linarith only [herrorHigh, hvpos]
  have hsmall : 2 ^ (-1022 : Int) ≤ x := by
    calc (2 : ℚ) ^ (-1022 : Int) ≤ 2 ^ (-200 - 1 : Int) :=
          zpow_le_zpow_right₀ one_le_two (by decide)
      _ = 2 ^ (-200 : Int) / 2 := zpow_sub_one₀ two_ne_zero _
      _ ≤ v / 2 := by gcongr
      _ ≤ x := hhalf
  have hbig : x < 2 ^ (1023 : Int) := by
    calc x ≤ v * 2 := htwice
      _ < 2 ^ (253 : Int) * 2 := by gcongr
      _ = 2 ^ (253 + 1 : Int) := (zpow_add_one₀ two_ne_zero _).symm
      _ ≤ 2 ^ (1023 : Int) := zpow_le_zpow_right₀ one_le_two (by decide)
  obtain ⟨y, hy, hround⟩ := exists_stands_round false Format.proper_double hnum hden
    hquotient hsmall hbig
  refine ⟨y, heq ▸ hy, ?_⟩
  have hround : |y - x| ≤ x / 2 ^ 53 := hround
  calc |y - v| ≤ |y - x| + |x - v| := abs_sub_le _ _ _
    _ ≤ x / 2 ^ 53 + v * (3 / 2 * (1 / 2 ^ 53)) := add_le_add hround herror
    _ ≤ 3 * v / 2 ^ 53 := by linarith

/-- A decimal that is a double is exact when the power of ten is one. -/
theorem stands_decimalDouble (hpos : 0 < n) (hn : n < 2 ^ 53) (hk : k.natAbs ≤ 22)
    (h : (n : ℚ) * 10 ^ k = m * 2 ^ e) (hm : m < 2 ^ 53) (he : -1074 ≤ e) :
    (decimalDouble n k).Stands false (n * 10 ^ k) := by
  obtain ⟨num, den, hnum, hden, hquotient, heq⟩ :=
    exists_decimalDouble_eq hpos hn (stands_powerOfTen hk) (by positivity)
  rw [shifted_ten_pow] at hquotient
  have hbig := (decimal_bounds hpos hn (hk.trans (by decide))).2
  rw [heq]
  rw [h] at hquotient hbig ⊢
  exact stands_round false Format.proper_double hnum hden hquotient hm he
    (hbig.trans (zpow_lt_zpow_right₀ one_lt_two (by decide)))

end RulePyramid.Json.Number
