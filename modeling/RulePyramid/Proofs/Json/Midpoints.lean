import Mathlib.Tactic.LinearCombination
import RulePyramid.Proofs.Json.Doubles

/-!
How near a short decimal comes to a midpoint of two numbers of single precision. When the last place
of the decimal is longer than half a unit, its digits and the midpoint are two numbers of at most
twenty-five binary digits, and they are near only if their quotient is near to a fixed ratio of a
power of ten and a power of two. Then they are a multiple of one of two neighbours of this ratio
(`Adjacent.multiple_of_near`). For each exponent the neighbours are found by search, and the few
multiples that count are gone through (`all_inOrder`): none of them is read wrong
(`midpoint_cases`).
-/

namespace RulePyramid.Json.Number

open Binary

/-! ## Neighbouring fractions -/

/-- A fraction next to another one. The distance between `p / q` and the fraction `num / den` is
`rest / (q * den)`. -/
structure Neighbour where
  p : Nat
  q : Nat
  rest : Nat

/-- Moves a neighbour towards the other one as far as it stays on its side and its denominator
within the limit. -/
def Neighbour.toward (limit : Nat) (s t : Neighbour) : Neighbour :=
  let room := (limit - s.q) / t.q
  let k := if t.rest = 0 then room else min room (s.rest / t.rest)
  ⟨s.p + k * t.p, s.q + k * t.q, s.rest - k * t.rest⟩

/-- Moves both neighbours by turns. -/
def narrow (limit : Nat) : Nat → Neighbour → Neighbour → Neighbour × Neighbour
  | 0, s, t => (s, t)
  | fuel + 1, s, t =>
    if limit < s.q + t.q then (s, t) else
    let s := s.toward limit t
    narrow limit fuel s (t.toward limit s)

variable {num den D M : Nat} {s t : Neighbour}

/-- No fraction with a denominator below `s.q + t.q` lies between the two. -/
structure Adjacent (num den : Nat) (s t : Neighbour) : Prop where
  unimodular : t.p * s.q = s.p * t.q + 1
  below : s.p * den + s.rest = s.q * num
  above : t.q * num + t.rest = t.p * den

/-- A pair of numbers in terms of two neighbours. -/
theorem Adjacent.exists_combination (h : Adjacent num den s t) (D M : Int) :
    ∃ u w : Int, D = u * s.q + w * t.q ∧ M = u * s.p + w * t.p ∧
      D * num - M * den = u * s.rest - w * t.rest := by
  have hdet : (t.p : Int) * s.q = s.p * t.q + 1 := by exact_mod_cast h.unimodular
  have hs : (s.p : Int) * den + s.rest = s.q * num := by exact_mod_cast h.below
  have ht : (t.q : Int) * num + t.rest = t.p * den := by exact_mod_cast h.above
  refine ⟨D * t.p - M * t.q, M * s.q - D * s.p, ?_, ?_, ?_⟩
  · linear_combination -D * hdet
  · linear_combination -M * hdet
  · linear_combination (M * den - D * num) * hdet - (D * t.p - M * t.q) * hs +
      (M * s.q - D * s.p) * ht

theorem Adjacent.rest_add_rest (h : Adjacent num den s t) :
    s.rest * t.q + t.rest * s.q = den := by
  have hdet : (t.p : Int) * s.q = s.p * t.q + 1 := by exact_mod_cast h.unimodular
  have hs : (s.p : Int) * den + s.rest = s.q * num := by exact_mod_cast h.below
  have ht : (t.q : Int) * num + t.rest = t.p * den := by exact_mod_cast h.above
  have hsum : (s.rest : Int) * t.q + t.rest * s.q = den := by
    linear_combination t.q * hs + s.q * ht + den * hdet
  exact_mod_cast hsum

/-- A pair with a small first number whose quotient is very near to `num / den` is a multiple of one
of the neighbours. -/
theorem Adjacent.multiple_of_near {room : Nat} (h : Adjacent num den s t)
    (hroom : s.q + t.q ≤ room) (hD : 0 < D) (hlt : D < s.q + t.q)
    (hnear : room * |(D : Int) * num - M * den| < den) :
    ∃ r, (r = s ∨ r = t) ∧ ∃ u : Nat, D = u * r.q ∧ M = u * r.p ∧
      |(D : Int) * num - M * den| = u * r.rest := by
  obtain ⟨u, w, hDu, hMu, hdist⟩ := h.exists_combination D M
  -- being apart by both rests is too much
  have hapart : (s.rest + t.rest : Int) ≤ |(D : Int) * num - M * den| → False := fun hfar => by
    have hden : den ≤ room * (s.rest + t.rest) := by
      calc den = s.rest * t.q + t.rest * s.q := h.rest_add_rest.symm
        _ ≤ s.rest * room + t.rest * room := by gcongr <;> omega
        _ = room * (s.rest + t.rest) := by rw [← Nat.add_mul, Nat.mul_comm]
    have hden : (den : Int) ≤ room * (s.rest + t.rest) := by exact_mod_cast hden
    have hfar := mul_le_mul_of_nonneg_left hfar (Int.natCast_nonneg room)
    omega
  have hD : (0 : Int) < D := by exact_mod_cast hD
  have hlt : (D : Int) < s.q + t.q := by exact_mod_cast hlt
  have hpos : ∀ {k : Int} (n : Nat), 0 < k → (n : Int) ≤ k * n := fun n hk =>
    le_mul_of_one_le_left (Int.natCast_nonneg n) hk
  have hneg : ∀ {k : Int} (n : Nat), k < 0 → k * (n : Int) ≤ -n := fun {k} n hk => by
    have hle := hpos n (neg_pos.mpr hk)
    rw [neg_mul] at hle
    omega
  rw [hdist] at hapart ⊢
  rcases lt_trichotomy u 0 with hu | rfl | hu
  · have hus := hneg s.q hu
    rcases lt_trichotomy w 0 with hw | rfl | hw
    · have hwt := hneg t.q hw
      omega
    · omega
    · have hur := hneg s.rest hu
      have hwr := hpos t.rest hw
      exact (hapart (le_abs'.mpr (.inl (by omega)))).elim
  · obtain ⟨w, rfl⟩ : ∃ w' : Nat, w = w' := by
      refine Int.eq_ofNat_of_zero_le (not_lt.mp fun hw => ?_)
      have hwt := hneg t.q hw
      omega
    simp only [zero_mul, zero_add, zero_sub, abs_neg] at hDu hMu ⊢
    exact ⟨t, .inr rfl, w, by exact_mod_cast hDu, by exact_mod_cast hMu,
      abs_of_nonneg (by positivity)⟩
  · rcases lt_trichotomy w 0 with hw | rfl | hw
    · have hur := hpos s.rest hu
      have hwr := hneg t.rest hw
      exact (hapart (le_abs'.mpr (.inr (by omega)))).elim
    · obtain ⟨u, rfl⟩ := Int.eq_ofNat_of_zero_le hu.le
      simp only [zero_mul, add_zero, sub_zero] at hDu hMu ⊢
      exact ⟨s, .inl rfl, u, by exact_mod_cast hDu, by exact_mod_cast hMu,
        abs_of_nonneg (by positivity)⟩
    · have hus := hpos s.q hu
      have hwt := hpos t.q hw
      omega

/-! ## All midpoints -/

/-- The single nearest to a decimal. -/
def decimalSingle (digits : Nat) (k : Int) : Single :=
  if 0 ≤ k then .round false (digits * 10 ^ k.natAbs) 1 else .round false digits (10 ^ k.natAbs)

/-- Going through the double makes no difference. -/
def readsRight (digits : Nat) (k : Int) : Bool :=
  decide ((decimalDouble digits k).convert = decimalSingle digits k)

/-- The first power of ten that is greater than `2 ^ (e - 1)`. -/
def firstPower (e : Int) : Int := (e - 1) * 30103 / 100000 + 1

/-- That power of ten as a fraction of `2 ^ (e - 1)`. -/
def ratio (e : Int) : Nat × Nat :=
  (10 ^ (firstPower e).toNat * 2 ^ (1 - e).toNat, 2 ^ (e - 1).toNat * 10 ^ (-firstPower e).toNat)

/-- The multiples of a neighbour that come too near to an odd number of half units are exact, or they
are read right. -/
def harmless (k : Int) (num den : Nat) (s : Neighbour) : Bool :=
  decide (s.rest = 0 ∧ k.natAbs ≤ 10) || decide (den ≤ 2 ^ 26 * s.rest) ||
    (List.range (2 ^ 25 * den / (s.q * num) + 1)).all fun u =>
      decide (u * s.p % 2 = 0) || decide (den ≤ 2 ^ 26 * (u * s.rest)) ||
        decide (u * s.q % 10 ≠ 0) && readsRight (u * s.q) k

/-- The neighbours of a ratio show that nothing near to it is read wrong. -/
structure InOrder (k : Int) (num den : Nat) (s t : Neighbour) : Prop where
  adjacent : Adjacent num den s t
  complete : 2 ^ 25 * den ≤ (s.q + t.q) * num
  small : s.q + t.q ≤ 2 ^ 26
  low : harmless k num den s = true
  high : harmless k num den t = true

instance {num den : Nat} {s t : Neighbour} : Decidable (Adjacent num den s t) :=
  decidable_of_iff (t.p * s.q = s.p * t.q + 1 ∧ s.p * den + s.rest = s.q * num ∧
      t.q * num + t.rest = t.p * den)
    ⟨fun ⟨h1, h2, h3⟩ => ⟨h1, h2, h3⟩, fun ⟨h1, h2, h3⟩ => ⟨h1, h2, h3⟩⟩

instance {k : Int} {num den : Nat} {s t : Neighbour} : Decidable (InOrder k num den s t) :=
  decidable_of_iff (Adjacent num den s t ∧ 2 ^ 25 * den ≤ (s.q + t.q) * num ∧ s.q + t.q ≤ 2 ^ 26 ∧
      harmless k num den s = true ∧ harmless k num den t = true)
    ⟨fun ⟨h1, h2, h3, h4, h5⟩ => ⟨h1, h2, h3, h4, h5⟩,
      fun ⟨h1, h2, h3, h4, h5⟩ => ⟨h1, h2, h3, h4, h5⟩⟩

/-- The neighbours of a ratio, from the whole numbers around it on. -/
def neighbours (num den : Nat) : Neighbour × Neighbour :=
  narrow (2 ^ 25 * den / num) 20 ⟨num / den, 1, num % den⟩ ⟨num / den + 1, 1, den - num % den⟩

/-- Nothing near to a midpoint in units of `2 ^ (e - 1)` is read wrong. -/
def inOrderAt (e : Int) : Bool :=
  let (num, den) := ratio e
  let (s, t) := neighbours num den
  decide (den < num ∧ num ≤ 10 * den ∧ InOrder (firstPower e) num den s t)

/-- The exponents of single precision are gone through. -/
theorem all_inOrder : (List.range 254).all (fun i => inOrderAt (i - 149)) = true := by
  decide +kernel

theorem exists_inOrder {e : Int} (hlow : -149 ≤ e) (hhigh : e ≤ 104) :
    (ratio e).2 < (ratio e).1 ∧ (ratio e).1 ≤ 10 * (ratio e).2 ∧
      ∃ s t, InOrder (firstPower e) (ratio e).1 (ratio e).2 s t := by
  have hall := List.all_eq_true.mp all_inOrder (e + 149).toNat (List.mem_range.mpr (by omega))
  rw [Int.toNat_of_nonneg (by omega), Int.add_sub_cancel] at hall
  simp only [inOrderAt, decide_eq_true_eq] at hall
  exact ⟨hall.1, hall.2.1, _, _, hall.2.2⟩

theorem ratio_div (e : Int) :
    ((ratio e).1 : ℚ) / (ratio e).2 = 10 ^ firstPower e / 2 ^ (e - 1) := by
  have hpow : ∀ (b : ℚ) (k : Int), b ≠ 0 → b ^ k = b ^ k.toNat / b ^ (-k).toNat := fun b k hb => by
    rw [← zpow_natCast, ← zpow_natCast, ← zpow_sub₀ hb]
    congr 1
    omega
  rw [ratio, hpow 10 _ (by norm_num), hpow 2 _ two_ne_zero, neg_sub]
  push_cast
  field_simp

theorem ratio_pos (e : Int) : 0 < (ratio e).2 := by
  rw [ratio]
  positivity

theorem readsRight_of_harmless {k : Int} {u : Nat} (h : harmless k num den s) (hpos : 0 < u * s.q)
    (hnum : 0 < num) (hsmall : u * s.q * num < 2 ^ 25 * den) (hodd : u * s.p % 2 = 1)
    (hnear : 2 ^ 26 * (u * s.rest) < den) :
    s.rest = 0 ∧ k.natAbs ≤ 10 ∨ u * s.q % 10 ≠ 0 ∧ readsRight (u * s.q) k = true := by
  have hu : 0 < u := Nat.pos_of_mul_pos_right hpos
  have hq : 0 < s.q := Nat.pos_of_mul_pos_left hpos
  simp only [harmless, Bool.or_eq_true, decide_eq_true_eq, List.all_eq_true, List.mem_range,
    Bool.and_eq_true] at h
  rcases h with (h | h) | h
  · exact .inl h
  · have := Nat.le_mul_of_pos_left s.rest hu
    omega
  · have hrange : u ≤ 2 ^ 25 * den / (s.q * num) := by
      rw [Nat.le_div_iff_mul_le (by positivity), ← Nat.mul_assoc]
      exact hsmall.le
    rcases h u (Nat.lt_succ_of_le hrange) with (h | h) | h
    · omega
    · omega
    · exact .inr h

/-- Very near to an odd number of half units are only such a number itself and what is read right. -/
theorem InOrder.cases_of_near {k : Int} (h : InOrder k num den s t) (hnum : 0 < num) (hD : 0 < D)
    (hodd : M % 2 = 1) (hsmall : D * num < 2 ^ 25 * den)
    (hnear : (2 ^ 26 : Nat) * |(D : Int) * num - M * den| < den) :
    D * num = M * den ∧ k.natAbs ≤ 10 ∨ D % 10 ≠ 0 ∧ readsRight D k = true := by
  have hlt : D < s.q + t.q := Nat.lt_of_mul_lt_mul_right (hsmall.trans_le h.complete)
  obtain ⟨r, hr, u, rfl, rfl, hdist⟩ := h.adjacent.multiple_of_near h.small hD hlt hnear
  have hharmless : harmless k num den r = true := by
    rcases hr with rfl | rfl
    · exact h.low
    · exact h.high
  rw [hdist] at hnear
  rcases readsRight_of_harmless hharmless hD hnum hsmall hodd (by exact_mod_cast hnear) with
    ⟨hrest, hk⟩ | hright
  · rw [hrest, Nat.cast_zero, mul_zero, abs_eq_zero, sub_eq_zero] at hdist
    exact .inl ⟨by exact_mod_cast hdist, hk⟩
  · exact .inr hright

theorem firstPower_le {k e : Int} (hlow : -149 ≤ e) (hhigh : e ≤ 104)
    (hk : (2 : ℚ) ^ (e - 1) < 10 ^ k) : firstPower e ≤ k := by
  obtain ⟨hgt, hle, -⟩ := exists_inOrder hlow hhigh
  have hden : (0 : ℚ) < (ratio e).2 := by exact_mod_cast ratio_pos e
  have hratio : (10 : ℚ) ^ firstPower e / 2 ^ (e - 1) ≤ 10 := by
    rw [← ratio_div, div_le_iff₀ hden]
    exact_mod_cast hle
  rw [div_le_iff₀ (by positivity)] at hratio
  have hlt : (10 : ℚ) ^ firstPower e < 10 ^ (k + 1) := by
    rw [zpow_add_one₀ (by norm_num)]
    linarith
  exact Int.lt_add_one_iff.mp ((zpow_lt_zpow_iff_right₀ (by norm_num)).mp hlt)

/-- A decimal with its last place moved to the first power, in terms of the ratio. -/
theorem shifted_mul_ratio {k e : Int} {j : Nat} (hj : k - firstPower e = j) (D : Nat) :
    ((D * 10 ^ j : Nat) : ℚ) * (ratio e).1 * 2 ^ (e - 1) = D * 10 ^ k * (ratio e).2 := by
  have hratio := ratio_div e
  have hden : ((ratio e).2 : ℚ) ≠ 0 := by exact_mod_cast (ratio_pos e).ne'
  rw [div_eq_div_iff hden (by positivity)] at hratio
  have hpower : (10 : ℚ) ^ k = 10 ^ j * 10 ^ firstPower e := by
    rw [← zpow_natCast, ← zpow_add₀ (by norm_num), ← hj, Int.sub_add_cancel]
  rw [mul_assoc, hratio, hpower]
  push_cast
  ring

/-- The distance of a decimal and a number of half units, in terms of the ratio. -/
theorem abs_sub_mul_ratio {k e : Int} {j : Nat} (hj : k - firstPower e = j) (D M : Nat) :
    |(D : ℚ) * 10 ^ k - M * 2 ^ (e - 1)| * (ratio e).2 =
      (|((D * 10 ^ j : Nat) : Int) * (ratio e).1 - M * (ratio e).2| : Int) * 2 ^ (e - 1) := by
  have hhalf : (0 : ℚ) < 2 ^ (e - 1) := by positivity
  have hden : (0 : ℚ) < (ratio e).2 := by exact_mod_cast ratio_pos e
  have hcast : ((((D * 10 ^ j : Nat) : Int) * (ratio e).1 - M * (ratio e).2 : Int) : ℚ) *
      2 ^ (e - 1) = ((D : ℚ) * 10 ^ k - M * 2 ^ (e - 1)) * (ratio e).2 := by
    rw [Int.cast_sub, Int.cast_mul, Int.cast_mul, Int.cast_natCast, Int.cast_natCast,
      Int.cast_natCast, Int.cast_natCast, sub_mul, shifted_mul_ratio hj]
    ring
  rw [Int.cast_abs, ← abs_of_pos hhalf, ← abs_mul, abs_of_pos hhalf, hcast, abs_mul,
    abs_of_pos hden]

/-- **A decimal whose last place is longer than half a unit is not near to a midpoint.** It may be
the midpoint itself, which the double then is as well, and in the few other cases the double makes
no difference. -/
theorem midpoint_cases {k e : Int} (hlow : -149 ≤ e) (hhigh : e ≤ 104)
    (hodd : M % 2 = 1) (hD : D % 10 ≠ 0) (hk : (2 : ℚ) ^ (e - 1) < 10 ^ k)
    (hsmall : (D : ℚ) * 10 ^ k < 2 ^ 25 * 2 ^ (e - 1)) :
    (2 : ℚ) ^ (e - 1) ≤ 2 ^ 26 * |(D : ℚ) * 10 ^ k - M * 2 ^ (e - 1)| ∨
      (D : ℚ) * 10 ^ k = M * 2 ^ (e - 1) ∧ k.natAbs ≤ 22 ∨ readsRight D k = true := by
  obtain ⟨hgt, -, s, t, h⟩ := exists_inOrder hlow hhigh
  obtain ⟨j, hj⟩ := Int.eq_ofNat_of_zero_le (Int.sub_nonneg.mpr (firstPower_le hlow hhigh hk))
  have hshifted := shifted_mul_ratio hj D
  have hdist := abs_sub_mul_ratio hj D M
  have hden : (0 : ℚ) < (ratio e).2 := by exact_mod_cast ratio_pos e
  have hhalf : (0 : ℚ) < 2 ^ (e - 1) := by positivity
  generalize (ratio e).1 = num at *
  generalize (ratio e).2 = den at *
  have hsmall : D * 10 ^ j * num < 2 ^ 25 * den := by
    have hlt : ((D * 10 ^ j : Nat) : ℚ) * num < 2 ^ 25 * den := by
      refine lt_of_mul_lt_mul_right ?_ hhalf.le
      rw [hshifted, mul_right_comm (2 ^ 25 : ℚ)]
      exact mul_lt_mul_of_pos_right hsmall hden
    exact_mod_cast hlt
  by_cases hnear : (2 ^ 26 : Nat) * |((D * 10 ^ j : Nat) : Int) * num - M * den| < den
  · right
    have hDpos : 0 < D := by omega
    rcases h.cases_of_near (by omega) (by positivity) hodd hsmall hnear with
      ⟨heq, hpower⟩ | ⟨hten, hright⟩
    · have heq : ((D * 10 ^ j : Nat) : ℚ) * num = M * den := by exact_mod_cast heq
      have hj8 : j < 8 := by
        by_contra hj8
        have hpow : 10 ^ 8 ≤ 10 ^ j := Nat.pow_le_pow_right (by decide) (by omega)
        have hDj : 10 ^ j ≤ D * 10 ^ j := Nat.le_mul_of_pos_left _ hDpos
        have hgrow : D * 10 ^ j * den ≤ D * 10 ^ j * num := Nat.mul_le_mul_left _ hgt.le
        have hlt : D * 10 ^ j < 2 ^ 25 := Nat.lt_of_mul_lt_mul_right (hgrow.trans_lt hsmall)
        omega
      refine .inl ⟨mul_right_cancel₀ hden.ne' ?_, by omega⟩
      rw [← hshifted, heq]
      ring
    · obtain rfl : j = 0 := by
        by_contra hj0
        exact hten (Nat.mod_eq_zero_of_dvd ((dvd_pow_self 10 hj0).mul_left D))
      rw [Nat.pow_zero, Nat.mul_one] at hright
      obtain rfl : k = firstPower e := by omega
      exact .inr hright
  · left
    have hfar : (den : ℚ) ≤ 2 ^ 26 * (|((D * 10 ^ j : Nat) : Int) * num - M * den| : Int) := by
      exact_mod_cast not_lt.mp hnear
    refine le_of_mul_le_mul_right ?_ hden
    rw [mul_assoc, hdist, ← mul_assoc, mul_comm]
    exact mul_le_mul_of_nonneg_right hfar hhalf.le

end RulePyramid.Json.Number
