import Mathlib.Algebra.Order.Field.Power
import Mathlib.Data.Int.Log
import Mathlib.Data.Rat.Floor
import Mathlib.Tactic.FieldSimp
import Mathlib.Tactic.GCongr
import Mathlib.Tactic.Linarith
import Mathlib.Tactic.NormNum
import Mathlib.Tactic.Positivity
import RulePyramid.Binary.Shortest

/-!
What rounding gives. In the unit of a value the significand is the nearest integer (`round_eq`), so
a value that the format has is kept (`stands_round`), any other one is changed by at most half a
unit (`exists_stands_round`), and the values that are rounded to a number are those of its interval
(`round_eq_of_holds`). Values are rational numbers, given as a fraction. Operations round the exact
result, which is such a fraction again.
-/

namespace RulePyramid

/-- The numbers of an interval. -/
structure Decimal.Interval.Holds (i : Interval) (x : ℚ) : Prop where
  low_le : i.low ≤ x
  le_high : x ≤ i.high
  closed_of_end : x = i.low ∨ x = i.high → i.closed

namespace Binary

variable {f : Format} {negative : Bool} {num den n d m m' : Nat} {e : Int} {x : ℚ}

/-! ## The nearest integer -/

/-- The integer nearest to `x`, a tie going to the even one. -/
structure IsNearest (x : ℚ) (m : Nat) : Prop where
  near : |x - m| ≤ 1 / 2
  even_of_tie : |x - m| = 1 / 2 → m % 2 = 0

theorem IsNearest.natCast (m : Nat) : IsNearest m m where
  near := by rw [sub_self, abs_zero]; norm_num
  even_of_tie h := by norm_num at h

theorem IsNearest.unique (h : IsNearest x m) (h' : IsNearest x m') : m = m' := by
  obtain ⟨hlow, hhigh⟩ := abs_le.mp h.near
  obtain ⟨hlow', hhigh'⟩ := abs_le.mp h'.near
  rcases lt_trichotomy m m' with hlt | heq | hlt
  · have hcast : (m : ℚ) + 1 ≤ m' := by exact_mod_cast hlt
    have htie := h.even_of_tie (by rw [abs_eq (by norm_num)]; left; linarith)
    have htie' := h'.even_of_tie (by rw [abs_eq (by norm_num)]; right; linarith)
    have hnext : (m' : ℚ) = m + 1 := by linarith
    have hnext : m' = m + 1 := by exact_mod_cast hnext
    omega
  · exact heq
  · have hcast : (m' : ℚ) + 1 ≤ m := by exact_mod_cast hlt
    have htie := h.even_of_tie (by rw [abs_eq (by norm_num)]; right; linarith)
    have htie' := h'.even_of_tie (by rw [abs_eq (by norm_num)]; left; linarith)
    have hnext : (m : ℚ) = m' + 1 := by linarith
    have hnext : m = m' + 1 := by exact_mod_cast hnext
    omega

/-- A quotient as a whole number and a fraction. -/
theorem natCast_div_eq (n : Nat) (hd : 0 < d) :
    (n : ℚ) / d = (n / d : Nat) + ((n % d : Nat) : ℚ) / d := by
  have hdq : (d : ℚ) ≠ 0 := by exact_mod_cast hd.ne'
  have hn : ((n / d : Nat) : ℚ) * d + (n % d : Nat) = n := by
    exact_mod_cast Nat.div_add_mod' n d
  field_simp
  linarith

theorem num_pos_of_div_eq (h : (num : ℚ) / den = x) (hx : 0 < x) : 0 < num := by
  rcases Nat.eq_zero_or_pos num with rfl | hnum
  · rw [Nat.cast_zero, zero_div] at h
    exact absurd h hx.ne
  · exact hnum

theorem isNearest_roundQuotient (n : Nat) (hd : 0 < d) :
    IsNearest ((n : ℚ) / d) (roundQuotient n d) := by
  have hdq : (0 : ℚ) < d := by exact_mod_cast hd
  have hnonneg : 0 ≤ ((n % d : Nat) : ℚ) / d := by positivity
  have hlt : ((n % d : Nat) : ℚ) / d < 1 := by
    rw [div_lt_one hdq]
    exact_mod_cast Nat.mod_lt n hd
  rw [natCast_div_eq n hd, roundQuotient]
  generalize n / d = q
  rcases hc : compare (2 * (n % d)) d with _ | _ | _
  · have hr : ((n % d : Nat) : ℚ) / d < 1 / 2 := by
      rw [div_lt_div_iff₀ hdq (by norm_num), one_mul, mul_comm]
      exact_mod_cast Nat.compare_eq_lt.mp hc
    have habs : |(q : ℚ) + (n % d : Nat) / d - q| < 1 / 2 := by
      rw [add_sub_cancel_left, abs_of_nonneg hnonneg]
      exact hr
    exact ⟨habs.le, fun heq => (habs.ne heq).elim⟩
  · have hr : ((n % d : Nat) : ℚ) / d = 1 / 2 := by
      rw [div_eq_div_iff hdq.ne' (by norm_num), one_mul, mul_comm]
      exact_mod_cast Nat.compare_eq_eq.mp hc
    have habs : |(q : ℚ) + 1 / 2 - (q + q % 2 : Nat)| = 1 / 2 := by
      rcases Nat.mod_two_eq_zero_or_one q with heven | hodd
      · rw [heven, Nat.add_zero, add_sub_cancel_left, abs_of_pos (by norm_num)]
      · rw [hodd, Nat.cast_succ, add_sub_add_left_eq_sub, abs_of_neg (by norm_num)]
        norm_num
    rw [hr]
    dsimp only
    exact ⟨habs.le, fun _ => by omega⟩
  · have hr : 1 / 2 < ((n % d : Nat) : ℚ) / d := by
      rw [div_lt_div_iff₀ (by norm_num) hdq, one_mul, mul_comm]
      exact_mod_cast Nat.compare_eq_gt.mp hc
    have habs : |(q : ℚ) + (n % d : Nat) / d - (q + 1 : Nat)| < 1 / 2 := by
      rw [abs_lt]
      push_cast
      constructor <;> linarith
    exact ⟨habs.le, fun heq => (habs.ne heq).elim⟩

/-! ## Units -/

theorem inUnits_pos (hden : 0 < den) (e : Int) : 0 < (inUnits num den e).2 := by
  rw [inUnits]
  split
  · rw [Nat.shiftLeft_eq]
    positivity
  · exact hden

theorem inUnits_div (num den : Nat) (e : Int) :
    ((inUnits num den e).1 : ℚ) / (inUnits num den e).2 = num / den / 2 ^ e := by
  rw [inUnits]
  split
  · next he =>
    have hpow : (2 : ℚ) ^ e = 2 ^ e.toNat := by rw [← zpow_natCast, Int.toNat_of_nonneg he]
    rw [hpow, Nat.shiftLeft_eq, Nat.cast_mul, div_div]
    push_cast
    rfl
  · next he =>
    have hpow : (2 : ℚ) ^ e = (2 ^ (-e).toNat)⁻¹ := by
      rw [← zpow_natCast, Int.toNat_of_nonneg (by omega), zpow_neg, inv_inv]
    rw [hpow, Nat.shiftLeft_eq, Nat.cast_mul, div_inv_eq_mul, mul_div_right_comm]
    push_cast
    rfl

theorem zpow_le_iff (hx : 0 < x) (k : Int) : (2 : ℚ) ^ k ≤ x ↔ k ≤ Int.log 2 x := by
  exact_mod_cast Int.zpow_le_iff_le_log (b := 2) (R := ℚ) (by decide) hx

theorem lt_zpow_iff (hx : 0 < x) (k : Int) : x < (2 : ℚ) ^ k ↔ Int.log 2 x < k := by
  exact_mod_cast Int.lt_zpow_iff_log_lt (b := 2) (R := ℚ) (by decide) hx

theorem zpow_log_le (hx : 0 < x) : (2 : ℚ) ^ Int.log 2 x ≤ x := (zpow_le_iff hx _).mpr le_rfl

theorem log_eq_of_bounds (hlow : (2 : ℚ) ^ e ≤ x) (hhigh : x < 2 ^ (e + 1)) : Int.log 2 x = e := by
  have hx : 0 < x := lt_of_lt_of_le (by positivity) hlow
  have hge := (zpow_le_iff hx e).mp hlow
  have hlt := (lt_zpow_iff hx (e + 1)).mp hhigh
  omega

theorem zpow_congr {k l : Int} (h : k = l) : (2 : ℚ) ^ k = 2 ^ l := h ▸ rfl

/-- The lengths of two numbers give the logarithm of their quotient up to one. -/
theorem bounds_of_log2 (hnum : 0 < num) (hden : 0 < den) :
    (2 : ℚ) ^ ((num.log2 : Int) - den.log2 - 1) ≤ num / den ∧
      (num : ℚ) / den < 2 ^ ((num.log2 : Int) - den.log2 + 1) := by
  have hlog : ∀ {n : Nat}, 0 < n →
      (2 : ℚ) ^ (n.log2 : Int) ≤ n ∧ (n : ℚ) < 2 ^ ((n.log2 : Int) + 1) := fun {n} hn => by
    constructor
    · exact_mod_cast Nat.log2_self_le hn.ne'
    · exact_mod_cast Nat.lt_log2_self
  obtain ⟨hnumLow, hnumHigh⟩ := hlog hnum
  obtain ⟨hdenLow, hdenHigh⟩ := hlog hden
  have hdenq : (0 : ℚ) < den := by exact_mod_cast hden
  constructor
  · rw [le_div_iff₀ hdenq]
    calc (2 : ℚ) ^ ((num.log2 : Int) - den.log2 - 1) * den
        ≤ 2 ^ ((num.log2 : Int) - den.log2 - 1) * 2 ^ ((den.log2 : Int) + 1) := by gcongr
      _ = 2 ^ (num.log2 : Int) := by rw [← zpow_add₀ two_ne_zero]; exact zpow_congr (by omega)
      _ ≤ num := hnumLow
  · rw [div_lt_iff₀ hdenq]
    calc (num : ℚ) < 2 ^ ((num.log2 : Int) + 1) := hnumHigh
      _ = 2 ^ ((num.log2 : Int) - den.log2 + 1) * 2 ^ (den.log2 : Int) := by
        rw [← zpow_add₀ two_ne_zero]
        exact zpow_congr (by omega)
      _ ≤ 2 ^ ((num.log2 : Int) - den.log2 + 1) * den := by gcongr

/-- The unit of the numbers around `x`. -/
def unitAt (f : Format) (x : ℚ) : Int := max f.least (Int.log 2 x - f.precision + 1)

theorem unitOf_eq (hf : 0 < f.precision) (hnum : 0 < num) (hden : 0 < den) :
    unitOf f num den = unitAt f (num / den) := by
  obtain ⟨hlow, hhigh⟩ := bounds_of_log2 hnum hden
  rw [unitOf, unitAt]
  set e : Int := (num.log2 : Int) - den.log2 - f.precision with he
  have hpos : (0 : ℚ) < (inUnits num den (e + 1)).2 := by exact_mod_cast inUnits_pos hden (e + 1)
  have htest : (inUnits num den (e + 1)).1 < (inUnits num den (e + 1)).2 <<< (f.precision - 1) ↔
      (num : ℚ) / den < 2 ^ (e + f.precision) := by
    have hsplit : (2 : ℚ) ^ (e + f.precision) = 2 ^ (f.precision - 1) * 2 ^ (e + 1) := by
      rw [← zpow_natCast, ← zpow_add₀ two_ne_zero]
      exact zpow_congr (by omega)
    rw [hsplit, ← div_lt_iff₀ (by positivity), ← inUnits_div, div_lt_iff₀ hpos, Nat.shiftLeft_eq,
      mul_comm]
    norm_cast
  simp only [htest]
  congr 1
  split
  · next hlt =>
    have hlog : Int.log 2 ((num : ℚ) / den) = e + f.precision - 1 :=
      log_eq_of_bounds ((zpow_congr (by omega)).trans_le hlow)
        (hlt.trans_eq (zpow_congr (by omega)))
    omega
  · next hge =>
    have hlog : Int.log 2 ((num : ℚ) / den) = e + f.precision :=
      log_eq_of_bounds (not_lt.mp hge) (hhigh.trans_eq (zpow_congr (by omega)))
    omega

/-- In its unit a value has at most `precision` digits before the point. -/
theorem div_unitAt_lt (f : Format) (hx : 0 < x) : x / 2 ^ unitAt f x < 2 ^ f.precision := by
  rw [div_lt_iff₀ (by positivity), ← zpow_natCast, ← zpow_add₀ two_ne_zero, lt_zpow_iff hx, unitAt]
  omega

/-! ## Rounding -/

/-- A number is rounded in its unit. Rounding up to a power of two gives the least number with the
next unit. -/
theorem round_eq (negative : Bool) (hf : 0 < f.precision) (hnum : 0 < num) (hden : 0 < den)
    (hx : (num : ℚ) / den = x) (hm : IsNearest (x / 2 ^ unitAt f x) m) :
    (round negative num den : Binary f) =
      if m = 2 ^ f.precision then
        if f.greatest < unitAt f x + 1 then .infinite negative
        else .finite negative (2 ^ (f.precision - 1)) (unitAt f x + 1)
      else if f.greatest < unitAt f x then .infinite negative
      else .finite negative m (unitAt f x) := by
  have hq : roundQuotient (inUnits num den (unitAt f x)).1
      (inUnits num den (unitAt f x)).2 = m := by
    refine (isNearest_roundQuotient _ (inUnits_pos hden _)).unique ?_
    rwa [inUnits_div, hx]
  have hhalf : 2 ^ f.precision / 2 = 2 ^ (f.precision - 1) := by
    rw [← Nat.pow_div (by omega) (by decide), Nat.pow_one]
  simp only [round, hnum.ne', if_false, unitOf_eq hf hnum hden, hx, hq, Nat.shiftLeft_eq,
    Nat.one_mul]
  by_cases hm : m = 2 ^ f.precision
  · simp only [hm, hhalf, if_true]
  · simp only [hm, if_false]

theorem exists_isNearest (hx : 0 ≤ x) : ∃ m, IsNearest x m := by
  have hquotient : (x.num.toNat : ℚ) / x.den = x := by
    rw [← Int.cast_natCast, Int.toNat_of_nonneg (Rat.num_nonneg.mpr hx), Rat.num_div_den]
  exact ⟨_, hquotient ▸ isNearest_roundQuotient x.num.toNat x.pos⟩

/-- A format with room for a carry. -/
structure Format.Proper (f : Format) : Prop where
  precision_pos : 0 < f.precision
  least_lt : f.least < f.greatest

theorem Format.proper_single : Format.single.Proper := ⟨by decide, by decide⟩

theorem Format.proper_double : Format.double.Proper := ⟨by decide, by decide⟩

theorem le_pow_of_isNearest (hm : IsNearest x m) (hx : x < (2 : ℚ) ^ n) : m ≤ 2 ^ n := by
  have hlt : (m : ℚ) < (2 ^ n : Nat) + 1 := by
    have hfar := (abs_le.mp hm.near).1
    push_cast
    linarith
  exact Nat.lt_succ_iff.mp (by exact_mod_cast hlt)

/-- Above the least unit a significand has all its digits. -/
theorem pow_le_of_isNearest (hf : 0 < f.precision) (hpos : 0 < x)
    (hm : IsNearest (x / 2 ^ unitAt f x) m) (hunit : unitAt f x ≠ f.least) :
    2 ^ (f.precision - 1) ≤ m := by
  have hlog : unitAt f x = Int.log 2 x - f.precision + 1 := by
    rw [unitAt] at hunit ⊢
    omega
  have hlow : ((2 ^ (f.precision - 1) : Nat) : ℚ) ≤ x / 2 ^ unitAt f x := by
    rw [le_div_iff₀ (by positivity), Nat.cast_pow, ← zpow_natCast, Nat.cast_ofNat,
      ← zpow_add₀ two_ne_zero]
    exact (zpow_congr (by omega)).trans_le (zpow_log_le hpos)
  have hlt : ((2 ^ (f.precision - 1) : Nat) : ℚ) < m + 1 := by
    have hfar := (abs_le.mp hm.near).2
    linarith
  exact Nat.lt_succ_iff.mp (by exact_mod_cast hlt)

/-- A number well below the greatest is rounded to a finite one. -/
theorem exists_round (negative : Bool) (hf : f.Proper) (hnum : 0 < num) (hden : 0 < den)
    (hx : (num : ℚ) / den = x) (hbig : x < 2 ^ (f.greatest + f.precision - 1)) :
    ∃ m e q, (round negative num den : Binary f) = .finite negative m e ∧
      IsNearest (x / 2 ^ unitAt f x) q ∧ (m : ℚ) * 2 ^ e = q * 2 ^ unitAt f x := by
  have hpos : 0 < x := hx ▸ by positivity
  have hunit : unitAt f x < f.greatest := by
    have hlog := (lt_zpow_iff hpos _).mp hbig
    have hleast := hf.least_lt
    rw [unitAt]
    omega
  obtain ⟨q, hq⟩ := exists_isNearest (div_pos hpos (by positivity : (0 : ℚ) < 2 ^ unitAt f x)).le
  have hround := round_eq negative hf.precision_pos hnum hden hx hq
  by_cases hcarry : q = 2 ^ f.precision
  · rw [if_pos hcarry, if_neg (by omega)] at hround
    refine ⟨_, _, _, hround, hq, ?_⟩
    have hp := hf.precision_pos
    rw [hcarry]
    push_cast
    rw [← zpow_natCast, ← zpow_natCast, ← zpow_add₀ two_ne_zero, ← zpow_add₀ two_ne_zero]
    exact zpow_congr (by omega)
  · rw [if_neg hcarry, if_neg hunit.le.not_gt] at hround
    exact ⟨_, _, q, hround, hq, rfl⟩

/-- The number has this sign and this magnitude. -/
def Stands (x : Binary f) (negative : Bool) (v : ℚ) : Prop :=
  ∃ m e, x = .finite negative m e ∧ (m : ℚ) * 2 ^ e = v

/-- Within the normal numbers the relative error is at most half a unit in the last place. -/
theorem exists_stands_round (negative : Bool) (hf : f.Proper) (hnum : 0 < num) (hden : 0 < den)
    (hx : (num : ℚ) / den = x) (hsmall : 2 ^ (f.least + f.precision - 1) ≤ x)
    (hbig : x < 2 ^ (f.greatest + f.precision - 1)) :
    ∃ y, (round negative num den : Binary f).Stands negative y ∧
      |y - x| ≤ x / 2 ^ f.precision := by
  have hpos : 0 < x := hx ▸ by positivity
  obtain ⟨m, e, q, hround, hq, hvalue⟩ := exists_round negative hf hnum hden hx hbig
  refine ⟨_, ⟨m, e, hround, hvalue⟩, ?_⟩
  have hlog := (zpow_le_iff hpos _).mp hsmall
  have hunit : unitAt f x = Int.log 2 x - f.precision + 1 := by
    rw [unitAt]
    omega
  have hscale : (0 : ℚ) < 2 ^ unitAt f x := by positivity
  calc |(q : ℚ) * 2 ^ unitAt f x - x| = |x / 2 ^ unitAt f x - q| * 2 ^ unitAt f x := by
        rw [abs_sub_comm, ← abs_of_pos hscale, ← abs_mul, abs_of_pos hscale, sub_mul,
          div_mul_cancel₀ _ hscale.ne']
    _ ≤ 1 / 2 * 2 ^ unitAt f x := by gcongr; exact hq.near
    _ = 2 ^ Int.log 2 x / 2 ^ f.precision := by
        rw [hunit, ← zpow_natCast, ← zpow_sub₀ two_ne_zero, zpow_add₀ two_ne_zero, zpow_one]
        ring
    _ ≤ x / 2 ^ f.precision := by gcongr; exact zpow_log_le hpos

/-- A number that the format has is not changed. -/
theorem stands_round (negative : Bool) (hf : f.Proper) (hnum : 0 < num) (hden : 0 < den)
    (hx : (num : ℚ) / den = m * 2 ^ e) (hm : m < 2 ^ f.precision) (he : f.least ≤ e)
    (hbig : (m : ℚ) * 2 ^ e < 2 ^ (f.greatest + f.precision - 1)) :
    (round negative num den : Binary f).Stands negative (m * 2 ^ e) := by
  have hpos : (0 : ℚ) < m * 2 ^ e := hx ▸ by positivity
  obtain ⟨m', e', q, hround, hq, hvalue⟩ := exists_round negative hf hnum hden hx hbig
  refine ⟨m', e', hround, ?_⟩
  have hlog : Int.log 2 ((m : ℚ) * 2 ^ e) < e + f.precision := by
    rw [← lt_zpow_iff hpos, add_comm, zpow_add₀ two_ne_zero, zpow_natCast]
    gcongr
    exact_mod_cast hm
  have hunit : unitAt f ((m : ℚ) * 2 ^ e) ≤ e := by
    rw [unitAt]
    omega
  have hwhole : (m : ℚ) * 2 ^ e / 2 ^ unitAt f ((m : ℚ) * 2 ^ e) =
      (m * 2 ^ (e - unitAt f ((m : ℚ) * 2 ^ e)).toNat : Nat) := by
    push_cast
    rw [← zpow_natCast, Int.toNat_of_nonneg (by omega), zpow_sub₀ two_ne_zero, mul_div_assoc]
  rw [hwhole] at hq
  rw [hvalue, hq.unique (.natCast _), ← hwhole, div_mul_cancel₀ _ (by positivity)]

/-! ## Numbers of a format -/

/-- The numbers that a format has: the significand has all its digits, unless the unit is the
least one. -/
structure IsNormal (f : Format) (m : Nat) (e : Int) : Prop where
  least_le : f.least ≤ e
  le_greatest : e ≤ f.greatest
  lt_pow : m < 2 ^ f.precision
  unit : e = f.least ∨ 2 ^ (f.precision - 1) ≤ m

def WellFormed : Binary f → Prop
  | .finite _ m e => IsNormal f m e
  | _ => True

theorem wellFormed_zero (hf : f.Proper) : (zero negative : Binary f).WellFormed where
  least_le := le_rfl
  le_greatest := hf.least_lt.le
  lt_pow := by positivity
  unit := .inl rfl

/-- Rounding gives numbers of the format. -/
theorem wellFormed_round (hf : f.Proper) (hden : 0 < den) :
    (round negative num den : Binary f).WellFormed := by
  rcases Nat.eq_zero_or_pos num with rfl | hnum
  · exact wellFormed_zero hf
  have hp := hf.precision_pos
  have hpos : (0 : ℚ) < num / den := by positivity
  have hleast : f.least ≤ unitAt f (num / den) := le_max_left _ _
  obtain ⟨q, hq⟩ := exists_isNearest
    (div_pos hpos (by positivity : (0 : ℚ) < 2 ^ unitAt f (num / den))).le
  have hle := le_pow_of_isNearest hq (div_unitAt_lt f hpos)
  rw [round_eq negative hp hnum hden rfl hq]
  split
  · split
    · trivial
    · exact ⟨by omega, by omega, Nat.pow_lt_pow_right (by decide) (by omega), .inr le_rfl⟩
  · split
    · trivial
    · refine ⟨hleast, by omega, by omega, ?_⟩
      by_cases hunit : unitAt f (num / den) = f.least
      · exact .inl hunit
      · exact .inr (pow_le_of_isNearest hp hpos hq hunit)

theorem div_quarter (x : ℚ) (e : Int) : x / 2 ^ (e - 2) = 4 * (x / 2 ^ e) := by
  rw [zpow_sub₀ two_ne_zero, div_div_eq_mul_div]
  ring

/-- In its own unit a value of the interval of `m` is at most half a unit from `m`. -/
theorem isNearest_of_holds (hpos : 0 < m) (h : (interval f m e).Holds (x / 2 ^ (e - 2))) :
    IsNearest (x / 2 ^ e) m := by
  obtain ⟨hlow, hhigh, hend⟩ := h
  have hlow' : 4 * (m : ℚ) ≤ (interval f m e).low + 2 := by
    have hle : 4 * m ≤ (interval f m e).low + 2 := by
      rw [interval]
      dsimp only
      split <;> omega
    exact_mod_cast hle
  have hhigh' : ((interval f m e).high : ℚ) = 4 * m + 2 := by
    rw [interval]
    push_cast
    rfl
  have heven : (interval f m e).closed = true → m % 2 = 0 := fun hclosed => by
    simpa [interval] using hclosed
  rw [div_quarter] at hlow hhigh hend
  refine ⟨abs_le.mpr ⟨by linarith, by linarith⟩, fun htie => heven (hend ?_)⟩
  rcases (abs_eq (by norm_num)).mp htie with htie | htie
  · exact .inr (by linarith)
  · exact .inl (by linarith)

/-- Just below a power of two, where the unit is half as large, rounding carries. -/
theorem round_eq_of_lt_pow (hf : f.Proper) (hnum : 0 < num) (hden : 0 < den)
    (hx : (num : ℚ) / den = x) (hleast : f.least < e) (hmax : e ≤ f.greatest)
    (hm : m = 2 ^ (f.precision - 1)) (hlow : m - 1 / 4 ≤ x / 2 ^ e) (hlt : x / 2 ^ e < m) :
    (round negative num den : Binary f) = .finite negative m e := by
  have hp := hf.precision_pos
  have hscale : (0 : ℚ) < 2 ^ e := by positivity
  have hm1 : (1 : ℚ) ≤ m := by
    rw [hm]
    exact_mod_cast Nat.one_le_two_pow
  have hpow : (m : ℚ) * 2 ^ e = 2 ^ (e + f.precision - 1) := by
    rw [hm, Nat.cast_pow, Nat.cast_ofNat, ← zpow_natCast, ← zpow_add₀ two_ne_zero]
    exact zpow_congr (by omega)
  have hlog : Int.log 2 x = e + f.precision - 2 := by
    refine log_eq_of_bounds ?_ ?_
    · have hhalf : (2 : ℚ) ^ (e + f.precision - 2) = m / 2 * 2 ^ e := by
        rw [div_mul_eq_mul_div, hpow, div_eq_mul_inv, ← zpow_sub_one₀ two_ne_zero]
        exact zpow_congr (by omega)
      rw [hhalf, ← le_div_iff₀ hscale]
      linarith
    · rw [div_lt_iff₀ hscale, hpow] at hlt
      exact hlt.trans_eq (zpow_congr (by omega))
  have hunit : unitAt f x = e - 1 := by
    rw [unitAt]
    omega
  have hcarry : IsNearest (x / 2 ^ unitAt f x) (2 ^ f.precision) := by
    have hdouble : ((2 ^ f.precision : Nat) : ℚ) = 2 * m := by
      rw [hm, ← Nat.sub_add_cancel hp, Nat.pow_succ']
      push_cast
      rfl
    have hx2 : x / 2 ^ (e - 1) = 2 * (x / 2 ^ e) := by
      rw [zpow_sub_one₀ two_ne_zero, div_mul_eq_div_div, div_inv_eq_mul, mul_comm]
    rw [hunit, hx2]
    refine ⟨?_, fun _ => ?_⟩
    · rw [hdouble, abs_le]
      constructor <;> linarith
    · rw [← Nat.sub_add_cancel hp, Nat.pow_succ', Nat.mul_mod_right]
  rw [round_eq negative hp hnum hden hx hcarry, if_pos rfl, hunit, Int.sub_add_cancel,
    if_neg hmax.not_gt, hm]

/-- **Rounding finds the number in whose interval a value lies.** -/
theorem round_eq_of_holds (hf : f.Proper) (hm : IsNormal f m e) (hpos : 0 < m) (hnum : 0 < num)
    (hden : 0 < den) (hx : (num : ℚ) / den = x) (h : (interval f m e).Holds (x / 2 ^ (e - 2))) :
    (round negative num den : Binary f) = .finite negative m e := by
  have hp := hf.precision_pos
  have hxpos : 0 < x := hx ▸ by positivity
  have hscale : (0 : ℚ) < 2 ^ e := by positivity
  have hnear := isNearest_of_holds hpos h
  obtain ⟨hfar, hfar'⟩ := abs_le.mp hnear.near
  have hhigh : x < 2 ^ (e + f.precision) := by
    have hmax : (m : ℚ) + 1 ≤ 2 ^ f.precision := by exact_mod_cast hm.lt_pow
    rw [zpow_add₀ two_ne_zero, zpow_natCast, ← div_lt_iff₀' hscale]
    linarith
  have hlog := (lt_zpow_iff hxpos _).mp hhigh
  by_cases hunit : unitAt f x = e
  · rw [round_eq negative hp hnum hden hx (hunit.symm ▸ hnear), if_neg hm.lt_pow.ne, hunit,
      if_neg hm.le_greatest.not_gt]
  · have hleast : f.least < e := by
      have hle := hm.least_le
      rw [unitAt] at hunit
      omega
    have hlt : x / 2 ^ e < (2 ^ (f.precision - 1) : Nat) := by
      by_contra hge
      rw [not_lt, le_div_iff₀ hscale, Nat.cast_pow, Nat.cast_ofNat, ← zpow_natCast,
        ← zpow_add₀ two_ne_zero, zpow_le_iff hxpos] at hge
      rw [unitAt] at hunit
      omega
    have hpow : m = 2 ^ (f.precision - 1) := by
      have hle : (m : ℚ) < (2 ^ (f.precision - 1) : Nat) + 1 := by linarith
      have hle : m ≤ 2 ^ (f.precision - 1) := Nat.lt_succ_iff.mp (by exact_mod_cast hle)
      exact le_antisymm hle (hm.unit.resolve_left hleast.ne')
    have hlow : (interval f m e).low = 4 * m - 1 := by
      rw [interval, if_pos ⟨by rw [Nat.one_shiftLeft, hpow], hleast⟩]
    have hquarter : 4 * (m : ℚ) - 1 ≤ 4 * (x / 2 ^ e) := by
      have hle := h.low_le
      rwa [hlow, div_quarter, Nat.cast_sub (by omega), Nat.cast_mul, Nat.cast_ofNat,
        Nat.cast_one] at hle
    exact round_eq_of_lt_pow hf hnum hden hx hleast hm.le_greatest hpow (by linarith)
      (hpow.symm ▸ hlt)

/-! ## Operations -/

variable {v w : ℚ} {negative' : Bool} {y z : Binary f} {g : Format}

theorem exists_roundScaled (negative : Bool) (m : Nat) (e : Int) :
    ∃ num den : Nat, 0 < den ∧ (num : ℚ) / den = m * 2 ^ e ∧
      (roundScaled negative m e : Binary f) = round negative num den := by
  by_cases he : 0 ≤ e
  · refine ⟨m <<< e.toNat, 1, one_pos, ?_, by rw [roundScaled, if_pos he]⟩
    rw [Nat.shiftLeft_eq, Nat.cast_one, div_one, ← Int.toNat_of_nonneg he]
    push_cast
    rfl
  · refine ⟨m, 1 <<< (-e).toNat, ?_, ?_, by rw [roundScaled, if_neg he]⟩
    · rw [Nat.one_shiftLeft]
      positivity
    · rw [Nat.one_shiftLeft, Nat.cast_pow, Nat.cast_ofNat, ← zpow_natCast,
        Int.toNat_of_nonneg (by omega), zpow_neg, div_inv_eq_mul]

theorem Stands.exists_convert (h : y.Stands negative v) :
    ∃ num den : Nat, 0 < den ∧ (num : ℚ) / den = v ∧
      (y.convert : Binary g) = round negative num den := by
  obtain ⟨m, e, rfl, rfl⟩ := h
  exact exists_roundScaled negative m e

theorem wellFormed_convert (hg : g.Proper) (x : Binary f) : (x.convert : Binary g).WellFormed := by
  cases x with
  | nan => trivial
  | infinite => trivial
  | finite negative m e =>
    obtain ⟨num, den, hden, -, heq⟩ := exists_roundScaled (f := g) negative m e
    change (roundScaled negative m e : Binary g).WellFormed
    rw [heq]
    exact wellFormed_round hg hden

theorem Stands.exists_mul (h : y.Stands false v) (h' : z.Stands false w) :
    ∃ num den : Nat, 0 < den ∧ (num : ℚ) / den = v * w ∧ y * z = round false num den := by
  obtain ⟨m, e, rfl, rfl⟩ := h
  obtain ⟨m', e', rfl, rfl⟩ := h'
  obtain ⟨num, den, hden, hx, hround⟩ := exists_roundScaled (f := f) false (m * m') (e + e')
  refine ⟨num, den, hden, ?_, hround⟩
  rw [hx, zpow_add₀ two_ne_zero]
  push_cast
  ring

theorem Stands.exists_div (h : y.Stands false v) (h' : z.Stands false w) (hw : 0 < w) :
    ∃ num den : Nat, 0 < den ∧ (num : ℚ) / den = v / w ∧ y / z = round false num den := by
  obtain ⟨m, e, rfl, rfl⟩ := h
  obtain ⟨m', e', rfl, rfl⟩ := h'
  have hm' : m' ≠ 0 := by
    rintro rfl
    rw [Nat.cast_zero, zero_mul] at hw
    exact hw.false
  by_cases he : 0 ≤ e - e'
  · refine ⟨m <<< (e - e').toNat, m', Nat.pos_of_ne_zero hm', ?_, ?_⟩
    · rw [Nat.shiftLeft_eq, Nat.cast_mul, Nat.cast_pow, Nat.cast_ofNat, ← zpow_natCast,
        Int.toNat_of_nonneg he, zpow_sub₀ two_ne_zero]
      field_simp
    · change div _ _ = _
      simp only [div, hm', he, if_true, if_false, bne_self_eq_false]
  · refine ⟨m, m' <<< (e' - e).toNat, ?_, ?_, ?_⟩
    · rw [Nat.shiftLeft_eq]
      positivity
    · rw [Nat.shiftLeft_eq, Nat.cast_mul, Nat.cast_pow, Nat.cast_ofNat, ← zpow_natCast,
        Int.toNat_of_nonneg (by omega), zpow_sub₀ two_ne_zero]
      field_simp
    · change div _ _ = _
      simp only [div, hm', he, if_false, bne_self_eq_false]

end Binary

end RulePyramid
