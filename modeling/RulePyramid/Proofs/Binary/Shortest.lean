import RulePyramid.Proofs.Binary.Rounding

/-!
Where the shortest decimal of a number lies. It is in the interval of the number
(`IsShortest.holds`), so that the nearest number to it is this one. It comes near to an end of the
interval only if its last place is longer than the way from the number to this end, and its digits
are few, because the next place is longer in any case (`isShortest_shortest`). All of it is said of
the integers in which the search is done first.
-/

namespace RulePyramid

namespace Decimal

variable {d : Decimal} {i : Interval} {tie : Tie} {step n k : Nat}

/-- The number that a decimal stands for. -/
def value (d : Decimal) : ℚ := d.digits * 10 ^ d.exponent

theorem lt_pow_length (n : Nat) : n < 10 ^ length n :=
  (Nat.length_toDigits_le_iff (by decide) Nat.length_toDigits_pos).mp le_rfl

namespace Interval

/-! ## The nearest multiple -/

/-- A value inside its interval, nearer to the low end than to the high one but not more than twice
as near, and with the low end at least half as large. -/
structure Balanced (i : Interval) : Prop where
  low_lt : i.low < i.value
  nearer : i.value + i.value ≤ i.low + i.high
  balanced : i.high + 2 * i.low ≤ 3 * i.value
  half : i.value ≤ 2 * i.low

theorem Balanced.lt_high (h : i.Balanced) : i.value < i.high := by
  have hlow := h.low_lt
  have hnearer := h.nearer
  omega

/-- A number of the interval that is near to one of its ends only where the numbers with the same
last place are far apart. -/
structure Picks (i : Interval) (step x : Nat) : Prop where
  contains : i.contains x
  high : i.value + step ≤ i.high → 2 * x ≤ i.value + i.high
  low : i.low + step ≤ i.value → i.low + i.value ≤ 2 * x

theorem low_le (h : i.contains n) : i.low ≤ n := by
  rw [contains] at h
  split at h <;> simp only [Bool.and_eq_true, decide_eq_true_eq] at h <;> omega

theorem le_high (h : i.contains n) : n ≤ i.high := by
  rw [contains] at h
  split at h <;> simp only [Bool.and_eq_true, decide_eq_true_eq] at h <;> omega

theorem contains_of_lt (hlow : i.low < n) (hhigh : n < i.high) : i.contains n := by
  rw [contains]
  split <;> simp only [Bool.and_eq_true, decide_eq_true_eq] <;> omega

theorem outside (h : i.contains n = false) : n ≤ i.low ∨ i.high ≤ n := by
  by_contra hinside
  rw [not_or, not_le, not_le] at hinside
  rw [contains_of_lt hinside.1 hinside.2] at h
  cases h

/-- A value between two multiples of a step. -/
theorem between_multiples (value : Nat) (hstep : 0 < step) :
    value / step * step + value % step = value ∧ value % step < step ∧
      (value / step + 1) * step = value / step * step + step :=
  ⟨Nat.div_add_mod' _ _, Nat.mod_lt _ hstep, Nat.succ_mul _ _⟩

/-- Where the interval has no multiple of the step, the step is longer than the way from the value
to the high end. -/
theorem lt_of_nearest?_eq_none (hi : i.Balanced) (hstep : 0 < step)
    (h : i.nearest? tie step = none) : i.high < i.value + step := by
  obtain ⟨hvalue, hmod, hnext⟩ := between_multiples i.value hstep
  have hlow := hi.low_lt
  have hhigh := hi.lt_high
  have hnone : i.contains (i.value / step * step) = false ∧
      i.contains ((i.value / step + 1) * step) = false := by
    rw [nearest?.eq_def] at h
    dsimp only at h
    split at h
    · exact ⟨‹_›, ‹_›⟩
    · cases h
    · cases h
    · split at h <;> cases h
  rcases outside hnone.1 with h1 | h1 <;> rcases outside hnone.2 with h2 | h2 <;> omega

/-- The multiple that is taken lies in the interval. -/
theorem picks_of_nearest? (hi : i.Balanced) (hstep : 0 < step)
    (h : i.nearest? tie step = some n) : i.Picks step (n * step) := by
  obtain ⟨hvalue, hmod, hnext⟩ := between_multiples i.value hstep
  obtain ⟨hlow, hnear, hbal, -⟩ := hi
  rw [nearest?.eq_def] at h
  dsimp only at h
  generalize i.value / step = q at *
  generalize i.value % step = r at *
  split at h
  · cases h
  · next ha hb =>
    cases h
    have hout := outside hb
    exact ⟨ha, fun _ => by omega, fun _ => by omega⟩
  · next ha hb =>
    cases h
    have hout := outside ha
    exact ⟨hb, fun _ => by omega, fun _ => by omega⟩
  · next ha hb =>
    have hlower : 2 * r ≤ step → i.Picks step (q * step) := fun _ =>
      ⟨ha, fun _ => by omega, fun _ => by omega⟩
    have hupper : step ≤ 2 * r → i.Picks step ((q + 1) * step) := fun _ =>
      ⟨hb, fun _ => by omega, fun _ => by omega⟩
    split at h <;> cases h
    · next hc => exact hlower (Nat.compare_eq_lt.mp hc).le
    · next hc => exact hupper (Nat.compare_eq_gt.mp hc).le
    · next hc =>
      have heq := Nat.compare_eq_eq.mp hc
      rcases Nat.mod_two_eq_zero_or_one q with heven | hodd
      · rw [heven]
        exact hlower heq.le
      · rw [hodd]
        exact hupper heq.ge
    · next hc => exact hupper (Nat.compare_eq_eq.mp hc).ge

/-- The coarsest power of ten with a multiple in the interval. The next one, if it is tried, is
longer than the way from the value to the high end. -/
theorem coarsest_spec (hi : i.Balanced) (tie : Tie) (hk : i.high < i.value + 10 ^ (k + 1)) :
    ∃ n j : Nat, i.coarsest tie k = ⟨n, j⟩ ∧ i.Picks (10 ^ j) (n * 10 ^ j) ∧
      i.high < i.value + 10 ^ (j + 1) := by
  induction k with
  | zero =>
    refine ⟨i.value, 0, rfl, ⟨?_, fun _ => ?_, fun _ => ?_⟩, hk⟩
    · rw [Nat.pow_zero, Nat.mul_one]
      exact contains_of_lt hi.low_lt hi.lt_high
    · have hhigh := hi.lt_high
      omega
    · have hlow := hi.low_lt
      omega
  | succ k ih =>
    rw [coarsest]
    cases h : i.nearest? tie (Nat.pow 10 (k + 1)) with
    | none => exact ih (lt_of_nearest?_eq_none hi (by positivity) h)
    | some n => exact ⟨n, k + 1, rfl, picks_of_nearest? hi (by positivity) h, hk⟩

/-- The search begins at a power of ten that is long enough. -/
theorem exists_coarsest_eq (hi : i.Balanced) (tie : Tie) :
    ∃ n j : Nat, i.coarsest tie (length i.value - 1) = ⟨n, j⟩ ∧ 0 < n ∧
      i.Picks (10 ^ j) (n * 10 ^ j) ∧ i.high < i.value + 10 ^ (j + 1) := by
  have hhalf := hi.half
  have hstart : i.high < i.value + 10 ^ (length i.value - 1 + 1) := by
    have hlength := lt_pow_length i.value
    have hlengthPos : 0 < length i.value := Nat.length_toDigits_pos
    have hbalanced := hi.balanced
    rw [Nat.sub_add_cancel hlengthPos]
    omega
  obtain ⟨n, j, hn, hpicks, hcoarse⟩ := coarsest_spec hi tie hstart
  refine ⟨n, j, hn, Nat.pos_of_ne_zero fun hzero => ?_, hpicks, hcoarse⟩
  have hlow := low_le hpicks.contains
  have hlt := hi.low_lt
  rw [hzero, Nat.zero_mul] at hlow
  omega

end Interval

/-! ## Zeros at the end -/

theorem stripZeros_spec (hd : 0 < d.digits) :
    d.stripZeros.value = d.value ∧ d.exponent ≤ d.stripZeros.exponent ∧
      d.stripZeros.digits % 10 ≠ 0 := by
  induction d using stripZeros.induct with
  | case1 d h => omega
  | case2 d h hzero ih =>
    obtain ⟨hvalue, hexponent, hdigits⟩ := ih (by dsimp only; omega)
    rw [stripZeros, if_neg h, if_pos hzero]
    refine ⟨hvalue.trans ?_, by dsimp only at hexponent; omega, hdigits⟩
    have hten : ((d.digits / 10 : Nat) : ℚ) * 10 = d.digits := by
      exact_mod_cast Nat.div_mul_cancel (Nat.dvd_of_mod_eq_zero hzero)
    rw [value, value, zpow_add_one₀ (by norm_num), ← mul_assoc, mul_right_comm, hten]
  | case3 d h hnonzero =>
    rw [stripZeros, if_neg h, if_neg hnonzero]
    exact ⟨rfl, le_rfl, hnonzero⟩

/-! ## Units -/

namespace Interval

/-- An interval in units that are `scale` times smaller. -/
def scaled (i : Interval) (scale : Nat) : Interval :=
  ⟨i.low * scale, i.value * scale, i.high * scale, i.closed⟩

theorem Balanced.scaled (hi : i.Balanced) (hk : 0 < k) : (i.scaled k).Balanced where
  low_lt := Nat.mul_lt_mul_of_pos_right hi.low_lt hk
  nearer := by
    simp only [Interval.scaled, ← Nat.add_mul]
    exact Nat.mul_le_mul_right k hi.nearer
  balanced := by
    simp only [Interval.scaled, ← Nat.mul_assoc, ← Nat.add_mul]
    exact Nat.mul_le_mul_right k hi.balanced
  half := by
    simp only [Interval.scaled, ← Nat.mul_assoc]
    exact Nat.mul_le_mul_right k hi.half

theorem holds_of_contains_scaled (hk : 0 < k) (h : (i.scaled k).contains n) :
    i.Holds (n / k) := by
  have hkq : (0 : ℚ) < k := by exact_mod_cast hk
  have hlow : (i.low : ℚ) * k ≤ n := by exact_mod_cast low_le h
  have hhigh : (n : ℚ) ≤ i.high * k := by exact_mod_cast le_high h
  refine ⟨(le_div_iff₀ hkq).mpr hlow, (div_le_iff₀ hkq).mpr hhigh, fun hend => ?_⟩
  rw [div_eq_iff hkq.ne', div_eq_iff hkq.ne'] at hend
  norm_cast at hend
  by_contra hopen
  rw [contains, scaled, if_neg hopen] at h
  simp only [Bool.and_eq_true, decide_eq_true_eq] at h
  omega

end Interval

end Decimal

namespace Binary

open Decimal (Interval)

variable {f : Format} {m : Nat} {e : Int}

theorem balanced_interval (f : Format) (hm : 0 < m) (e : Int) : (interval f m e).Balanced := by
  constructor <;> simp only [interval] <;> split <;> omega

/-- A decimal in the interval of `m * 2 ^ e` that is near to an end only where its last place is
longer than the way from the value to this end. -/
structure IsShortest (f : Format) (m : Nat) (e : Int) (d : Decimal) : Prop where
  holds : (interval f m e).Holds (d.value / 2 ^ (e - 2))
  high : 2 * (d.value / 2 ^ (e - 2)) ≤ (interval f m e).value + (interval f m e).high ∨
    ((interval f m e).high - (interval f m e).value) * (2 : ℚ) ^ (e - 2) < 10 ^ d.exponent
  low : (interval f m e).low + (interval f m e).value ≤ 2 * (d.value / 2 ^ (e - 2)) ∨
    ((interval f m e).value - (interval f m e).low) * (2 : ℚ) ^ (e - 2) < 10 ^ d.exponent
  coarse : ((interval f m e).high - (interval f m e).value) * (2 : ℚ) ^ (e - 2) <
    10 ^ (d.exponent + 1)
  digits : d.digits % 10 ≠ 0

/-- A power of two is a multiple of a power of ten. -/
theorem exists_shortest_eq (f : Format) (tie : Decimal.Tie) (m : Nat) (e : Int) :
    ∃ (scale : Nat) (point : Int) (d : Decimal), 0 < scale ∧
      (scale : ℚ) * 10 ^ point = 2 ^ (e - 2) ∧
      d = ((interval f m e).scaled scale).coarsest tie
        (Decimal.length (((interval f m e).scaled scale).value) - 1) ∧
      shortest f tie m e = Decimal.stripZeros ⟨d.digits, d.exponent + point⟩ := by
  by_cases he : 0 ≤ e - 2
  · refine ⟨1 <<< (e - 2).toNat, 0, _, ?_, ?_, rfl, ?_⟩
    · rw [Nat.one_shiftLeft]
      positivity
    · rw [Nat.one_shiftLeft, Nat.cast_pow, ← zpow_natCast, Int.toNat_of_nonneg he, zpow_zero,
        mul_one, Nat.cast_ofNat]
    · simp only [shortest, he, if_true]
      rfl
  · refine ⟨Nat.pow 5 (-(e - 2)).toNat, e - 2, _, ?_, ?_, rfl, ?_⟩
    · exact Nat.pow_pos (by decide)
    · have hpow : ((Nat.pow 5 (-(e - 2)).toNat : Nat) : ℚ) = 5 ^ (-(e - 2)) := by
        rw [← Int.toNat_of_nonneg (show 0 ≤ -(e - 2) by omega), zpow_natCast]
        exact_mod_cast rfl
      rw [hpow, zpow_neg, ← inv_zpow, ← mul_zpow]
      norm_num
    · simp only [shortest, he, if_false]
      rfl

/-- A power of ten that is too long in smaller units is too long. -/
theorem lt_zpow_of_scaled {a b scale j : Nat} {point k : Int} {unit : ℚ}
    (hunit : (scale : ℚ) * 10 ^ point = unit) (h : b * scale < a * scale + 10 ^ j)
    (hk : j + point ≤ k) : ((b : ℚ) - a) * unit < 10 ^ k := by
  have h : (b : ℚ) * scale < a * scale + 10 ^ j := by exact_mod_cast h
  have hpoint : (0 : ℚ) < 10 ^ point := by positivity
  calc ((b : ℚ) - a) * unit = (b * scale - a * scale) * 10 ^ point := by rw [← hunit]; ring
    _ < 10 ^ j * 10 ^ point := by gcongr; linarith
    _ = 10 ^ (j + point) := by rw [zpow_add₀ (by norm_num), zpow_natCast]
    _ ≤ 10 ^ k := zpow_le_zpow_right₀ (by norm_num) hk

theorem isShortest_shortest (tie : Decimal.Tie) (hm : 0 < m) :
    IsShortest f m e (shortest f tie m e) := by
  obtain ⟨scale, point, d, hscale, hunit, hd, hshortest⟩ := exists_shortest_eq f tie m e
  have hi := (balanced_interval f hm e).scaled hscale
  obtain ⟨n, j, hn, hpos, hpicks, hcoarse⟩ := Interval.exists_coarsest_eq hi tie
  obtain rfl := hd.trans hn
  obtain ⟨hvalue, hexponent, hdigits⟩ := Decimal.stripZeros_spec (d := ⟨n, j + point⟩) hpos
  rw [← hshortest] at hvalue hexponent hdigits
  have hscaleq : (0 : ℚ) < scale := by exact_mod_cast hscale
  have hplace : (shortest f tie m e).value / 2 ^ (e - 2) = (n * 10 ^ j : Nat) / scale := by
    rw [hvalue, Decimal.value, ← hunit, zpow_add₀ (by norm_num), zpow_natCast, ← mul_assoc,
      mul_div_mul_right _ _ (by positivity)]
    push_cast
    rfl
  refine ⟨?_, ?_, ?_, ?_, hdigits⟩
  · rw [hplace]
    exact Decimal.Interval.holds_of_contains_scaled hscale hpicks.contains
  · rw [hplace, ← mul_div_assoc, div_le_iff₀ hscaleq]
    rcases Nat.lt_or_ge ((interval f m e).scaled scale).high
      (((interval f m e).scaled scale).value + 10 ^ j) with hlt | hge
    · exact .inr (lt_zpow_of_scaled hunit hlt hexponent)
    · left
      rw [add_mul]
      exact_mod_cast hpicks.high hge
  · rw [hplace, ← mul_div_assoc, le_div_iff₀ hscaleq]
    rcases Nat.lt_or_ge ((interval f m e).scaled scale).value
      (((interval f m e).scaled scale).low + 10 ^ j) with hlt | hge
    · exact .inr (lt_zpow_of_scaled hunit hlt hexponent)
    · left
      rw [add_mul]
      exact_mod_cast hpicks.low hge
  · refine lt_zpow_of_scaled hunit hcoarse ?_
    dsimp only at hexponent
    push_cast
    omega

theorem IsShortest.digits_pos {d : Decimal} (hd : IsShortest f m e d) : 0 < d.digits := by
  have hdigits := hd.digits
  omega

theorem IsShortest.value_pos {d : Decimal} (hd : IsShortest f m e d) : 0 < d.value := by
  have hdigits : (0 : ℚ) < d.digits := by exact_mod_cast hd.digits_pos
  exact mul_pos hdigits (by positivity)

end Binary

end RulePyramid
