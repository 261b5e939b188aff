import RulePyramid.Date
import RulePyramid.Proofs.Text.Word

/-!
Days are read as they are written (`ofText?_text`). A number that is padded with zeros comes back
from its digits (`takeNumber_padded`); whether it ends is seen either from the number of its digits
or from the hyphen after it.
-/

namespace RulePyramid.Date

variable {limit width n : Nat} {cs rest : List Char} {c : Char}

/-! ## Blanks -/

theorem trimFront_cons (hc : ¬Text.isBlank c) (cs : List Char) :
    Text.trimFront (c :: cs) = c :: cs :=
  List.dropWhile_cons_of_neg hc

theorem not_isBlank_of_isDigit (hc : c.isDigit) : ¬Text.isBlank c := by
  have hrange := Text.range_of_isDigit hc
  intro hblank
  obtain ⟨r, hr, hfirst, hlast⟩ := Text.CharTable.contains_iff.mp hblank
  simp only [Text.whiteSpace, List.mem_cons, List.not_mem_nil, or_false] at hr
  rcases hr with rfl | rfl | rfl | rfl | rfl | rfl | rfl | rfl | rfl | rfl <;>
    simp only at hfirst hlast <;> omega

/-! ## Padded numbers -/

theorem isDigit_of_mem_padded (hc : c ∈ padded width n) : c.isDigit := by
  rcases List.mem_append.mp hc with hc | hc
  · rw [List.eq_of_mem_replicate hc]
    rfl
  · exact Nat.isDigit_of_mem_toDigits (by decide) (by decide) hc

theorem exists_padded_eq_cons (width n : Nat) :
    ∃ c cs, padded width n = c :: cs ∧ c.isDigit ∧ ¬Text.isBlank c := by
  obtain ⟨c, cs, hcs⟩ := List.exists_cons_of_ne_nil
    (List.append_ne_nil_of_right_ne_nil _ Nat.toDigits_ne_nil : padded width n ≠ [])
  have hc : c.isDigit := isDigit_of_mem_padded (hcs ▸ List.mem_cons_self)
  exact ⟨c, cs, hcs, hc, not_isBlank_of_isDigit hc⟩

theorem length_padded (hdigits : (Nat.toDigits 10 n).length ≤ width) :
    (padded width n).length = width := by
  simp only [padded, List.length_append, List.length_replicate]
  omega

/-- Zeros in front do not count. -/
theorem foldl_padded (width n : Nat) :
    (padded width n).foldl (fun n c => n * 10 + (c.toNat - '0'.toNat)) 0 = n := by
  have hvalue : Nat.ofDigitChars 10 (padded width n) 0 = n := by
    rw [padded, Nat.ofDigitChars_append, Nat.ofDigitChars_replicate_zero,
      Nat.mul_zero, Nat.ofDigitChars_ten_toDigits]
  simpa only [Nat.ofDigitChars, Nat.mul_comm] using hvalue

theorem takeNumber_padded (hlimit : (padded width n).length ≤ limit)
    (hend : (padded width n).length = limit ∨ ∀ c ∈ rest.head?, ¬c.isDigit) :
    takeNumber limit (padded width n ++ rest) = some (n, rest) := by
  have hrest : ∀ c ∈ (rest.take (limit - (padded width n).length)).head?, ¬c.isDigit := by
    intro c hc
    rw [List.head?_take] at hc
    rcases hend with rfl | hend
    · simp at hc
    · split at hc
      · cases hc
      · exact hend c hc
  have hdigits : ((padded width n ++ rest).take limit).takeWhile Char.isDigit =
      padded width n := by
    rw [List.take_append, List.take_of_length_le hlimit]
    exact Text.takeWhile_run (fun _ => isDigit_of_mem_padded) hrest
  obtain ⟨c, cs, hcs, -⟩ := exists_padded_eq_cons width n
  have hvalue := foldl_padded width n
  rw [hcs] at hdigits hvalue
  simp only [takeNumber, hcs, hdigits, hvalue, List.drop_left]

/-! ## Days -/

theorem takePart_padded (hn : n < 100) (rest : List Char) :
    takePart ('-' :: (padded 2 n ++ rest)) = some (n, rest) := by
  have hlength : (padded 2 n).length = 2 :=
    length_padded ((Nat.length_toDigits_le_iff (by decide) (by decide)).mpr hn)
  have hfront : Text.trimFront (padded 2 n ++ rest) = padded 2 n ++ rest := by
    obtain ⟨c, cs, hcs, -, hc⟩ := exists_padded_eq_cons 2 n
    rw [hcs]
    exact trimFront_cons hc _
  rw [takePart, trimFront_cons (by decide)]
  simp only [hfront]
  exact takeNumber_padded (Nat.le_of_eq hlength) (.inl hlength)

theorem takeYear_unsigned (hc : c.isDigit) (cs : List Char) :
    takeYear (c :: cs) = (takeNumber 4 (c :: cs)).map fun (n, rest) => ((n : Int), rest) := by
  rw [takeYear, trimFront_cons (not_isBlank_of_isDigit hc)]
  split
  · next heq =>
    cases heq
    exact absurd hc (by decide)
  · next heq =>
    cases heq
    exact absurd hc (by decide)
  · rfl

theorem takeYear_yearChars (year : Int) (rest : List Char) :
    takeYear (yearChars year ++ '-' :: rest) = some (year, '-' :: rest) := by
  -- After a sign the hyphen ends the year, without one its four digits do.
  have hsigned : takeNumber (padded 4 year.natAbs ++ '-' :: rest).length
      (padded 4 year.natAbs ++ '-' :: rest) = some (year.natAbs, '-' :: rest) := by
    refine takeNumber_padded (by simp) (.inr ?_)
    rintro d ⟨⟩
    decide
  rw [yearChars]
  split
  · next hyear =>
    have hdigits : (Nat.toDigits 10 year.natAbs).length ≤ 4 :=
      (Nat.length_toDigits_le_iff (by decide) (by decide)).mpr (by omega)
    have hlength : (padded 4 year.natAbs).length = 4 := length_padded hdigits
    have hnumber : takeNumber 4 (padded 4 year.natAbs ++ '-' :: rest) =
        some (year.natAbs, '-' :: rest) :=
      takeNumber_padded (Nat.le_of_eq hlength) (.inl hlength)
    obtain ⟨c, cs, hcs, hc, -⟩ := exists_padded_eq_cons 4 year.natAbs
    rw [hcs, List.cons_append] at hnumber ⊢
    simp only [takeYear_unsigned hc, hnumber, Option.map_some, Int.natAbs_of_nonneg hyear.1]
  · rw [List.cons_append]
    split
    · next hneg =>
      rw [takeYear, trimFront_cons (by decide)]
      simp only [hsigned, Option.map_some, Int.ofNat_natAbs_of_nonpos (Int.le_of_lt hneg),
        Int.neg_neg]
    · next hneg =>
      rw [takeYear, trimFront_cons (by decide)]
      simp only [hsigned, Option.map_some, Int.natAbs_of_nonneg (Int.not_lt.mp hneg)]

/-- **A day is read as it was written.** -/
theorem ofText?_text (d : Date) : ofText? d.text = some d := by
  obtain ⟨-, -, -, hmonth, -, hday⟩ := d.valid
  have hmonthLength : daysInMonth d.year d.month ≤ 31 := by
    rw [daysInMonth]
    repeat' split
    all_goals decide
  have hchars : d.chars =
      yearChars d.year ++ '-' :: (padded 2 d.month ++ '-' :: (padded 2 d.day ++ [])) := by
    rw [chars, List.append_nil, List.append_assoc, List.cons_append]
  have hend : (Text.trimFront []).isEmpty := rfl
  rw [ofText?, text, String.toList_ofList, hchars, ofChars?, takeYear_yearChars]
  simp only [Option.bind_eq_bind, Option.bind_some,
    takePart_padded (show d.month < 100 by omega), takePart_padded (show d.day < 100 by omega),
    hend, if_true]
  exact dif_pos d.valid

end RulePyramid.Date
