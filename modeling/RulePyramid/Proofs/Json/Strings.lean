import RulePyramid.Json.Parser
import RulePyramid.Json.Printer

/-!
Strings are read as they were written. Every character comes back from its escape
(`codePoints_escapeChar`), and no code point of a text is half of a surrogate pair, so the whole
text comes back (`stringTail_escaped`), whatever follows it.
-/

namespace RulePyramid.Json

theorem hexValue?_hexDigit : ∀ n < 16, hexValue? (hexDigit n) = some n := by decide

theorem hexQuad?_control {n : Nat} (hn : n < 0x20) :
    hexQuad? '0' '0' (hexDigit (n / 16)) (hexDigit (n % 16)) = some n := by
  have hzero : hexValue? '0' = some 0 := by decide
  have hhigh := hexValue?_hexDigit (n / 16) (by omega)
  have hlow := hexValue?_hexDigit (n % 16) (by omega)
  simp only [hexQuad?, hzero, hhigh, hlow, Option.bind_eq_bind, Option.bind_some, Option.pure_def]
  congr 1
  omega

/-- A character is written with one letter after a backslash, by its code, or as it is. -/
theorem escapeChar_cases (c : Char) :
    (∃ e, escapeChar c = ['\\', e] ∧ e ≠ 'u' ∧ shortEscape? e = some c) ∨
      (c.toNat < 0x20 ∧ escapeChar c =
        ['\\', 'u', '0', '0', hexDigit (c.toNat / 16), hexDigit (c.toNat % 16)]) ∨
      (c ≠ '"' ∧ c ≠ '\\' ∧ ¬ c.toNat < 0x20 ∧ escapeChar c = [c]) := by
  by_cases hshort : c ∈ ['"', '\\', '\n', '\r', '\t', '\x08', '\x0c']
  · refine .inl ?_
    simp only [List.mem_cons, List.not_mem_nil, or_false] at hshort
    rcases hshort with rfl | rfl | rfl | rfl | rfl | rfl | rfl <;>
      exact ⟨_, rfl, by decide, by decide⟩
  · simp only [List.mem_cons, List.not_mem_nil, or_false, not_or] at hshort
    by_cases hcontrol : c.toNat < 0x20 <;> simp [escapeChar, hshort, hcontrol]

/-- A character is read back from the way in which it is written. -/
theorem codePoints_escapeChar (before : List Nat) (c : Char) (rest : List Char) :
    codePoints before (escapeChar c ++ rest) = codePoints (c.toNat :: before) rest := by
  rcases escapeChar_cases c with ⟨e, hchars, hcode, hshort⟩ | ⟨hcontrol, hchars⟩ |
    ⟨hquote, hbackslash, hcontrol, hchars⟩
  · rw [hchars, codePoints.eq_def]
    simp [hcode, hshort]
  · rw [hchars, codePoints.eq_def]
    simp [hexQuad?_control hcontrol]
  · rw [hchars, codePoints.eq_def]
    simp [hquote, hbackslash, hcontrol]

theorem codePoints_escaped (before : List Nat) (cs rest : List Char) :
    codePoints before (cs.flatMap escapeChar ++ '"' :: rest) =
      .ok (before.reverse ++ cs.map Char.toNat, rest) := by
  induction cs generalizing before with
  | nil =>
    rw [codePoints.eq_def]
    simp
  | cons c cs ih =>
    rw [List.flatMap_cons, List.append_assoc, codePoints_escapeChar, ih]
    simp

/-- A character is no half of a surrogate pair. -/
theorem joinSurrogates_map_toNat (cs : List Char) :
    joinSurrogates (cs.map Char.toNat) = some cs := by
  induction cs with
  | nil => rfl
  | cons c cs ih =>
    have hvalid : c.toNat < 0xD800 ∨ 0xDFFF < c.toNat ∧ c.toNat < 0x110000 := c.valid
    have hlow : isLowSurrogate c.toNat = false := by simp [isLowSurrogate]; omega
    have hhigh : isHighSurrogate c.toNat = false := by simp [isHighSurrogate]; omega
    rw [List.map_cons, joinSurrogates.eq_def]
    simp [hlow, hhigh, ih]

theorem stringTail_escaped (s : String) (rest : List Char) :
    stringTail (s.toList.flatMap escapeChar ++ '"' :: rest) = .ok (some s, rest) := by
  simp only [stringTail, codePoints_escaped, List.reverse_nil, List.nil_append]
  change Except.ok (_, rest) = _
  rw [joinSurrogates_map_toNat, Option.map_some, String.ofList_toList]

theorem stringChars_append (s : String) (rest : List Char) :
    stringChars s ++ rest = '"' :: (s.toList.flatMap escapeChar ++ '"' :: rest) := by
  simp [stringChars]

/-- A string that stands for a value. -/
theorem value_stringChars (fuel : Nat) (s : String) (rest : List Char) :
    value (fuel + 1) (stringChars s ++ rest) = (.string (some s), .ok rest) := by
  rw [stringChars_append, value]
  simp [skipSpace, isSpace, stringTail_escaped, Reading.ofToken]

end RulePyramid.Json
