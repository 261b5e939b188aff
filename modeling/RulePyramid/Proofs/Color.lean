import Mathlib.Tactic.Simproc.ExistsAndEq
import RulePyramid.Color

/-!
Hexadecimal colour tokens. A digit has the value of its place in the row of digits
(`hexDigit?_eq_some_iff`). A channel of two characters is read from two digits, but also from a plus
sign and one digit (`channel?_eq_some_iff`), so a token is read just if it has three digits or three
such pairs (`ofHex?_eq_some_iff`). It is the grammar of two digits for each channel that is followed
unless a plus sign stands in for one of them (`followsGrammar_iff`).
-/

namespace RulePyramid.Color

/-! ## The grammar -/

/-- A hexadecimal digit, capital or not, with its value: its place in the row of digits. -/
def IsHexDigit (c : Char) (value : Nat) : Prop :=
  "0123456789abcdef".toList[value]? = some c ∨ "0123456789ABCDEF".toList[value]? = some c

instance (c : Char) (value : Nat) : Decidable (IsHexDigit c value) :=
  inferInstanceAs (Decidable (_ ∨ _))

/-- A pair of digits with its value. -/
inductive DigitPair : Char → Char → Nat → Prop
  | digits {c d m n} : IsHexDigit c m → IsHexDigit d n → DigitPair c d (16 * m + n)

/-- A pair in which a plus sign may stand for the first digit. -/
inductive SignedPair : Char → Char → Nat → Prop
  | digits {c d value} : DigitPair c d value → SignedPair c d value
  | plus {d n} : IsHexDigit d n → SignedPair '+' d n

/-- Three digits or three pairs with the channels that they stand for. One digit counts as if it
were written twice. -/
inductive Spells (Pair : Char → Char → Nat → Prop) : List Char → Nat → Nat → Nat → Prop
  | short {r g b x y z} : IsHexDigit r x → IsHexDigit g y → IsHexDigit b z →
    Spells Pair [r, g, b] (17 * x) (17 * y) (17 * z)
  | long {r r' g g' b b' x y z} : Pair r r' x → Pair g g' y → Pair b b' z →
    Spells Pair [r, r', g, g', b, b'] x y z

/-- The digits are those of an opaque colour. -/
def Describes (Pair : Char → Char → Nat → Prop) (digits : List Char) (color : Color) : Prop :=
  Spells Pair digits color.r.toNat color.g.toNat color.b.toNat ∧ color.a = 255

variable {Pair Pair' : Char → Char → Nat → Prop} {c d : Char} {v : UInt8} {m n value : Nat}
  {digits : List Char} {color : Color} {token : String}

/-! ## Digits -/

theorem IsHexDigit.lt (h : IsHexDigit c value) : value < 16 := by
  rcases h with h | h <;> exact (List.getElem?_eq_some_iff.mp h).1

theorem not_isHexDigit_plus : ¬IsHexDigit '+' value := by
  intro h
  have hall : ∀ value < 16, ¬IsHexDigit '+' value := by decide
  exact hall value h.lt h

theorem hexDigit?_of_isHexDigit (h : IsHexDigit c value) : hexDigit? c = some value.toUInt8 := by
  have hsmall : ∀ d ∈ "0123456789abcdef".toList.zipIdx,
      hexDigit? d.1 = some d.2.toUInt8 := by decide
  have hcapital : ∀ d ∈ "0123456789ABCDEF".toList.zipIdx,
      hexDigit? d.1 = some d.2.toUInt8 := by decide
  rcases h with hc | hc
  · exact hsmall (c, value) (List.mem_zipIdx_iff_getElem?.mpr hc)
  · exact hcapital (c, value) (List.mem_zipIdx_iff_getElem?.mpr hc)

/-- The digits of a row of characters have consecutive values. -/
theorem isHexDigit_of_range {first last : Char} (start : Nat)
    (hrow : ∀ k ≤ last.toNat - first.toNat, IsHexDigit (.ofNat (first.toNat + k)) (k + start))
    (hc : first ≤ c ∧ c ≤ last) : IsHexDigit c (c.toNat - first.toNat + start) := by
  have hfirst : first.toNat ≤ c.toNat := UInt32.le_iff_toNat_le.mp (Char.le_def.mp hc.1)
  have hlast : c.toNat ≤ last.toNat := UInt32.le_iff_toNat_le.mp (Char.le_def.mp hc.2)
  have hdigit := hrow (c.toNat - first.toNat) (by omega)
  rwa [Nat.add_sub_cancel' hfirst, Char.ofNat_toNat] at hdigit

theorem IsHexDigit.toNat_toUInt8 (h : IsHexDigit c value) : value.toUInt8.toNat = value := by
  have hlt := h.lt
  rw [Nat.toUInt8, UInt8.toNat_ofNat', Nat.mod_eq_of_lt (by omega)]

theorem hexDigit?_eq_some_iff :
    hexDigit? c = some v ↔ ∃ value, IsHexDigit c value ∧ value = v.toNat := by
  constructor
  · intro h
    -- A digit of any value will do, since it is read as that value.
    suffices hdigit : ∃ value, IsHexDigit c value by
      obtain ⟨value, hc⟩ := hdigit
      rw [hexDigit?_of_isHexDigit hc, Option.some.injEq] at h
      exact ⟨value, hc, by rw [← h, hc.toNat_toUInt8]⟩
    unfold hexDigit? at h
    split at h
    · next hc => exact ⟨_, isHexDigit_of_range 0 (by decide) hc⟩
    · split at h
      · next hc => exact ⟨_, isHexDigit_of_range 10 (by decide) hc⟩
      · split at h
        · next hc => exact ⟨_, isHexDigit_of_range 10 (by decide) hc⟩
        · cases h
  · rintro ⟨value, hc, rfl⟩
    rw [hexDigit?_of_isHexDigit hc, Nat.toUInt8, UInt8.ofNat_toNat]

/-! ## Channels -/

theorem shortChannel?_eq_some_iff :
    shortChannel? c = some v ↔ ∃ value, IsHexDigit c value ∧ 17 * value = v.toNat := by
  have hmul : ∀ w : UInt8, w.toNat < 16 → (w * 17).toNat = 17 * w.toNat := fun w hw => by
    have hseventeen : (17 : UInt8).toNat = 17 := rfl
    rw [UInt8.toNat_mul, hseventeen]
    omega
  rw [shortChannel?, Option.map_eq_some_iff]
  simp only [hexDigit?_eq_some_iff]
  constructor
  · rintro ⟨w, ⟨_, hc, rfl⟩, rfl⟩
    exact ⟨w.toNat, hc, (hmul w hc.lt).symm⟩
  · rintro ⟨value, hc, hv⟩
    have hvalue := hc.toNat_toUInt8
    refine ⟨value.toUInt8, ⟨value, hc, hvalue.symm⟩, UInt8.toNat_inj.mp ?_⟩
    rw [hmul _ (by rw [hvalue]; exact hc.lt), hvalue, hv]

theorem not_digitPair_plus : ¬DigitPair '+' d value := by
  rintro ⟨hc, -⟩
  exact not_isHexDigit_plus hc

theorem channel?_eq_some_iff : channel? c d = some v ↔ SignedPair c d v.toNat := by
  have hpair : ∀ w w' : UInt8, w.toNat < 16 → w'.toNat < 16 →
      (w * 16 + w').toNat = 16 * w.toNat + w'.toNat := fun w w' hw hw' => by
    have hsixteen : (16 : UInt8).toNat = 16 := rfl
    rw [UInt8.toNat_add, UInt8.toNat_mul, hsixteen]
    omega
  by_cases hplus : c = '+'
  · subst hplus
    rw [channel?, if_pos rfl, hexDigit?_eq_some_iff]
    constructor
    · rintro ⟨_, hd, rfl⟩
      exact .plus hd
    · rintro (hdigits | hd)
      · exact (not_digitPair_plus hdigits).elim
      · exact ⟨_, hd, rfl⟩
  · simp only [channel?, if_neg hplus, hexDigit?_eq_some_iff, Option.bind_eq_bind,
      Option.bind_eq_some_iff, Option.pure_def, Option.some.injEq]
    constructor
    · rintro ⟨w, ⟨_, hc, rfl⟩, w', ⟨_, hd, rfl⟩, rfl⟩
      rw [hpair w w' hc.lt hd.lt]
      exact .digits (.digits hc hd)
    · intro h
      cases h with
      | plus => exact (hplus rfl).elim
      | digits h =>
        generalize hv : v.toNat = value at h
        obtain ⟨hc, hd⟩ := h
        have hw := hc.toNat_toUInt8
        have hw' := hd.toNat_toUInt8
        refine ⟨_, ⟨_, hc, hw.symm⟩, _, ⟨_, hd, hw'.symm⟩, UInt8.toNat_inj.mp ?_⟩
        rw [hpair _ _ (by rw [hw]; exact hc.lt) (by rw [hw']; exact hd.lt), hw, hw', hv]

/-! ## Tokens -/

theorem spells_short_iff {r g b : Char} {x y z : Nat} :
    Spells Pair [r, g, b] x y z ↔ (∃ m, IsHexDigit r m ∧ 17 * m = x) ∧
      (∃ m, IsHexDigit g m ∧ 17 * m = y) ∧ ∃ m, IsHexDigit b m ∧ 17 * m = z := by
  constructor
  · rintro ⟨hr, hg, hb⟩
    exact ⟨⟨_, hr, rfl⟩, ⟨_, hg, rfl⟩, _, hb, rfl⟩
  · rintro ⟨⟨_, hr, rfl⟩, ⟨_, hg, rfl⟩, _, hb, rfl⟩
    exact .short hr hg hb

theorem spells_long_iff {r r' g g' b b' : Char} {x y z : Nat} :
    Spells Pair [r, r', g, g', b, b'] x y z ↔ Pair r r' x ∧ Pair g g' y ∧ Pair b b' z := by
  constructor
  · rintro ⟨⟩
    exact ⟨‹_›, ‹_›, ‹_›⟩
  · rintro ⟨hr, hg, hb⟩
    exact .long hr hg hb

/-- A reading depends on the pairs of the characters that are there. -/
theorem Spells.mono {x y z : Nat} (h : Spells Pair digits x y z)
    (hpair : ∀ c ∈ digits, ∀ d value, Pair c d value → Pair' c d value) :
    Spells Pair' digits x y z := by
  cases h with
  | short hr hg hb => exact .short hr hg hb
  | long hr hg hb =>
    exact .long (hpair _ (by simp) _ _ hr) (hpair _ (by simp) _ _ hg) (hpair _ (by simp) _ _ hb)

theorem ofHex?_eq_some_iff : ofHex? digits = some color ↔ Describes SignedPair digits color := by
  unfold ofHex? Describes
  split
  · obtain ⟨r, g, b, a⟩ := color
    rw [spells_short_iff, ← shortChannel?_eq_some_iff, ← shortChannel?_eq_some_iff,
      ← shortChannel?_eq_some_iff]
    simp [Option.bind_eq_some_iff, and_assoc, @eq_comm _ a]
  · obtain ⟨r, g, b, a⟩ := color
    rw [spells_long_iff, ← channel?_eq_some_iff, ← channel?_eq_some_iff, ← channel?_eq_some_iff]
    simp [Option.bind_eq_some_iff, and_assoc, @eq_comm _ a]
  · next hshort hlong =>
    constructor
    · rintro ⟨⟩
    · rintro ⟨hspells, -⟩
      generalize color.r.toNat = x, color.g.toNat = y, color.b.toNat = z at hspells
      cases hspells with
      | short => exact (hshort _ _ _ rfl).elim
      | long => exact (hlong _ _ _ _ _ _ rfl).elim

theorem ofToken?_of_hash (h : (Text.trim token).toList = '#' :: digits) :
    ofToken? token = ofHex? digits := by
  simp only [ofToken?, h]

theorem Spells.plus_notMem {x y z : Nat} (h : Spells DigitPair digits x y z) : '+' ∉ digits := by
  have hdigit : ∀ c value, IsHexDigit c value → '+' ≠ c := by
    rintro c value hc rfl
    exact not_isHexDigit_plus hc
  cases h with
  | short hr hg hb => simp [hdigit _ _ hr, hdigit _ _ hg, hdigit _ _ hb]
  | long hr hg hb =>
    obtain ⟨hr, hr'⟩ := hr
    obtain ⟨hg, hg'⟩ := hg
    obtain ⟨hb, hb'⟩ := hb
    simp [hdigit _ _ hr, hdigit _ _ hr', hdigit _ _ hg, hdigit _ _ hg', hdigit _ _ hb,
      hdigit _ _ hb']

/-- Without a plus sign both readings are the same. -/
theorem describes_signedPair_iff (hplus : '+' ∉ digits) :
    Describes SignedPair digits color ↔ Describes DigitPair digits color := by
  constructor
  · rintro ⟨hspells, halpha⟩
    refine ⟨hspells.mono fun c hc d value hpair => ?_, halpha⟩
    cases hpair with
    | digits h => exact h
    | plus => exact (hplus hc).elim
  · rintro ⟨hspells, halpha⟩
    exact ⟨hspells.mono fun _ _ _ _ => .digits, halpha⟩

/-- A token is read as a colour just if its digits are those of the colour. -/
def FollowsGrammar (token : String) (digits : List Char) : Prop :=
  ∀ color, ofToken? token = some color ↔ Describes DigitPair digits color

/-- **A token with a hash mark is read just if three digits or three pairs follow, and that is the
grammar just if no plus sign stands for a digit.** -/
theorem followsGrammar_iff (h : (Text.trim token).toList = '#' :: digits) :
    (∀ color, ofToken? token = some color ↔ Describes SignedPair digits color) ∧
      (FollowsGrammar token digits ↔
        ∀ color, Describes SignedPair digits color → '+' ∉ digits) := by
  have hread : ∀ color, ofToken? token = some color ↔ Describes SignedPair digits color :=
    fun color => by rw [ofToken?_of_hash h, ofHex?_eq_some_iff]
  refine ⟨hread, fun hgrammar color hsigned => ?_, fun hplus color => ?_⟩
  · have hdigits := (hgrammar color).mp ((hread color).mpr hsigned)
    exact hdigits.1.plus_notMem
  · rw [hread]
    constructor
    · intro hsigned
      exact (describes_signedPair_iff (hplus color hsigned)).mp hsigned
    · intro hdigits
      exact (describes_signedPair_iff hdigits.1.plus_notMem).mpr hdigits

/-- Capitals and small letters may be mixed, and what is blank around the token does not count. -/
theorem followsGrammar_iff_of_mixed_case :
    let token := " #fF8\t"
    let digits := ['f', 'F', '8']
    (Text.trim token).toList = '#' :: digits ∧
      (∀ color, ofToken? token = some color ↔ Describes SignedPair digits color) ∧
      (FollowsGrammar token digits ↔
        ∀ color, Describes SignedPair digits color → '+' ∉ digits) := by
  intro token digits
  have h : (Text.trim token).toList = '#' :: digits := by decide
  exact ⟨h, followsGrammar_iff h⟩

/-- A plus sign is read in the place of a digit. -/
theorem not_followsGrammar_of_plus :
    let token := "#+f+f+f"
    let digits := ['+', 'f', '+', 'f', '+', 'f']
    (Text.trim token).toList = '#' :: digits ∧ ¬FollowsGrammar token digits := by
  intro token digits
  have h : (Text.trim token).toList = '#' :: digits := by decide
  have hread : ofToken? token = some ⟨15, 15, 15, 255⟩ := by decide
  exact ⟨h, fun hgrammar => ((hgrammar _).mp hread).1.plus_notMem (.head _)⟩

end RulePyramid.Color
