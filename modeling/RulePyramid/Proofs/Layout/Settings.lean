import RulePyramid.Layout.Json
import RulePyramid.Proofs.Json.Decode
import RulePyramid.Proofs.Json.Singles

/-!
Settings that are written and read again. A number of single precision is read from its form unless
it is infinite, for then it is written as null (`Decoder.single_form`). A text can give a setting an
infinite number, and no check finds fault with it. So accepted settings are read from their text if
and only if all their numbers are finite (`ofText_render_eq`).
-/

namespace RulePyramid

open Json (Decoder RecordField bind_eq_ok)

/-- Neither infinite nor no number at all. -/
def Binary.IsFinite {f : Binary.Format} : Binary f → Prop
  | .finite .. => True
  | _ => False

instance {f : Binary.Format} : DecidablePred (Binary.IsFinite (f := f)) := fun x =>
  match x with
  | .finite .. => isTrue trivial
  | .nan | .infinite _ => isFalse id

/-! ## Numbers -/

namespace Json.Decoder

variable {form : Form} {x : Single} {n bits : Nat}

theorem wellFormed_single (h : single form = .ok x) : x.WellFormed := by
  cases form with
  | number m =>
    obtain ⟨k, hk, h⟩ := bind_eq_ok.mp h
    cases k with
    | integer k =>
      cases h
      exact Binary.wellFormed_round Binary.Format.proper_single one_pos
    | real y =>
      cases h
      exact Binary.wellFormed_convert Binary.Format.proper_single y
  | _ => cases h

/-- A number of single precision is read from its form unless it has none. -/
theorem single_form (hx : x.WellFormed) :
    single (Json.single x).form = if x.IsFinite then .ok x else .error .mismatch := by
  rw [Json.form]
  cases x with
  | nan => rfl
  | infinite => rfl
  | finite negative m e => exact single_numberForm hx

theorem integerIn_eq_ok {low high k : Int} (h : integerIn low high form = .ok k) :
    low ≤ k ∧ k ≤ high := by
  cases form with
  | number m =>
    obtain ⟨l, hl, h⟩ := bind_eq_ok.mp h
    cases l with
    | integer l =>
      dsimp only at h
      split at h
      · next hin =>
        cases h
        simpa only [Bool.and_eq_true, decide_eq_true_eq] using hin
      · cases h
    | real y => cases h
  | _ => cases h

theorem natural_lt (h : natural bits form = .ok n) : n < 2 ^ bits := by
  obtain ⟨k, hk, h⟩ := bind_eq_ok.mp h
  cases h
  obtain ⟨hlow, hhigh⟩ := integerIn_eq_ok hk
  rw [Nat.one_shiftLeft] at hhigh
  omega

theorem natural_form (hn : n < 2 ^ 64) : natural 64 (Json.nat n).form = .ok n := by
  have hexact : Number.IsExact (n : Int) := by
    simp only [Number.IsExact, Number.wordSize, Nat.one_shiftLeft]
    omega
  have hin : (decide (0 ≤ (n : Int)) &&
      decide ((n : Int) ≤ ((1 <<< 64 : Nat) : Int) - 1)) = true := by
    simp only [Nat.one_shiftLeft, Bool.and_eq_true, decide_eq_true_eq]
    omega
  simp only [natural, Json.nat, Json.form, integerIn, Numeral.number_ofInt hexact, bind,
    Except.bind]
  rw [if_pos hin]
  rfl

end Json.Decoder

namespace LayoutConfig

variable {c c' : LayoutConfig Single} {text : String}

/-- The settings that are rounded. -/
def numbers {α : Type} (c : LayoutConfig α) : List α :=
  [c.nodeWidth, c.nodeHeight, c.horizontalGap, c.rowGap, c.layerGap, c.centerX, c.baseY]

def IsFinite (c : LayoutConfig Single) : Prop := ∀ x ∈ c.numbers, x.IsFinite

instance : Decidable c.IsFinite := inferInstanceAs (Decidable (∀ x ∈ c.numbers, x.IsFinite))

theorem forall_numbers {α : Type} {c : LayoutConfig α} {p : α → Prop} :
    (∀ x ∈ c.numbers, p x) ↔ p c.nodeWidth ∧ p c.nodeHeight ∧ p c.horizontalGap ∧ p c.rowGap ∧
      p c.layerGap ∧ p c.centerX ∧ p c.baseY := by
  simp only [numbers, List.forall_mem_cons, List.not_mem_nil, false_imp_iff, implies_true, and_true]

/-- What holds of all settings that are read. -/
structure Readable (c : LayoutConfig Single) : Prop where
  numbers : ∀ x ∈ c.numbers, x.WellFormed
  row : c.maxNodesPerRow < 2 ^ 64

theorem readable_default : Readable .default := by
  have hnumber : ∀ n : Nat, (Scalar.ofNat n : Single).WellFormed := fun n => by
    change (Binary.round false n 1 : Single).WellFormed
    exact Binary.wellFormed_round Binary.Format.proper_single one_pos
  exact ⟨forall_numbers.mpr ⟨hnumber _, hnumber _, hnumber _, hnumber _, hnumber _, hnumber _,
    hnumber _⟩, by decide⟩

/-- One of the numbers is read. -/
theorem Readable.of_set (H : c.Readable) (i : Nat) {x : Single} (hx : x.WellFormed)
    (hnumbers : c'.numbers = c.numbers.set i x) (hrow : c'.maxNodesPerRow = c.maxNodesPerRow) :
    c'.Readable where
  numbers y hy := by
    rw [hnumbers] at hy
    rcases List.mem_or_eq_of_mem_set hy with hy | rfl
    · exact H.numbers y hy
    · exact hx
  row := hrow ▸ H.row

theorem fieldsKeep_readable : Decoder.FieldsKeep (fieldsWith Decoder.single) Readable := by
  intro field hfield c form c' H h
  simp only [fieldsWith, List.mem_cons, List.not_mem_nil, or_false] at hfield
  rcases hfield with rfl | rfl | rfl | rfl | rfl | rfl | rfl | rfl
  all_goals
    obtain ⟨b, hb, h⟩ := bind_eq_ok.mp h
    cases h
  · exact H.of_set 0 (Decoder.wellFormed_single hb) rfl rfl
  · exact H.of_set 1 (Decoder.wellFormed_single hb) rfl rfl
  · exact H.of_set 2 (Decoder.wellFormed_single hb) rfl rfl
  · exact H.of_set 3 (Decoder.wellFormed_single hb) rfl rfl
  · exact H.of_set 4 (Decoder.wellFormed_single hb) rfl rfl
  · exact ⟨H.numbers, Decoder.natural_lt hb⟩
  · exact H.of_set 5 (Decoder.wellFormed_single hb) rfl rfl
  · exact H.of_set 6 (Decoder.wellFormed_single hb) rfl rfl

theorem readable_of_decode {form : Json.Form} (h : decode form = .ok c) : c.Readable :=
  Decoder.record_keeps Readable fieldsKeep_readable readable_default h

/-! ## Reading the text of settings -/

theorem decode_form (H : c.Readable) (hfinite : c.IsFinite) : decode c.toJson.form = .ok c := by
  have hread : ∀ x ∈ c.numbers, Decoder.single (Json.single x).form = .ok x := fun x hx => by
    rw [Decoder.single_form (H.numbers x hx), if_pos (hfinite x hx)]
  obtain ⟨hwidth, hheight, hgap, hrowGap, hlayerGap, hx, hy⟩ := forall_numbers.mp hread
  refine Decoder.recordOfMembers_of_readMembers ["base_y", "center_x", "max_nodes_per_row",
    "layer_gap", "row_gap", "horizontal_gap", "node_height", "node_width"] ?_ rfl
  rw [Json.memberForms, Decoder.readMembers_field rfl (by decide) (Decoder.put_optional hwidth)]
  rw [Json.memberForms, Decoder.readMembers_field rfl (by decide) (Decoder.put_optional hheight)]
  rw [Json.memberForms, Decoder.readMembers_field rfl (by decide) (Decoder.put_optional hgap)]
  rw [Json.memberForms, Decoder.readMembers_field rfl (by decide) (Decoder.put_optional hrowGap)]
  rw [Json.memberForms, Decoder.readMembers_field rfl (by decide) (Decoder.put_optional hlayerGap)]
  rw [Json.memberForms, Decoder.readMembers_field rfl (by decide)
    (Decoder.put_optional (Decoder.natural_form H.row))]
  rw [Json.memberForms, Decoder.readMembers_field rfl (by decide) (Decoder.put_optional hx)]
  rw [Json.memberForms, Decoder.readMembers_field rfl (by decide) (Decoder.put_optional hy)]
  rfl

/-- An infinite number is written as null, which no number is read from. -/
theorem isFinite_of_member (name : String) {x : Single} {members : List (String × Json)}
    {set : LayoutConfig Single → Single → LayoutConfig Single} (hx : x.WellFormed)
    (hfield : (fieldsWith Decoder.single).find? (·.name = name) =
      some (.optional name Decoder.single set)) (hmem : (name, Json.single x) ∈ members)
    (h : Decoder.recordOfMembers (fieldsWith Decoder.single) Decoder.skipMember .default
      (Json.memberForms members) none = .ok c') : x.IsFinite := by
  obtain ⟨r, hmembers, -⟩ := bind_eq_ok.mp h
  obtain ⟨a, b, hput⟩ :=
    Decoder.exists_put_of_readMembers hmembers (Decoder.mem_memberForms hmem) hfield
  obtain ⟨y, hy, -⟩ := bind_eq_ok.mp hput
  by_contra hinfinite
  rw [Decoder.single_form hx, if_neg hinfinite] at hy
  cases hy

theorem isFinite_of_decode_form (H : c.Readable) (h : decode c.toJson.form = .ok c') :
    c.IsFinite := by
  obtain ⟨hwidth, hheight, hgap, hrowGap, hlayerGap, hx, hy⟩ := forall_numbers.mp H.numbers
  refine forall_numbers.mpr ⟨isFinite_of_member "node_width" hwidth rfl ?_ h,
    isFinite_of_member "node_height" hheight rfl ?_ h,
    isFinite_of_member "horizontal_gap" hgap rfl ?_ h,
    isFinite_of_member "row_gap" hrowGap rfl ?_ h,
    isFinite_of_member "layer_gap" hlayerGap rfl ?_ h,
    isFinite_of_member "center_x" hx rfl ?_ h,
    isFinite_of_member "base_y" hy rfl ?_ h⟩ <;> simp

theorem ofText_eq_ok_iff :
    ofText text = .ok c ↔ Json.decodeText decode text = .ok c ∧ c.validate = .ok () := by
  rw [ofText]
  cases Json.decodeText decode text with
  | error fault => simp
  | ok c' =>
    constructor
    · intro h
      obtain ⟨_, hvalid, h⟩ := bind_eq_ok.mp h
      cases h
      exact ⟨rfl, hvalid⟩
    · rintro ⟨h, hvalid⟩
      cases h
      exact bind_eq_ok.mpr ⟨(), hvalid, rfl⟩

theorem decodeText_render (spread : Json.Spread) :
    Json.decodeText decode (c.toJson.render spread) = decode c.toJson.form := by
  simp only [Json.decodeText, Json.reading_render, bind, Except.bind]
  cases decode c.toJson.form <;> rfl

theorem readable_of_ofText (h : ofText text = .ok c) : c.Readable := by
  obtain ⟨c', hform, hrest⟩ := bind_eq_ok.mp (ofText_eq_ok_iff.mp h).1
  obtain ⟨-, -, hrest⟩ := bind_eq_ok.mp hrest
  cases hrest
  exact readable_of_decode hform

theorem ofText_render_of_isFinite (h : ofText text = .ok c) (hfinite : c.IsFinite)
    (spread : Json.Spread) : ofText (c.toJson.render spread) = .ok c := by
  rw [ofText_eq_ok_iff, decodeText_render]
  exact ⟨decode_form (readable_of_ofText h) hfinite, (ofText_eq_ok_iff.mp h).2⟩

theorem ofText_render_of_not_isFinite (h : ofText text = .ok c) (hinfinite : ¬c.IsFinite)
    (spread : Json.Spread) : ofText (c.toJson.render spread) = .error .unreadable := by
  rw [ofText, decodeText_render]
  cases hform : decode c.toJson.form with
  | error fault => rfl
  | ok c' => exact absurd (isFinite_of_decode_form (readable_of_ofText h) hform) hinfinite

/-- **Accepted settings are read from their text just when their numbers are finite.** -/
theorem ofText_render_eq (h : ofText text = .ok c) (spread : Json.Spread) :
    ofText (c.toJson.render spread) = if c.IsFinite then .ok c else .error .unreadable := by
  split
  · next hfinite => exact ofText_render_of_isFinite h hfinite spread
  · next hinfinite => exact ofText_render_of_not_isFinite h hinfinite spread

/-- A number that is rounded. -/
def tenth : LayoutConfig Single :=
  { LayoutConfig.default with centerX := .finite false 13421773 (-27) }

theorem ofText_render_eq_of_tenth :
    ofText "\x7b\"center_x\":0.1\x7d" = .ok tenth ∧
      ∀ spread, ofText (tenth.toJson.render spread) = .ok tenth := by
  have hread : ofText "\x7b\"center_x\":0.1\x7d" = .ok tenth := by decide +kernel
  exact ⟨hread, fun spread => (ofText_render_eq hread spread).trans (if_pos (by decide))⟩

/-- A number beyond those of single precision. -/
def overflowing : LayoutConfig Single :=
  { LayoutConfig.default with centerX := .infinite false }

/-- Accepted settings are not always read from their text. -/
theorem ofText_render_of_overflowing :
    ofText "\x7b\"center_x\":1e39\x7d" = .ok overflowing ∧
      ∀ spread, ofText (overflowing.toJson.render spread) = .error .unreadable := by
  have hread : ofText "\x7b\"center_x\":1e39\x7d" = .ok overflowing := by decide +kernel
  exact ⟨hread, ofText_render_of_not_isFinite hread (by decide)⟩

end LayoutConfig

end RulePyramid
