import RulePyramid.CommandLine.Program
import RulePyramid.Proofs.Json.Decode

/-!
How the rules for a program may be spelled. A text is taken as a ruleset if it can be, and a ruleset
may be an array of its fields (`Ruleset.decode_array_eq_ok_iff`). Such an array has an id where a
rule would stand, so it is no list of rules unless it is empty
(`Ruleset.Spells.eq_nil_of_decodeList`). Hence an array is read as the rules in it, and as nothing
else, just if it does not spell a ruleset with an id (`CommandLine.readsRulesOnly_iff`).
-/

namespace RulePyramid

open Json (Form Decoder bind_eq_ok mapError_eq_ok)

/-- Items that spell a ruleset: its id, its name and its rules, of which the last ones may be left
out. -/
inductive Ruleset.Spells (room : Nat) : List Form → Ruleset → Prop
  | nothing : Spells room [] {}
  | id (id : String) : Spells room [.string (some id)] { id }
  | name (id name : String) : Spells room [.string (some id), .string (some name)] { id, name }
  | rules (id name : String) {form : Form} {rules : List Rule} :
    Rule.decodeList (room - 1) form = .ok rules →
    Spells room [.string (some id), .string (some name), form] { id, name, rules }

variable {room : Nat} {items : List Form} {form : Form} {s : Ruleset} {rules : List Rule}
  {text : String}

/-! ## Arrays -/

theorem Json.Decoder.text_eq_ok_iff :
    Decoder.text form = .ok text ↔ form = .string (some text) := by
  constructor
  · intro h
    unfold Decoder.text at h
    split at h
    · cases h
      rfl
    · cases h
  · rintro rfl
    rfl

theorem Json.Decoder.put_optional_eq_ok_iff {α β : Type} {name : String} {decode : Decoder β}
    {set : α → β → α} {a a' : α} :
    (RecordField.optional name decode set).put a form = .ok a' ↔
      ∃ b, decode form = .ok b ∧ set a b = a' := by
  refine bind_eq_ok.trans (exists_congr fun b => and_congr_right fun _ => ?_)
  exact ⟨Except.ok.inj, congrArg Except.ok⟩

/-- An array is read as a ruleset just if it spells one. -/
theorem Ruleset.decode_array_eq_ok_iff :
    decode room (.array items none) = .ok s ↔ Spells room items s := by
  constructor
  · intro h
    change Decoder.recordOfItems {} (fields room) items none = .ok s at h
    rcases items with _ | ⟨idForm, _ | ⟨nameForm, _ | ⟨rulesForm, _ | ⟨extra, items⟩⟩⟩⟩
    · cases h
      exact .nothing
    all_goals
      obtain ⟨_, hput, hname⟩ := bind_eq_ok.mp h
      obtain ⟨id, hid, rfl⟩ := Decoder.put_optional_eq_ok_iff.mp hput
      obtain rfl := Decoder.text_eq_ok_iff.mp hid
    · cases hname
      exact .id id
    all_goals
      obtain ⟨_, hput, hrules⟩ := bind_eq_ok.mp hname
      obtain ⟨name, htext, rfl⟩ := Decoder.put_optional_eq_ok_iff.mp hput
      obtain rfl := Decoder.text_eq_ok_iff.mp htext
    · cases hrules
      exact .name id name
    all_goals
      obtain ⟨_, hput, hend⟩ := bind_eq_ok.mp hrules
      obtain ⟨rules, hlist, rfl⟩ := Decoder.put_optional_eq_ok_iff.mp hput
    · cases hend
      exact .rules id name hlist
    · cases hend
  · intro h
    cases h with
    | nothing => rfl
    | id => rfl
    | name => rfl
    | rules id name hrules =>
      exact bind_eq_ok.mpr ⟨_, rfl, bind_eq_ok.mpr ⟨_, rfl,
        bind_eq_ok.mpr ⟨_, Decoder.put_optional hrules, rfl⟩⟩⟩

/-- A rule is no string. -/
theorem Rule.decodeList_string (room : Nat) (id : Option String) (items : List Form) :
    decodeList room (.array (.string id :: items) none) ≠ .ok rules := by
  intro h
  obtain ⟨_, hitems, -⟩ := bind_eq_ok.mp h
  rw [List.mapM_cons] at hitems
  obtain ⟨_, hrule, -⟩ := bind_eq_ok.mp hitems
  cases id <;> cases hrule

/-- Only an empty array is both a ruleset and a list of rules, and there are no rules in either. -/
theorem Ruleset.Spells.eq_nil_of_decodeList {room' : Nat} (hspells : Spells room items s)
    (hlist : Rule.decodeList room' (.array items none) = .ok rules) :
    items = [] ∧ s.rules = rules := by
  cases hspells with
  | nothing => exact ⟨rfl, Except.ok.inj hlist⟩
  | _ => exact (Rule.decodeList_string _ _ _ hlist).elim

/-! ## What is read -/

namespace CommandLine

variable {read : Files.Reader} {path : String}

/-- A file with this text has the rules that are listed in it, and no others. -/
def ReadsRulesOnly (text : String) : Prop :=
  ∀ (read : Files.Reader) (path : String), read path = .ok text →
    ∀ rules, loadRules read path = .ok rules ↔ Rule.listOfText text = .ok rules

theorem loadRules_eq_ok_iff (hread : read path = .ok text) :
    loadRules read path = .ok rules ↔ rulesOfText text = .ok rules := by
  rw [loadRules, hread]
  exact mapError_eq_ok

theorem readsRulesOnly_iff_rulesOfText :
    ReadsRulesOnly text ↔
      ∀ rules, rulesOfText text = .ok rules ↔ Rule.listOfText text = .ok rules := by
  constructor
  · intro H rules
    have hread : (fun _ : String => (.ok text : Except Files.Error String)) "" = .ok text := rfl
    exact (loadRules_eq_ok_iff hread).symm.trans (H _ _ hread rules)
  · intro H read path hread rules
    exact (loadRules_eq_ok_iff hread).trans (H rules)

theorem rulesOfText_eq_ok_iff :
    rulesOfText text = .ok rules ↔ (∃ s, Ruleset.ofText text = .ok s ∧ s.rules = rules) ∨
      (∀ s, Ruleset.ofText text ≠ .ok s) ∧ Rule.listOfText text = .ok rules := by
  rw [rulesOfText]
  cases Ruleset.ofText text with
  | error fault => simp
  | ok s => simp

/-- An array has the rules of the ruleset that it spells, or those that are listed in it. -/
theorem rulesOfText_array_eq_ok_iff (h : Form.ofText text = .ok (.array items none)) :
    rulesOfText text = .ok rules ↔
      (∃ s, Ruleset.Spells Json.depthLimit items s ∧ s.rules = rules) ∨
        Rule.listOfText text = .ok rules := by
  have hruleset : ∀ s, Ruleset.ofText text = .ok s ↔ Ruleset.Spells Json.depthLimit items s :=
    fun s => by rw [Ruleset.ofText, Json.decodeText_of_form h, Ruleset.decode_array_eq_ok_iff]
  simp only [rulesOfText_eq_ok_iff, ne_eq, hruleset]
  -- Where the array also spells a ruleset, this has the same rules.
  refine or_congr_right' fun hnone => and_iff_right_of_imp fun hlist s hspells => ?_
  rw [Rule.listOfText, Json.decodeText_of_form h] at hlist
  exact hnone ⟨s, hspells, (hspells.eq_nil_of_decodeList hlist).2⟩

/-- **An array is read as the rules in it just if it does not spell a ruleset with an id**, and then
it has the rules of this ruleset. -/
theorem readsRulesOnly_iff (h : Form.ofText text = .ok (.array items none)) :
    (∀ (read : Files.Reader) (path : String), read path = .ok text → ∀ rules,
      loadRules read path = .ok rules ↔
        (∃ s, Ruleset.Spells Json.depthLimit items s ∧ s.rules = rules) ∨
          Rule.listOfText text = .ok rules) ∧
      (ReadsRulesOnly text ↔ ∀ s, Ruleset.Spells Json.depthLimit items s → items = []) := by
  have hlist : Rule.listOfText text = Rule.decodeList Json.depthLimit (.array items none) :=
    Json.decodeText_of_form h
  have hload : ∀ rules, rulesOfText text = .ok rules ↔ _ := fun _ => rulesOfText_array_eq_ok_iff h
  refine ⟨fun read path hread rules => (loadRules_eq_ok_iff hread).trans (hload rules), ?_⟩
  rw [readsRulesOnly_iff_rulesOfText]
  constructor
  · intro H s hspells
    have hboth := (H s.rules).mp ((hload _).mpr (.inl ⟨s, hspells, rfl⟩))
    rw [hlist] at hboth
    exact (hspells.eq_nil_of_decodeList hboth).1
  · intro hempty rules
    refine (hload rules).trans (or_iff_right_of_imp ?_)
    rintro ⟨s, hspells, rfl⟩
    obtain rfl := hempty s hspells
    cases hspells
    exact hlist

/-- A ruleset with a rule is not taken for a list of rules. -/
theorem readsRulesOnly_iff_of_ruleset :
    let text := "[\"pay\", \"Pay\", [[\"Base\", \"1\"]]]"
    let items := [.string (some "pay"), .string (some "Pay"),
      .array [.array [.string (some "Base"), .string (some "1")] none] none]
    Form.ofText text = .ok (.array items none) ∧
    (∀ (read : Files.Reader) (path : String), read path = .ok text → ∀ rules,
      loadRules read path = .ok rules ↔
        (∃ s, Ruleset.Spells Json.depthLimit items s ∧ s.rules = rules) ∨
          Rule.listOfText text = .ok rules) ∧
      (ReadsRulesOnly text ↔ ∀ s, Ruleset.Spells Json.depthLimit items s → items = []) := by
  intro text items
  have h : Form.ofText text = .ok (.array items none) := by decide +kernel
  exact ⟨h, readsRulesOnly_iff h⟩

/-- An array with nothing but a string has no rules in it, but it is not refused. -/
theorem not_readsRulesOnly_of_id :
    let text := "[\"x\"]"
    Form.ofText text = .ok (.array [.string (some "x")] none) ∧
      rulesOfText text = .ok [] ∧ (∀ rules, Rule.listOfText text ≠ .ok rules) ∧
      ¬ReadsRulesOnly text := by
  intro text
  have h : Form.ofText text = .ok (.array [.string (some "x")] none) := by decide +kernel
  have hload : rulesOfText text = .ok [] :=
    (rulesOfText_array_eq_ok_iff h).mpr (.inl ⟨_, .id "x", rfl⟩)
  have hlist : ∀ rules, Rule.listOfText text ≠ .ok rules := fun rules => by
    rw [Rule.listOfText, Json.decodeText_of_form h]
    exact Rule.decodeList_string _ _ _
  exact ⟨h, hload, hlist, fun H => hlist [] ((readsRulesOnly_iff_rulesOfText.mp H []).mp hload)⟩

end CommandLine

end RulePyramid
