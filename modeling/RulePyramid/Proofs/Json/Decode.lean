import RulePyramid.Json.Decode
import RulePyramid.Proofs.Json.Values

/-!
What can be said of a record whatever its fields are. Lists and members come back from their forms
if what they hold does (`Decoder.list_form`, `Decoder.readMembers_field`), and a property that every
field keeps holds of every record that is read (`Decoder.record_keeps`).
-/

namespace RulePyramid.Json

theorem bind_eq_ok {ε α β : Type} {x : Except ε α} {next : α → Except ε β} {b : β} :
    (x >>= next) = .ok b ↔ ∃ a, x = .ok a ∧ next a = .ok b := by
  cases x with
  | error e =>
    constructor
    · intro h
      cases h
    · rintro ⟨a, h, -⟩
      cases h
  | ok a =>
    constructor
    · intro h
      exact ⟨a, rfl, h⟩
    · rintro ⟨_, hx, h⟩
      cases hx
      exact h

theorem mapError_eq_ok {ε ε' α : Type} {x : Except ε α} {f : ε → ε'} {a : α} :
    x.mapError f = .ok a ↔ x = .ok a := by
  cases x <;> simp [Except.mapError]

/-- A text that says one value is read as this value is. -/
theorem decodeText_of_form {α : Type} {decode : Decoder α} {text : String} {form : Form}
    (h : Form.ofText text = .ok form) : decodeText decode text = decode form := by
  rcases hread : Reading.ofText text with ⟨f, next⟩
  simp only [Form.ofText, hread] at h
  obtain ⟨⟨⟩, hfinish, h⟩ := bind_eq_ok.mp h
  obtain rfl : f = form := Except.ok.inj h
  simp only [decodeText, hread, hfinish]
  exact bind_pure (decode f)

namespace Decoder

/-! ## Lists -/

section
variable {α : Type} {decode : Decoder α} {encode : α → Json} {as : List α} {a : α}
  {forms : List Form} {form : Form}

theorem exists_of_mem_mapM (h : forms.mapM decode = .ok as) (ha : a ∈ as) :
    ∃ form, decode form = .ok a := by
  induction forms generalizing as with
  | nil =>
    cases h
    cases ha
  | cons form forms ih =>
    rw [List.mapM_cons] at h
    obtain ⟨b, hb, h⟩ := bind_eq_ok.mp h
    obtain ⟨bs, hbs, h⟩ := bind_eq_ok.mp h
    cases h
    rcases List.mem_cons.mp ha with rfl | ha
    · exact ⟨form, hb⟩
    · exact ih hbs ha

/-- Every item of a list is read from some form. -/
theorem exists_of_mem_list (h : list decode form = .ok as) (ha : a ∈ as) :
    ∃ form, decode form = .ok a := by
  cases form with
  | array items flaw =>
    obtain ⟨bs, hbs, h⟩ := bind_eq_ok.mp h
    obtain ⟨-, -, h⟩ := bind_eq_ok.mp h
    cases h
    exact exists_of_mem_mapM hbs ha
  | _ => cases h

/-- A list is read from its form if its items are. -/
theorem list_form (h : ∀ a ∈ as, decode (encode a).form = .ok a) :
    list decode (Json.list encode as).form = .ok as := by
  have hmapM : (itemForms (as.map encode)).mapM decode = .ok as := by
    induction as with
    | nil => rfl
    | cons a as ih =>
      obtain ⟨ha, has⟩ := List.forall_mem_cons.mp h
      rw [List.map_cons, itemForms, List.mapM_cons, ha, ih has]
      rfl
  simp only [Json.list, Json.form, list, hmapM]
  rfl

theorem text_form (s : String) : text (Json.string s).form = .ok s := rfl

theorem texts_form (ss : List String) : list text (Json.texts ss).form = .ok ss :=
  list_form fun s _ => text_form s

end

/-! ## Records -/

section
variable {α β : Type} {fields : List (RecordField α)} {other : α → String → Decoder α}
  {Inv : α → Prop} {given given' : List String} {a a' : α} {field : RecordField α}
  {members : List (Option String × Form)} {name : String} {form : Form} {decode : Decoder β}
  {set : α → β → α} {b : β} {flaw : Option Flaw}

theorem put_required (h : decode form = .ok b) :
    (RecordField.required name decode set).put a form = .ok (set a b) := by
  simp only [RecordField.required, h]
  rfl

theorem put_optional (h : decode form = .ok b) :
    (RecordField.optional name decode set).put a form = .ok (set a b) := by
  simp only [RecordField.optional, h]
  rfl

/-- A member with the name of a field is the first one with this name. -/
theorem readMembers_field (hfield : fields.find? (·.name = name) = some field)
    (hgiven : name ∉ given) (hput : field.put a form = .ok a') :
    readMembers fields other given a ((some name, form) :: members) =
      readMembers fields other (name :: given) a' members := by
  rw [readMembers, hfield]
  simp only [if_neg hgiven, hput]
  rfl

theorem readMembers_other (hname : fields.find? (·.name = name) = none)
    (hother : other a name form = .ok a') :
    readMembers fields other given a ((some name, form) :: members) =
      readMembers fields other given a' members := by
  rw [readMembers, hname]
  simp only [hother]
  rfl

theorem recordOfMembers_of_readMembers (given : List String)
    (h : readMembers fields other [] a members = .ok (a', given))
    (hgiven : isComplete fields given) :
    recordOfMembers fields other a members none = .ok a' := by
  rw [recordOfMembers, h]
  exact if_pos hgiven

theorem mem_memberForms {j : Json} {ms : List (String × Json)} (h : (name, j) ∈ ms) :
    (some name, j.form) ∈ memberForms ms := by
  induction ms with
  | nil => cases h
  | cons m ms ih =>
    rcases List.mem_cons.mp h with rfl | h
    · exact List.mem_cons_self
    · exact List.mem_cons_of_mem _ (ih h)

/-- Every member with the name of a field has been read by this field. -/
theorem exists_put_of_readMembers {r : α × List String}
    (h : readMembers fields other given a members = .ok r) (hmem : (some name, form) ∈ members)
    (hfield : fields.find? (·.name = name) = some field) : ∃ a b, field.put a form = .ok b := by
  induction members generalizing a given with
  | nil => cases hmem
  | cons member members ih =>
    obtain ⟨_ | name', form'⟩ := member
    · cases h
    · rw [readMembers] at h
      rcases List.mem_cons.mp hmem with heq | hmem
      · cases heq
        rw [hfield] at h
        dsimp only at h
        split at h
        · cases h
        · obtain ⟨b, hb, -⟩ := bind_eq_ok.mp h
          exact ⟨a, b, hb⟩
      · split at h
        · obtain ⟨b, -, h⟩ := bind_eq_ok.mp h
          exact ih h hmem
        · split at h
          · cases h
          · obtain ⟨b, -, h⟩ := bind_eq_ok.mp h
            exact ih h hmem

/-- A member that is left out where there is no value is read to the value or to none. -/
theorem exists_readMembers_option {set : α → Option β → α} (a : α) (encode : β → Json)
    (o : Option β) (ms : List (String × Json))
    (hfield : fields.find? (·.name = name) = some (.optional name (nullable decode) set))
    (hgiven : name ∉ given) (hnone : set a none = a)
    (hsome : ∀ b, nullable decode (encode b).form = .ok (some b)) :
    ∃ given' ⊆ name :: given,
      readMembers fields other given a
          (memberForms ((o.map fun b => (name, encode b)).toList ++ ms)) =
        readMembers fields other given' (set a o) (memberForms ms) := by
  cases o with
  | none => exact ⟨given, List.subset_cons_self _ _, by rw [hnone]; rfl⟩
  | some b =>
    exact ⟨name :: given, List.Subset.refl _,
      readMembers_field hfield hgiven (put_optional (hsome b))⟩

/-- Every field keeps a property of records. -/
def FieldsKeep (fields : List (RecordField α)) (Inv : α → Prop) : Prop :=
  ∀ field ∈ fields, ∀ a form a', Inv a → field.put a form = .ok a' → Inv a'

theorem readMembers_keeps (hfields : FieldsKeep fields Inv)
    (hother : ∀ a name form a', (∀ field ∈ fields, field.name ≠ name) → Inv a →
      other a name form = .ok a' → Inv a') (ha : Inv a)
    (h : readMembers fields other given a members = .ok (a', given')) : Inv a' := by
  induction members generalizing a given with
  | nil =>
    cases h
    exact ha
  | cons member members ih =>
    obtain ⟨_ | name, form⟩ := member
    · cases h
    · rw [readMembers] at h
      split at h
      · next hname =>
        obtain ⟨b, hb, h⟩ := bind_eq_ok.mp h
        refine ih (hother _ _ _ _ (fun field hfield heq => ?_) ha hb) h
        exact List.find?_eq_none.mp hname field hfield (decide_eq_true heq)
      · next field hfield =>
        split at h
        · cases h
        · obtain ⟨b, hb, h⟩ := bind_eq_ok.mp h
          exact ih (hfields _ (List.mem_of_find?_eq_some hfield) _ _ _ ha hb) h

theorem recordOfMembers_keeps (hfields : FieldsKeep fields Inv)
    (hother : ∀ a name form a', (∀ field ∈ fields, field.name ≠ name) → Inv a →
      other a name form = .ok a' → Inv a') (ha : Inv a)
    (h : recordOfMembers fields other a members flaw = .ok a') : Inv a' := by
  obtain ⟨⟨b, given⟩, hb, h⟩ := bind_eq_ok.mp h
  obtain ⟨-, -, h⟩ := bind_eq_ok.mp h
  split at h
  · cases h
    exact readMembers_keeps hfields hother ha hb
  · cases h

theorem recordOfItems_keeps {forms : List Form} (hfields : FieldsKeep fields Inv) (ha : Inv a)
    (h : recordOfItems a fields forms flaw = .ok a') : Inv a' := by
  induction fields generalizing a forms with
  | nil =>
    cases forms with
    | nil =>
      obtain ⟨-, -, h⟩ := bind_eq_ok.mp h
      cases h
      exact ha
    | cons => cases h
  | cons field fields ih =>
    obtain ⟨hfield, hfields⟩ := List.forall_mem_cons.mp hfields
    cases forms with
    | nil =>
      obtain ⟨-, -, h⟩ := bind_eq_ok.mp h
      split at h
      · cases h
        exact ha
      · cases h
    | cons form forms =>
      obtain ⟨b, hb, h⟩ := bind_eq_ok.mp h
      exact ih hfields (hfield _ _ _ ha hb) h

/-- What all fields keep holds of every record that is read. -/
theorem record_keeps (Inv : α → Prop) (hfields : FieldsKeep fields Inv) (ha : Inv a)
    (h : record fields a form = .ok a') : Inv a' := by
  cases form with
  | array items flaw => exact recordOfItems_keeps hfields ha h
  | object members flaw =>
    refine recordOfMembers_keeps hfields (fun b name form b' _ hb hskip => ?_) ha h
    obtain ⟨-, -, hskip⟩ := bind_eq_ok.mp hskip
    cases hskip
    exact hb
  | _ => cases h

end

end Decoder

end RulePyramid.Json
