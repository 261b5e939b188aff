import RulePyramid.Rule.Json
import RulePyramid.Proofs.Date
import RulePyramid.Proofs.Json.Canonical

/-!
Rulesets are read as they were written (`Ruleset.ofText_render`). Every field of a record comes back
from its form. The notes of metadata come back because they are canonical: they ascend, have other
names than the fields, and are nested no deeper than where they were read. So without rounded
numbers the canonical rulesets are just those that have a text (`Ruleset.exists_ofText_iff`).
-/

namespace RulePyramid

open Json (Decoder RecordField Spread form memberForms bind_eq_ok)

namespace Date

theorem nullable_decode_form (d : Date) :
    Decoder.nullable decode d.toJson.form = .ok (some d) := by
  have hdecode : decode (.string (some d.text)) = .ok d := by
    simp only [decode, Decoder.text, bind, Except.bind, ofText?_text]
    rfl
  rw [toJson, form, Decoder.nullable, hdecode]
  · rfl
  · intro h
    cases h

end Date

/-! ## Metadata -/

namespace Metadata

variable {m m' : Metadata} {room : Nat}

/-- No number among the notes is rounded. -/
def FloatFree (m : Metadata) : Prop := ∀ note ∈ m.extra, note.2.FloatFree

/-- Metadata as they are read with so much room for arrays and objects inside one another. -/
structure Canonical (room : Nat) (m : Metadata) : Prop where
  ascending : Ascending Prod.fst m.extra
  unknown : ∀ note ∈ m.extra, ∀ field ∈ fields, field.name ≠ note.1
  notes : ∀ note ∈ m.extra, note.2.Canonical (room - 1)

theorem canonical_default : Canonical room {} :=
  ⟨.nil, List.forall_mem_nil _, List.forall_mem_nil _⟩

/-- The fields leave the notes as they are. -/
theorem fieldsKeep_canonical : Decoder.FieldsKeep fields (Canonical room) := by
  have hextra : ∀ field ∈ fields, ∀ m f m', field.put m f = .ok m' → m'.extra = m.extra := by
    intro field hfield m f m' h
    simp only [fields, List.mem_cons, List.not_mem_nil, or_false] at hfield
    rcases hfield with rfl | rfl | rfl
    all_goals
      obtain ⟨b, -, h⟩ := bind_eq_ok.mp h
      cases h
      rfl
  intro field hfield m f m' H h
  have heq := hextra field hfield m f m' h
  exact ⟨heq ▸ H.ascending, heq ▸ H.unknown, heq ▸ H.notes⟩

theorem Canonical.addNote {name : String} {f : Json.Form} (H : m.Canonical room)
    (hname : ∀ field ∈ fields, field.name ≠ name)
    (h : Metadata.addNote (room - 1) m name f = .ok m') : m'.Canonical room := by
  obtain ⟨j, hj, h⟩ := bind_eq_ok.mp h
  cases h
  refine ⟨Json.ascending_insertMember H.ascending, fun note hnote => ?_, fun note hnote => ?_⟩
  · rcases Json.mem_of_mem_insertMember hnote with rfl | hnote
    · exact hname
    · exact H.unknown note hnote
  · rcases Json.mem_of_mem_insertMember hnote with rfl | hnote
    · exact Json.ofForm_canonical f hj
    · exact H.notes note hnote

theorem canonical_of_decode {f : Json.Form} (h : decode room f = .ok m) : m.Canonical room := by
  cases f with
  | object members flaw =>
    exact Decoder.recordOfMembers_keeps fieldsKeep_canonical
      (fun _ _ _ _ hname H hnote => H.addNote hname hnote) canonical_default h
  | _ => cases h

/-- Notes in ascending order are read back one after another. -/
theorem readMembers_notes {given : List String} {ms : List (String × Json)}
    (hascending : Ascending Prod.fst (m.extra ++ ms))
    (hunknown : ∀ note ∈ ms, ∀ field ∈ fields, field.name ≠ note.1)
    (hnotes : ∀ note ∈ ms, note.2.Canonical (room - 1)) (hfloat : ∀ note ∈ ms, note.2.FloatFree) :
    Decoder.readMembers fields (Metadata.addNote (room - 1)) given m (memberForms ms) =
      .ok ({ m with extra := m.extra ++ ms }, given) := by
  induction ms generalizing m with
  | nil =>
    rw [List.append_nil]
    rfl
  | cons note ms ih =>
    obtain ⟨name, j⟩ := note
    obtain ⟨hname, hunknown⟩ := List.forall_mem_cons.mp hunknown
    obtain ⟨hj, hnotes⟩ := List.forall_mem_cons.mp hnotes
    obtain ⟨hjfloat, hfloat⟩ := List.forall_mem_cons.mp hfloat
    obtain ⟨-, -, hcross⟩ := List.pairwise_append.mp hascending
    have hlast : ∀ note ∈ m.extra, note.1 < name := fun note hnote =>
      hcross note hnote _ List.mem_cons_self
    have hfind : fields.find? (·.name = name) = none :=
      List.find?_eq_none.mpr fun field hfield heq => hname field hfield (of_decide_eq_true heq)
    have hnote : Metadata.addNote (room - 1) m name j.form =
        .ok { m with extra := m.extra ++ [(name, j)] } := by
      rw [Metadata.addNote, Json.ofForm_form hj hjfloat, ← Json.insertMember_of_lt hlast]
      rfl
    rw [List.append_cons] at hascending
    rw [memberForms, Decoder.readMembers_other hfind hnote, ih hascending hunknown hnotes hfloat,
      List.append_cons m.extra _ ms]

/-- The members of the text of metadata. -/
theorem toJson_eq (m : Metadata) :
    m.toJson = .object ((m.group.map fun g => ("group", Json.string g)).toList ++
      ((m.effectiveFrom.map fun d => ("effectiveFrom", d.toJson)).toList ++
        ((m.effectiveTo.map fun d => ("effectiveTo", d.toJson)).toList ++ m.extra))) := by
  obtain ⟨_ | group, _ | start, _ | stop, extra⟩ := m <;> rfl

/-- The members for the fields are read to the fields. -/
theorem exists_readMembers_fields (room : Nat) (group : Option String) (start stop : Option Date)
    (ms : List (String × Json)) :
    ∃ given, Decoder.readMembers fields (Metadata.addNote (room - 1)) [] {}
        (memberForms ((group.map fun g => ("group", Json.string g)).toList ++
          ((start.map fun d => ("effectiveFrom", d.toJson)).toList ++
            ((stop.map fun d => ("effectiveTo", d.toJson)).toList ++ ms)))) =
      Decoder.readMembers fields (Metadata.addNote (room - 1)) given ⟨group, start, stop, []⟩
        (memberForms ms) := by
  obtain ⟨given₁, hsubset₁, h₁⟩ := Decoder.exists_readMembers_option {} Json.string group
    ((start.map fun d => ("effectiveFrom", d.toJson)).toList ++
      ((stop.map fun d => ("effectiveTo", d.toJson)).toList ++ ms))
    (show fields.find? (·.name = "group") = some _ from rfl) List.not_mem_nil rfl fun _ => rfl
  obtain ⟨given₂, hsubset₂, h₂⟩ := Decoder.exists_readMembers_option ⟨group, none, none, []⟩
    Date.toJson start ((stop.map fun d => ("effectiveTo", d.toJson)).toList ++ ms)
    (show fields.find? (·.name = "effectiveFrom") = some _ from rfl)
    (fun hmem => absurd (hsubset₁ hmem) (by decide)) rfl Date.nullable_decode_form
  obtain ⟨given₃, hsubset₃, h₃⟩ := Decoder.exists_readMembers_option ⟨group, start, none, []⟩
    Date.toJson stop ms
    (show fields.find? (·.name = "effectiveTo") = some _ from rfl)
    (fun hmem => absurd (List.cons_subset_cons _ hsubset₁ (hsubset₂ hmem)) (by decide)) rfl
    Date.nullable_decode_form
  exact ⟨given₃, h₁.trans (h₂.trans h₃)⟩

theorem decode_form (H : m.Canonical room) (hfloat : m.FloatFree) :
    decode room m.toJson.form = .ok m := by
  obtain ⟨given, hfields⟩ :=
    exists_readMembers_fields room m.group m.effectiveFrom m.effectiveTo m.extra
  rw [toJson_eq, form, decode]
  exact Decoder.recordOfMembers_of_readMembers given
    (hfields.trans (readMembers_notes H.ascending H.unknown H.notes hfloat)) rfl

end Metadata

/-! ## Rules -/

namespace Rule

variable {r : Rule} {room : Nat}

theorem fieldsKeep_canonical :
    Decoder.FieldsKeep (fields room) fun r => r.metadata.Canonical (room - 1) := by
  intro field hfield r f r' H h
  simp only [fields, List.mem_cons, List.not_mem_nil, or_false] at hfield
  rcases hfield with rfl | rfl | rfl | rfl
  all_goals
    obtain ⟨b, hb, h⟩ := bind_eq_ok.mp h
    cases h
  · exact H
  · exact H
  · exact H
  · exact Metadata.canonical_of_decode hb

theorem canonical_of_decode {f : Json.Form} (h : decode room f = .ok r) :
    r.metadata.Canonical (room - 1) :=
  Decoder.record_keeps (fun r => r.metadata.Canonical (room - 1)) fieldsKeep_canonical
    Metadata.canonical_default h

theorem decode_form (H : r.metadata.Canonical (room - 1)) (hfloat : r.metadata.FloatFree) :
    decode room r.toJson.form = .ok r := by
  refine Decoder.recordOfMembers_of_readMembers ["metadata", "dependsOn", "expression", "target"] ?_
    rfl
  rw [memberForms, Decoder.readMembers_field rfl (by decide)
    (Decoder.put_required (Decoder.text_form r.target))]
  rw [memberForms, Decoder.readMembers_field rfl (by decide)
    (Decoder.put_optional (Decoder.text_form r.expression))]
  rw [memberForms, Decoder.readMembers_field rfl (by decide)
    (Decoder.put_optional (Decoder.texts_form r.dependsOn))]
  rw [memberForms, Decoder.readMembers_field rfl (by decide)
    (Decoder.put_optional (Metadata.decode_form H hfloat))]
  rfl

end Rule

/-! ## Rulesets -/

namespace Ruleset

/-- No number in the notes of a rule is rounded. -/
def FloatFree (s : Ruleset) : Prop := ∀ r ∈ s.rules, r.metadata.FloatFree

/-- A ruleset as it is read with so much room for arrays and objects inside one another. -/
def Canonical (room : Nat) (s : Ruleset) : Prop :=
  ∀ r ∈ s.rules, r.metadata.Canonical (room - 1 - 1 - 1)

variable {s : Ruleset} {room : Nat} {text : String}

theorem fieldsKeep_canonical : Decoder.FieldsKeep (fields room) (Canonical room) := by
  intro field hfield s f s' H h
  simp only [fields, List.mem_cons, List.not_mem_nil, or_false] at hfield
  rcases hfield with rfl | rfl | rfl
  all_goals
    obtain ⟨b, hb, h⟩ := bind_eq_ok.mp h
    cases h
  · exact H
  · exact H
  · intro r hr
    obtain ⟨f, hf⟩ := Decoder.exists_of_mem_list hb hr
    exact Rule.canonical_of_decode hf

theorem canonical_of_ofText (h : ofText text = .ok s) : s.Canonical Json.depthLimit := by
  obtain ⟨s', hdecode, h⟩ := bind_eq_ok.mp h
  obtain ⟨-, -, h⟩ := bind_eq_ok.mp h
  cases h
  exact Decoder.record_keeps (Canonical Json.depthLimit) fieldsKeep_canonical
    (fun _ hr => absurd hr List.not_mem_nil) hdecode

theorem decode_form (H : s.Canonical room) (hfloat : s.FloatFree) :
    decode room s.toJson.form = .ok s := by
  have hrules : Rule.decodeList (room - 1) (Rule.listToJson s.rules).form = .ok s.rules :=
    Decoder.list_form fun r hr => Rule.decode_form (H r hr) (hfloat r hr)
  refine Decoder.recordOfMembers_of_readMembers ["rules", "name", "id"] ?_ rfl
  rw [memberForms, Decoder.readMembers_field rfl (by decide)
    (Decoder.put_optional (Decoder.text_form s.id))]
  rw [memberForms, Decoder.readMembers_field rfl (by decide)
    (Decoder.put_optional (Decoder.text_form s.name))]
  rw [memberForms, Decoder.readMembers_field rfl (by decide)
    (Decoder.put_optional hrules)]
  rfl

theorem ofText_render_of_canonical (H : s.Canonical Json.depthLimit) (hfloat : s.FloatFree)
    (spread : Spread) : ofText (s.toJson.render spread) = .ok s := by
  simp only [ofText, Json.decodeText, Json.reading_render,
    decode_form H hfloat]
  rfl

/-- Of the rulesets without rounded numbers the canonical ones have texts. -/
theorem exists_ofText_iff (hfloat : s.FloatFree) :
    (∃ text, ofText text = .ok s) ↔ s.Canonical Json.depthLimit := by
  constructor
  · rintro ⟨text, h⟩
    exact canonical_of_ofText h
  · intro H
    exact ⟨s.toJson.render .compact, ofText_render_of_canonical H hfloat .compact⟩

/-- **A ruleset is read as it was written.** -/
theorem ofText_render (h : ofText text = .ok s) (hfloat : s.FloatFree) (spread : Spread) :
    ofText (s.toJson.render spread) = .ok s :=
  ofText_render_of_canonical (canonical_of_ofText h) hfloat spread

/-- A rule in effect from a year beyond four digits, with a note of several shapes. -/
def noted : Ruleset where
  rules := [{
    target := "Bonus"
    metadata := {
      effectiveFrom := some ⟨12345, 1, 31, by decide⟩
      extra := [("codes", .array [.integer (-7), .object [("key", .string "\x01")]])] } }]

theorem floatFree_noted : noted.FloatFree := by
  refine List.forall_mem_singleton.mpr (List.forall_mem_singleton.mpr (.array ?_))
  refine List.forall_mem_cons.mpr ⟨.integer _, List.forall_mem_singleton.mpr (.object ?_)⟩
  exact List.forall_mem_singleton.mpr (.string _)

def notedText : String :=
  "\x7b\"rules\":[\x7b\"target\":\"Bonus\",\"metadata\":\x7b" ++
    "\"codes\":[-7,\x7b\"key\":\"\\u0001\"\x7d],\"effectiveFrom\":\"+12345-1-31\"\x7d\x7d]\x7d"

def notedForm : Json.Form :=
  let note := .object [(some "key", .string (some "\x01"))] none
  let metadata := [
    (some "codes", .array [.number ⟨true, [7], none, none⟩, note] none),
    (some "effectiveFrom", .string (some "+12345-1-31"))]
  let rule := [(some "target", .string (some "Bonus")), (some "metadata", .object metadata none)]
  .object [(some "rules", .array [.object rule none] none)] none

theorem ofText_render_noted :
    ofText notedText = .ok noted ∧ noted.FloatFree ∧
      ofText (noted.toJson.render .pretty) = .ok noted := by
  have hform : Json.Form.ofText notedText = .ok notedForm := by decide +kernel
  have hread : ofText notedText = .ok noted := Json.decodeText_of_form hform
  exact ⟨hread, floatFree_noted, ofText_render hread floatFree_noted .pretty⟩

end Ruleset

end RulePyramid
