import RulePyramid.Proofs.Json.Decode
import RulePyramid.Proofs.Order

/-!
What comes from reading a value of any shape is canonical: the members of its objects ascend, its
integers have at most sixty-four bits, and it is nested no deeper than there is room
(`ofForm_canonical`). A canonical value is kept when its form is read (`ofForm_form`), so what has
been read once is read the same again.
-/

namespace RulePyramid.Json

variable {name : String} {j value : Json} {ms : List (String × Json)} {m : String × Json}
  {room : Nat}

/-! ## Sorted members -/

theorem mem_of_mem_insertMember (hm : m ∈ insertMember name value ms) :
    m = (name, value) ∨ m ∈ ms := by
  induction ms with
  | nil => exact .inl (List.mem_singleton.mp hm)
  | cons first ms ih =>
    obtain ⟨n, v⟩ := first
    rw [insertMember] at hm
    split at hm
    · exact List.mem_cons.mp hm
    · split at hm
      · exact (List.mem_cons.mp hm).imp_right (List.mem_cons_of_mem _)
      · rcases List.mem_cons.mp hm with rfl | hm
        · exact .inr List.mem_cons_self
        · exact (ih hm).imp_right (List.mem_cons_of_mem _)

theorem ascending_insertMember (h : Ascending Prod.fst ms) :
    Ascending Prod.fst (insertMember name value ms) := by
  induction ms with
  | nil => exact List.pairwise_singleton _ _
  | cons first ms ih =>
    obtain ⟨n, v⟩ := first
    obtain ⟨hfirst, hms⟩ := List.pairwise_cons.mp h
    rw [insertMember]
    split
    · next hlt =>
      refine List.pairwise_cons.mpr ⟨fun m hm => ?_, h⟩
      rcases List.mem_cons.mp hm with rfl | hm
      · exact hlt
      · exact lt_trans hlt (hfirst m hm)
    · next hnlt =>
      split
      · next heq => exact List.pairwise_cons.mpr ⟨fun m hm => heq ▸ hfirst m hm, hms⟩
      · next hne =>
        refine List.pairwise_cons.mpr ⟨fun m hm => ?_, ih hms⟩
        rcases mem_of_mem_insertMember hm with rfl | hm
        · exact lt_of_le_of_ne (not_lt.mp hnlt) (Ne.symm hne)
        · exact hfirst m hm

/-- A member with the greatest name comes last. -/
theorem insertMember_of_lt (h : ∀ m ∈ ms, m.1 < name) :
    insertMember name value ms = ms ++ [(name, value)] := by
  induction ms with
  | nil => rfl
  | cons first ms ih =>
    obtain ⟨n, v⟩ := first
    obtain ⟨hfirst, hms⟩ := List.forall_mem_cons.mp h
    rw [insertMember, if_neg (lt_asymm hfirst), if_neg (ne_of_gt hfirst), ih hms, List.cons_append]

/-- Members that are inserted in ascending order stay in this order. -/
theorem foldl_insertMember (before : List (String × Json)) (h : Ascending Prod.fst (before ++ ms)) :
    ms.foldl (fun sorted (name, value) => insertMember name value sorted) before =
      before ++ ms := by
  induction ms generalizing before with
  | nil => exact (List.append_nil before).symm
  | cons m ms ih =>
    obtain ⟨name, value⟩ := m
    obtain ⟨-, -, hcross⟩ := List.pairwise_append.mp h
    have hlast : ∀ b ∈ before, b.1 < name := fun b hb => hcross b hb _ List.mem_cons_self
    rw [List.append_cons] at h ⊢
    rw [List.foldl_cons, ← ih _ h, ← insertMember_of_lt hlast]

theorem sortMembers_of_ascending (h : Ascending Prod.fst ms) : sortMembers ms = ms :=
  foldl_insertMember [] h

theorem ascending_sortMembers (ms : List (String × Json)) :
    Ascending Prod.fst (sortMembers ms) :=
  List.foldlRecOn ms _ .nil fun _ h _ _ => ascending_insertMember h

theorem mem_of_mem_sortMembers : ∀ m ∈ sortMembers ms, m ∈ ms := by
  refine List.foldlRecOn (motive := fun sorted => ∀ m ∈ sorted, m ∈ ms) ms _
    (List.forall_mem_nil _) fun sorted h first hfirst m hm => ?_
  rcases mem_of_mem_insertMember hm with rfl | hm
  · exact hfirst
  · exact h m hm

/-! ## Canonical values -/

/-- A value as it is read with so much room for arrays and objects inside one another. -/
inductive Canonical : Nat → Json → Prop
  | null {room : Nat} : Canonical room .null
  | bool {room : Nat} (b : Bool) : Canonical room (.bool b)
  | integer {room : Nat} {n : Int} : Number.IsExact n → Canonical room (.integer n)
  | double {room : Nat} (x : Double) : Canonical room (.double x)
  | string {room : Nat} (s : String) : Canonical room (.string s)
  | array {room : Nat} {items : List Json} : (∀ j ∈ items, Canonical room j) →
    Canonical (room + 1) (.array items)
  | object {room : Nat} {members : List (String × Json)} : Ascending Prod.fst members →
    (∀ m ∈ members, Canonical room m.2) → Canonical (room + 1) (.object members)

mutual

theorem ofForm_canonical {room : Nat} {j : Json} :
    (f : Form) → ofForm room f = .ok j → j.Canonical room
  | .null, h => by cases h; exact .null
  | .bool b, h => by cases h; exact .bool b
  | .number n, h => by
    obtain ⟨k, hk, h⟩ := bind_eq_ok.mp h
    cases k with
    | integer k =>
      cases h
      exact .integer (Number.isExact_of_number hk)
    | real x =>
      cases h
      exact .double x
  | .string (some s), h => by cases h; exact .string s
  | .string none, h => by cases h
  | .array items flaw, h => by
    cases room with
    | zero => cases h
    | succ room =>
      obtain ⟨js, hjs, h⟩ := bind_eq_ok.mp h
      obtain ⟨-, -, h⟩ := bind_eq_ok.mp h
      cases h
      exact .array (ofItems_canonical items hjs)
  | .object members flaw, h => by
    cases room with
    | zero => cases h
    | succ room =>
      obtain ⟨ms, hms, h⟩ := bind_eq_ok.mp h
      obtain ⟨-, -, h⟩ := bind_eq_ok.mp h
      cases h
      exact .object (ascending_sortMembers ms) fun m hm =>
        ofMembers_canonical members hms m (mem_of_mem_sortMembers m hm)
  | .broken flaw, h => by cases h

theorem ofItems_canonical {room : Nat} {js : List Json} :
    (fs : List Form) → ofItems room fs = .ok js → ∀ j ∈ js, j.Canonical room
  | [], h => by cases h; exact List.forall_mem_nil _
  | f :: fs, h => by
    obtain ⟨j, hj, h⟩ := bind_eq_ok.mp h
    obtain ⟨js, hjs, h⟩ := bind_eq_ok.mp h
    cases h
    exact List.forall_mem_cons.mpr ⟨ofForm_canonical f hj, ofItems_canonical fs hjs⟩

theorem ofMembers_canonical {room : Nat} {ms : List (String × Json)} :
    (fs : List (Option String × Form)) → ofMembers room fs = .ok ms →
      ∀ m ∈ ms, m.2.Canonical room
  | [], h => by cases h; exact List.forall_mem_nil _
  | (none, _) :: _, h => by cases h
  | (some name, f) :: fs, h => by
    obtain ⟨j, hj, h⟩ := bind_eq_ok.mp h
    obtain ⟨ms, hms, h⟩ := bind_eq_ok.mp h
    cases h
    exact List.forall_mem_cons.mpr ⟨ofForm_canonical f hj, ofMembers_canonical fs hms⟩

end

theorem ofItems_form {js : List Json} (h : ∀ j ∈ js, ofForm room j.form = .ok j) :
    ofItems room (itemForms js) = .ok js := by
  induction js with
  | nil => rfl
  | cons j js ih =>
    obtain ⟨hj, hjs⟩ := List.forall_mem_cons.mp h
    rw [itemForms, ofItems, hj, ih hjs]
    rfl

theorem ofMembers_form (h : ∀ m ∈ ms, ofForm room m.2.form = .ok m.2) :
    ofMembers room (memberForms ms) = .ok ms := by
  induction ms with
  | nil => rfl
  | cons m ms ih =>
    obtain ⟨name, j⟩ := m
    obtain ⟨hj, hms⟩ : ofForm room j.form = .ok j ∧ ∀ m ∈ ms, ofForm room m.2.form = .ok m.2 :=
      List.forall_mem_cons.mp h
    rw [memberForms, ofMembers, hj, ih hms]
    rfl

/-- Reading a canonical value keeps it. -/
theorem ofForm_form (hj : j.Canonical room) (hfloat : j.FloatFree) :
    ofForm room j.form = .ok j := by
  induction hj with
  | null => rfl
  | bool b => rfl
  | integer hn =>
    rw [form, ofForm, Numeral.number_ofInt hn]
    rfl
  | double x => cases hfloat
  | string s => rfl
  | array _ ih =>
    cases hfloat with
    | array hfloat =>
      rw [form, ofForm, ofItems_form fun j hj => ih j hj (hfloat j hj)]
      rfl
  | object hascending _ ih =>
    cases hfloat with
    | object hfloat =>
      rw [form, ofForm, ofMembers_form fun m hm => ih m hm (hfloat m hm)]
      exact congrArg (fun ms => Except.ok (Json.object ms)) (sortMembers_of_ascending hascending)

end RulePyramid.Json
