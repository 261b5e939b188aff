import RulePyramid.Proofs.Json.Decimals
import RulePyramid.Proofs.Json.Strings

/-!
The text of a value is read as the form of this value (`reading_render`). The blanks between the
parts of a value are not looked at, and the number that the functions of the grammar count down is
large enough: a part takes no more than two for each character, and what stands around the parts
makes up for the calls in between.
-/

namespace RulePyramid.Json

/-- A value without numbers that are rounded. -/
inductive FloatFree : Json → Prop
  | null : FloatFree .null
  | bool (b : Bool) : FloatFree (.bool b)
  | integer (n : Int) : FloatFree (.integer n)
  | string (s : String) : FloatFree (.string s)
  | array {items : List Json} : (∀ j ∈ items, FloatFree j) → FloatFree (.array items)
  | object {members : List (String × Json)} : (∀ m ∈ members, FloatFree m.2) →
    FloatFree (.object members)

mutual

/-- The form of the text of a value. -/
def form : Json → Form
  | .null => .null
  | .bool b => .bool b
  | .integer n => .number (.ofInt n)
  | .single x => numberForm singleStyle x
  | .double x => numberForm doubleStyle x
  | .string s => .string (some s)
  | .array items => .array (itemForms items) none
  | .object members => .object (memberForms members) none

def itemForms : List Json → List Form
  | [] => []
  | item :: items => form item :: itemForms items

def memberForms : List (String × Json) → List (Option String × Form)
  | [] => []
  | (name, value) :: members => (some name, form value) :: memberForms members

end

variable {j item : Json} {js : List Json} {ms : List (String × Json)} {name : String}
  {f : Form} {before : List Form} {named : List (Option String × Form)} {spread : Spread}
  {level fuel : Nat} {cs cs' rest after : List Char} {c : Char}

/-! ## Blanks -/

theorem skipSpace_lineBreak (spread : Spread) (level : Nat) (cs : List Char) :
    skipSpace (spread.lineBreak level ++ cs) = skipSpace cs := by
  cases spread with
  | compact => rfl
  | pretty =>
    refine List.dropWhile_append_of_pos fun c hc => ?_
    rcases List.mem_cons.mp hc with rfl | hc
    · rfl
    · rw [List.eq_of_mem_replicate hc]
      rfl

theorem skipSpace_cons (hc : isSpace c = false) (cs : List Char) :
    skipSpace (c :: cs) = c :: cs :=
  List.dropWhile_cons_of_neg (by rw [hc]; decide)

theorem skipSpace_stringChars (s : String) (cs : List Char) :
    skipSpace (stringChars s ++ cs) = stringChars s ++ cs := by
  rw [stringChars_append]
  exact skipSpace_cons (by decide) _

theorem exists_colon_append_eq (spread : Spread) (cs : List Char) :
    ∃ cs', spread.colon ++ cs = ':' :: cs' ∧ skipSpace cs' = skipSpace cs := by
  cases spread with
  | compact => exact ⟨cs, rfl, rfl⟩
  | pretty => exact ⟨' ' :: cs, rfl, rfl⟩

theorem value_congr (fuel : Nat) (h : skipSpace cs = skipSpace cs') :
    value fuel cs = value fuel cs' := by
  cases fuel with
  | zero => rw [value, value]
  | succ fuel => rw [value, value, h]

theorem items_congr (fuel : Nat) (before : List Form) (h : skipSpace cs = skipSpace cs') :
    items fuel before cs = items fuel before cs' := by
  cases fuel with
  | zero => rw [items, items]
  | succ fuel => rw [items, items, value_congr fuel h]

theorem members_congr (fuel : Nat) (named : List (Option String × Form))
    (h : skipSpace cs = skipSpace cs') : members fuel named cs = members fuel named cs' := by
  cases fuel with
  | zero => rw [members, members]
  | succ fuel => rw [members, members, h]

/-! ## Parts of arrays and objects -/

/-- An array that does not end at once consists of its items. -/
theorem value_array (fuel : Nat) (h : skipSpace cs = c :: cs') (hspace : isSpace c = false)
    (hc : c ≠ ']') : value (fuel + 1) ('[' :: cs) = items fuel [] cs := by
  have hfirst : skipSpace (c :: cs') = skipSpace cs := by rw [skipSpace_cons hspace, h]
  rw [value, skipSpace_cons (by decide), ← items_congr fuel [] hfirst]
  simp [h, hc]

/-- An object that begins with a string consists of its members. -/
theorem value_object (fuel : Nat) (h : skipSpace cs = stringChars name ++ cs') :
    value (fuel + 1) ('\x7b' :: cs) = members fuel [] cs := by
  have hname : skipSpace (stringChars name ++ cs') = skipSpace cs := by
    rw [skipSpace_stringChars, h]
  rw [value, skipSpace_cons (by decide), ← members_congr fuel [] hname]
  simp [h, stringChars_append]

theorem items_comma (hitem : value fuel cs = (f, .ok rest))
    (hrest : skipSpace rest = ',' :: after) :
    items (fuel + 1) before cs = items fuel (f :: before) after := by
  rw [items, hitem]
  simp [hrest]

theorem items_close (hitem : value fuel cs = (f, .ok rest))
    (hrest : skipSpace rest = ']' :: after) :
    items (fuel + 1) before cs = (.array (f :: before).reverse none, .ok after) := by
  rw [items, hitem]
  simp [hrest]

theorem members_comma (hname : skipSpace cs = stringChars name ++ ':' :: cs')
    (hvalue : value fuel cs' = (f, .ok rest)) (hrest : skipSpace rest = ',' :: after) :
    members (fuel + 1) named cs = members fuel ((some name, f) :: named) after := by
  have hcolon : skipSpace (':' :: cs') = ':' :: cs' := skipSpace_cons (by decide) cs'
  rw [members, hname, stringChars_append]
  simp [stringTail_escaped, hcolon, hvalue, hrest]

theorem members_close (hname : skipSpace cs = stringChars name ++ ':' :: cs')
    (hvalue : value fuel cs' = (f, .ok rest)) (hrest : skipSpace rest = '\x7d' :: after) :
    members (fuel + 1) named cs =
      (.object ((some name, f) :: named).reverse none, .ok after) := by
  have hcolon : skipSpace (':' :: cs') = ':' :: cs' := skipSpace_cons (by decide) cs'
  rw [members, hname, stringChars_append]
  simp [stringTail_escaped, hcolon, hvalue, hrest]

/-! ## Written values -/

/-- A value is read from its text, whatever comes after it. -/
def ReadsBack (j : Json) : Prop :=
  ∀ (spread : Spread) (level fuel : Nat) (rest : List Char),
    2 * (j.chars spread level).length ≤ fuel → EndsNumber rest →
      value fuel (j.chars spread level ++ rest) = (j.form, .ok rest)

/-- A value begins with what is no blank and closes no array. -/
theorem exists_chars_eq_cons (j : Json) (spread : Spread) (level : Nat) :
    ∃ c cs, j.chars spread level = c :: cs ∧ isSpace c = false ∧ c ≠ ']' := by
  have hnumber : ∀ {f : Binary.Format} {style : Decimal.Style}, style.keepPoint = true →
      ∀ x : Binary f,
        ∃ c cs, (numberText style x).toList = c :: cs ∧ isSpace c = false ∧ c ≠ ']' := by
    intro f style hpoint x
    obtain ⟨c, cs, hcs, rfl | hc⟩ := exists_numberText_eq_cons hpoint x
    · exact ⟨'n', cs, hcs, by decide, by decide⟩
    · exact ⟨c, cs, hcs, hc.isSpace_eq_false, hc.ne (by decide) (by decide)⟩
  cases j with
  | null => exact ⟨'n', _, rfl, by decide, by decide⟩
  | bool b =>
    cases b with
    | true => exact ⟨'t', _, rfl, by decide, by decide⟩
    | false => exact ⟨'f', _, rfl, by decide, by decide⟩
  | integer n =>
    obtain ⟨c, cs, hcs, hc⟩ := exists_toString_eq_cons n
    exact ⟨c, cs, hcs, hc.isSpace_eq_false, hc.ne (by decide) (by decide)⟩
  | single x => exact hnumber rfl x
  | double x => exact hnumber rfl x
  | string s => exact ⟨'"', _, rfl, by decide, by decide⟩
  | array js =>
    cases js with
    | nil => exact ⟨'[', _, rfl, by decide, by decide⟩
    | cons => exact ⟨'[', _, rfl, by decide, by decide⟩
  | object ms =>
    cases ms with
    | nil => exact ⟨'\x7b', _, rfl, by decide, by decide⟩
    | cons => exact ⟨'\x7b', _, rfl, by decide, by decide⟩

/-- Nothing is read without counting down, but a text is not empty. -/
theorem readsBack_of_succ
    (h : ∀ (spread : Spread) (level fuel : Nat) (rest : List Char),
      2 * (j.chars spread level).length ≤ fuel + 1 → EndsNumber rest →
        value (fuel + 1) (j.chars spread level ++ rest) = (j.form, .ok rest)) : ReadsBack j := by
  intro spread level fuel rest hfuel hrest
  cases fuel with
  | zero =>
    obtain ⟨c, cs, hcs, -⟩ := j.exists_chars_eq_cons spread level
    simp [hcs] at hfuel
  | succ fuel => exact h spread level fuel rest hfuel hrest

theorem endsNumber_cons (hc : c ∈ [',', ']', '\x7d', '\n']) (cs : List Char) :
    EndsNumber (c :: cs) := by
  rintro d ⟨⟩
  simp only [List.mem_cons, List.not_mem_nil, or_false] at hc
  rcases hc with rfl | rfl | rfl | rfl <;> decide

theorem endsNumber_lineBreak (hcs : EndsNumber cs) (spread : Spread) (level : Nat) :
    EndsNumber (spread.lineBreak level ++ cs) := by
  cases spread with
  | compact => exact hcs
  | pretty => exact endsNumber_cons (by decide) _

theorem endsNumber_itemChars (hcs : EndsNumber cs) (spread : Spread) (level : Nat)
    (js : List Json) : EndsNumber (itemChars spread level js ++ cs) := by
  cases js with
  | nil => exact hcs
  | cons => exact endsNumber_cons (by decide) _

theorem endsNumber_memberChars (hcs : EndsNumber cs) (spread : Spread) (level : Nat)
    (ms : List (String × Json)) : EndsNumber (memberChars spread level ms ++ cs) := by
  cases ms with
  | nil => exact hcs
  | cons m ms =>
    obtain ⟨name, j⟩ := m
    exact endsNumber_cons (by decide) _

/-- The items of an array are read from their text, up to the bracket. -/
theorem items_itemChars (hitem : ReadsBack item) (hjs : ∀ j ∈ js, ReadsBack j)
    (hfuel : 2 * ((item.chars spread level).length + (itemChars spread level js).length) < fuel)
    (hclose : skipSpace rest = ']' :: after) (hrest : EndsNumber rest) :
    items fuel before (item.chars spread level ++ (itemChars spread level js ++ rest)) =
      (.array (before.reverse ++ itemForms (item :: js)) none, .ok after) := by
  induction js generalizing item fuel before with
  | nil =>
    obtain ⟨fuel, rfl⟩ := Nat.exists_eq_succ_of_ne_zero (Nat.ne_zero_of_lt hfuel)
    have hvalue := hitem spread level fuel (itemChars spread level [] ++ rest) (by omega)
      (endsNumber_itemChars hrest spread level [])
    rw [items_close hvalue hclose]
    simp [itemForms]
  | cons next js ih =>
    obtain ⟨fuel, rfl⟩ := Nat.exists_eq_succ_of_ne_zero (Nat.ne_zero_of_lt hfuel)
    obtain ⟨hnext, hjs⟩ := List.forall_mem_cons.mp hjs
    have hvalue := hitem spread level fuel (itemChars spread level (next :: js) ++ rest) (by omega)
      (endsNumber_itemChars hrest spread level _)
    have hcomma : itemChars spread level (next :: js) ++ rest = ',' :: (spread.lineBreak level ++
        (next.chars spread level ++ (itemChars spread level js ++ rest))) := by
      simp [itemChars]
    rw [items_comma hvalue (by rw [hcomma]; exact skipSpace_cons (by decide) _),
      items_congr _ _ (skipSpace_lineBreak spread level _), ih hnext hjs]
    · simp [itemForms]
    · simp only [itemChars, List.length_append, List.length_cons] at hfuel
      omega

/-- The members of an object are read from their text, up to the bracket. -/
theorem members_memberChars (hj : ReadsBack j) (hms : ∀ m ∈ ms, ReadsBack m.2)
    (hfuel : 2 * ((j.chars spread level).length + (memberChars spread level ms).length) < fuel)
    (hclose : skipSpace rest = '\x7d' :: after) (hrest : EndsNumber rest) :
    members fuel named (stringChars name ++ (spread.colon ++ (j.chars spread level ++
        (memberChars spread level ms ++ rest)))) =
      (.object (named.reverse ++ memberForms ((name, j) :: ms)) none, .ok after) := by
  induction ms generalizing name j fuel named with
  | nil =>
    obtain ⟨fuel, rfl⟩ := Nat.exists_eq_succ_of_ne_zero (Nat.ne_zero_of_lt hfuel)
    have hvalue := hj spread level fuel (memberChars spread level [] ++ rest) (by omega)
      (endsNumber_memberChars hrest spread level [])
    obtain ⟨cs, hcolon, hcs⟩ := exists_colon_append_eq spread
      (j.chars spread level ++ (memberChars spread level [] ++ rest))
    rw [hcolon, members_close (skipSpace_stringChars name _)
      ((value_congr fuel hcs).trans hvalue) hclose]
    simp [memberForms]
  | cons next ms ih =>
    obtain ⟨nextName, next⟩ := next
    obtain ⟨fuel, rfl⟩ := Nat.exists_eq_succ_of_ne_zero (Nat.ne_zero_of_lt hfuel)
    obtain ⟨hnext, hms⟩ : ReadsBack next ∧ ∀ m ∈ ms, ReadsBack m.2 := List.forall_mem_cons.mp hms
    have hvalue := hj spread level fuel (memberChars spread level ((nextName, next) :: ms) ++ rest)
      (by omega) (endsNumber_memberChars hrest spread level _)
    obtain ⟨cs, hcolon, hcs⟩ := exists_colon_append_eq spread
      (j.chars spread level ++ (memberChars spread level ((nextName, next) :: ms) ++ rest))
    have hcomma : memberChars spread level ((nextName, next) :: ms) ++ rest =
        ',' :: (spread.lineBreak level ++ (stringChars nextName ++ (spread.colon ++
          (next.chars spread level ++ (memberChars spread level ms ++ rest))))) := by
      simp [memberChars]
    rw [hcolon, members_comma (skipSpace_stringChars name _) ((value_congr fuel hcs).trans hvalue)
        (by rw [hcomma]; exact skipSpace_cons (by decide) _),
      members_congr _ _ (skipSpace_lineBreak spread level _), ih hnext hms]
    · simp [memberForms]
    · simp only [memberChars, List.length_append, List.length_cons] at hfuel
      omega

theorem readsBack_array (ih : ∀ j ∈ js, ReadsBack j) : ReadsBack (.array js) := by
  refine readsBack_of_succ fun spread level fuel rest hfuel _ => ?_
  cases js with
  | nil => rfl
  | cons item js =>
    obtain ⟨hitem, ih⟩ := List.forall_mem_cons.mp ih
    obtain ⟨c, cs, hcs, hspace, hc⟩ := item.exists_chars_eq_cons spread (level + 1)
    have hchars : (Json.array (item :: js)).chars spread level ++ rest =
        '[' :: (spread.lineBreak (level + 1) ++ (item.chars spread (level + 1) ++
          (itemChars spread (level + 1) js ++ (spread.lineBreak level ++ ']' :: rest)))) := by
      simp [chars]
    have hlength : 2 * ((item.chars spread (level + 1)).length +
        (itemChars spread (level + 1) js).length) < fuel := by
      simp only [chars, List.length_append, List.length_cons] at hfuel
      omega
    have hfirst : ∀ after, skipSpace (spread.lineBreak (level + 1) ++
        (item.chars spread (level + 1) ++ after)) = c :: (cs ++ after) := by
      intro after
      rw [skipSpace_lineBreak, hcs]
      exact skipSpace_cons hspace _
    rw [hchars, value_array fuel (hfirst _) hspace hc,
      items_congr fuel [] (skipSpace_lineBreak _ _ _),
      items_itemChars hitem ih hlength (skipSpace_lineBreak _ _ _)
        (endsNumber_lineBreak (endsNumber_cons (by decide) _) _ _)]
    rfl

theorem readsBack_object (ih : ∀ m ∈ ms, ReadsBack m.2) : ReadsBack (.object ms) := by
  refine readsBack_of_succ fun spread level fuel rest hfuel _ => ?_
  cases ms with
  | nil => rfl
  | cons m ms =>
    obtain ⟨name, j⟩ := m
    obtain ⟨hj, ih⟩ : ReadsBack j ∧ ∀ m ∈ ms, ReadsBack m.2 := List.forall_mem_cons.mp ih
    have hchars : (Json.object ((name, j) :: ms)).chars spread level ++ rest =
        '\x7b' :: (spread.lineBreak (level + 1) ++ (stringChars name ++ (spread.colon ++
          (j.chars spread (level + 1) ++ (memberChars spread (level + 1) ms ++
            (spread.lineBreak level ++ '\x7d' :: rest)))))) := by
      simp [chars]
    have hlength : 2 * ((j.chars spread (level + 1)).length +
        (memberChars spread (level + 1) ms).length) < fuel := by
      simp only [chars, List.length_append, List.length_cons] at hfuel
      omega
    rw [hchars,
      value_object fuel ((skipSpace_lineBreak _ _ _).trans (skipSpace_stringChars name _)),
      members_congr fuel [] (skipSpace_lineBreak _ _ _),
      members_memberChars hj ih hlength (skipSpace_lineBreak _ _ _)
        (endsNumber_lineBreak (endsNumber_cons (by decide) _) _ _)]
    rfl

mutual

/-- **The text of a value is read as the form of the value.** -/
theorem readsBack (j : Json) : ReadsBack j := by
  cases j with
  | null => exact readsBack_of_succ fun _ _ _ _ _ _ => rfl
  | bool b => cases b <;> exact readsBack_of_succ fun _ _ _ _ _ _ => rfl
  | integer n => exact readsBack_of_succ fun _ _ fuel _ _ hrest => value_toString fuel n hrest
  | single x => exact readsBack_of_succ fun _ _ fuel _ _ hrest => value_numberText fuel rfl x hrest
  | double x => exact readsBack_of_succ fun _ _ fuel _ _ hrest => value_numberText fuel rfl x hrest
  | string s => exact readsBack_of_succ fun _ _ fuel rest _ _ => value_stringChars fuel s rest
  | array js => exact readsBack_array (readsBack_items js)
  | object ms => exact readsBack_object (readsBack_members ms)

theorem readsBack_items (js : List Json) : ∀ j ∈ js, ReadsBack j := by
  cases js with
  | nil => exact fun _ hj => absurd hj List.not_mem_nil
  | cons j js => exact List.forall_mem_cons.mpr ⟨readsBack j, readsBack_items js⟩

theorem readsBack_members (ms : List (String × Json)) : ∀ m ∈ ms, ReadsBack m.2 := by
  cases ms with
  | nil => exact fun _ hm => absurd hm List.not_mem_nil
  | cons m ms =>
    obtain ⟨name, j⟩ := m
    exact List.forall_mem_cons.mpr ⟨readsBack j, readsBack_members ms⟩

end

/-- The text of a value says this value. -/
theorem reading_render (j : Json) (spread : Spread) :
    Reading.ofText (j.render spread) = (j.form, .ok []) := by
  have hread := j.readsBack spread 0 (2 * (j.chars spread 0).length + 1) [] (by omega)
    fun c hc => nomatch hc
  rw [List.append_nil] at hread
  simp only [Reading.ofText, render, String.toList_ofList]
  exact hread

end RulePyramid.Json
