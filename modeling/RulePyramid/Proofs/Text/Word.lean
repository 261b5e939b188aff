import Mathlib.Data.List.TakeWhile
import RulePyramid.Text.Word

/-!
The words of a text. A word stands where a run of word characters has none on either side
(`WordAt`); the words of a text are just these runs (`mem_placedWords`), from left to right
(`pairwise_placedWords`).
-/

namespace RulePyramid.Text

variable {cs v w front back rest u : List Char} {c : Char} {i j k : Nat}

/-- A run of word characters between two texts that do not go on with it. -/
structure IsWord (front w back : List Char) : Prop where
  ne_nil : w ≠ []
  all : ∀ c ∈ w, isWordChar c
  front : ∀ c ∈ front.getLast?, ¬isWordChar c
  back : ∀ c ∈ back.head?, ¬isWordChar c

/-- At position `i` of a text stands a word. -/
def WordAt (cs : List Char) (i : Nat) (w : List Char) : Prop :=
  ∃ front back, cs = front ++ (w ++ back) ∧ front.length = i ∧ IsWord front w back

/-! ## Plain letters and digits -/

theorem range_of_isUpper (hc : c.isUpper) : 0x41 ≤ c.toNat ∧ c.toNat ≤ 0x5A := by
  have hrange : c.val ≥ 'A'.val ∧ c.val ≤ 'Z'.val := of_decide_eq_true hc
  exact ⟨UInt32.le_iff_toNat_le.mp hrange.1, UInt32.le_iff_toNat_le.mp hrange.2⟩

theorem range_of_isLower (hc : c.isLower) : 0x61 ≤ c.toNat ∧ c.toNat ≤ 0x7A := by
  have hrange : c.val ≥ 'a'.val ∧ c.val ≤ 'z'.val := by
    simpa only [Bool.and_eq_true, decide_eq_true_eq] using
      (show (decide (c.val ≥ 'a'.val) && decide (c.val ≤ 'z'.val)) = true from hc)
  exact ⟨UInt32.le_iff_toNat_le.mp hrange.1, UInt32.le_iff_toNat_le.mp hrange.2⟩

theorem range_of_isDigit (hc : c.isDigit) : 0x30 ≤ c.toNat ∧ c.toNat ≤ 0x39 := by
  have hrange : c.val ≥ '0'.val ∧ c.val ≤ '9'.val := by
    simpa only [Bool.and_eq_true, decide_eq_true_eq] using
      (show (decide (c.val ≥ '0'.val) && decide (c.val ≤ '9'.val)) = true from hc)
  exact ⟨UInt32.le_iff_toNat_le.mp hrange.1, UInt32.le_iff_toNat_le.mp hrange.2⟩

/-! ## Runs -/

section
variable {p : Char → Bool}

/-- A run that the rest does not go on with is all that is taken. -/
theorem takeWhile_run (hw : ∀ c ∈ w, p c) (hback : ∀ c ∈ back.head?, ¬p c) :
    (w ++ back).takeWhile p = w := by
  have hstop : back.takeWhile p = [] := by
    cases back with
    | nil => rfl
    | cons c back => exact List.takeWhile_cons_of_neg (hback c rfl)
  rw [List.takeWhile_append_of_pos hw, hstop, List.append_nil]

theorem dropWhile_run (hw : ∀ c ∈ w, p c) (hback : ∀ c ∈ back.head?, ¬p c) :
    (w ++ back).dropWhile p = back := by
  have hall := List.takeWhile_append_dropWhile (p := p) (l := w ++ back)
  rw [takeWhile_run hw hback] at hall
  exact List.append_cancel_left hall

end

theorem not_isWordChar_of_mem_head?_dropWhile (hc : c ∈ (cs.dropWhile isWordChar).head?) :
    ¬isWordChar c := by
  have hnot := List.head?_dropWhile_not isWordChar cs
  rw [Option.mem_def.mp hc] at hnot
  exact Bool.eq_false_iff.mp hnot

namespace IsWord

/-- What is further in front does not matter if there is something in between. -/
theorem append_front (H : IsWord front w back)
    (hu : front = [] → ∀ c ∈ u.getLast?, ¬isWordChar c) : IsWord (u ++ front) w back where
  ne_nil := H.ne_nil
  all := H.all
  front c hc := by
    rw [List.getLast?_append, Option.mem_def, Option.or_eq_some_iff] at hc
    rcases hc with hc | ⟨hnone, hc⟩
    · exact H.front c hc
    · exact hu (List.getLast?_eq_none_iff.mp hnone) c hc
  back := H.back

theorem of_append_front (H : IsWord (u ++ front) w back) : IsWord front w back where
  ne_nil := H.ne_nil
  all := H.all
  front c hc := H.front c (by rw [List.getLast?_append, Option.mem_def.mp hc]; rfl)
  back := H.back

/-- What begins with a word begins with a word character. -/
theorem exists_head? (H : IsWord front w back) : ∃ c ∈ (w ++ back).head?, isWordChar c := by
  obtain ⟨c, w, rfl⟩ := List.exists_cons_of_ne_nil H.ne_nil
  exact ⟨c, rfl, H.all c List.mem_cons_self⟩

end IsWord

/-! ## Places of words -/

theorem not_wordAt_nil : ¬WordAt [] i w := by
  rintro ⟨front, back, hcs, -, H⟩
  rw [List.nil_eq, List.append_eq_nil_iff, List.append_eq_nil_iff] at hcs
  exact H.ne_nil hcs.2.1

theorem wordAt_cons_of_not (hc : ¬isWordChar c) :
    WordAt (c :: cs) k w ↔ ∃ j, k = j + 1 ∧ WordAt cs j w := by
  constructor
  · rintro ⟨front, back, hcs, rfl, H⟩
    cases front with
    | nil =>
      obtain ⟨d, hd, hword⟩ := H.exists_head?
      rw [← List.nil_append (w ++ back), ← hcs] at hd
      exact (hc (Option.some.inj hd ▸ hword)).elim
    | cons d front =>
      obtain ⟨rfl, rfl⟩ := List.cons.inj hcs
      exact ⟨front.length, List.length_cons, front, back, rfl, rfl,
        IsWord.of_append_front (u := [c]) H⟩
  · rintro ⟨j, rfl, front, back, rfl, rfl, H⟩
    refine ⟨c :: front, back, rfl, rfl, IsWord.append_front (u := [c]) H fun _ d hd => ?_⟩
    exact Option.some.inj hd ▸ hc

/-- In a text that begins with a word there are this word and the words after it. -/
theorem wordAt_append (H : IsWord [] w rest) :
    WordAt (w ++ rest) k v ↔ k = 0 ∧ v = w ∨ ∃ j, k = w.length + j ∧ WordAt rest j v := by
  constructor
  · rintro ⟨front, back, hcs, rfl, H'⟩
    rcases List.append_eq_append_iff.mp hcs with ⟨us, rfl, rfl⟩ | ⟨us, rfl, heq⟩
    · exact .inr ⟨us.length, List.length_append, us, back, rfl, rfl, H'.of_append_front⟩
    · refine .inl ?_
      cases hlast : front.getLast? with
      | none =>
        obtain rfl := List.getLast?_eq_none_iff.mp hlast
        have hrun := takeWhile_run H'.all H'.back
        rw [heq, ← List.nil_append us, takeWhile_run H.all H.back] at hrun
        exact ⟨rfl, hrun.symm⟩
      | some c =>
        have hc : c ∈ front ++ us := List.mem_append_left us (List.mem_of_getLast? hlast)
        exact (H'.front c hlast (H.all c hc)).elim
  · rintro (⟨rfl, rfl⟩ | ⟨j, rfl, front, back, rfl, rfl, H'⟩)
    · exact ⟨[], rest, rfl, rfl, H⟩
    · refine ⟨w ++ front, back, List.append_assoc .. |>.symm, List.length_append,
        H'.append_front ?_⟩
      rintro rfl
      obtain ⟨c, hc, hword⟩ := H'.exists_head?
      exact (H.back c hc hword).elim

/-! ## All words -/

/-- The words of a text, each with its position counted from `i` on. -/
def placedWords (i : Nat) : List Char → List (Nat × List Char)
  | [] => []
  | c :: cs =>
    if isWordChar c then
      (i, c :: cs.takeWhile isWordChar) ::
        placedWords (i + (c :: cs.takeWhile isWordChar).length) (cs.dropWhile isWordChar)
    else placedWords (i + 1) cs
termination_by cs => cs.length
decreasing_by
  · simpa [Nat.lt_succ_iff] using (List.dropWhile_sublist isWordChar).length_le
  · simp

theorem map_snd_placedWords (i : Nat) (cs : List Char) :
    (placedWords i cs).map (·.2) = words cs := by
  induction i, cs using placedWords.induct with
  | case1 i => rw [placedWords, words, List.map_nil]
  | case2 i c cs hc ih => rw [placedWords, words, if_pos hc, if_pos hc, List.map_cons, ih]
  | case3 i c cs hc ih => rw [placedWords, words, if_neg hc, if_neg hc, ih]

theorem isWord_takeWhile (hc : isWordChar c) (cs : List Char) :
    IsWord [] (c :: cs.takeWhile isWordChar) (cs.dropWhile isWordChar) where
  ne_nil := List.cons_ne_nil _ _
  all := List.forall_mem_cons.mpr ⟨hc, fun _ => List.mem_takeWhile_imp⟩
  front _ h := nomatch h
  back _ := not_isWordChar_of_mem_head?_dropWhile

/-- The words of a text are its runs of word characters. -/
theorem mem_placedWords : (k, w) ∈ placedWords i cs ↔ ∃ j, k = i + j ∧ WordAt cs j w := by
  induction i, cs using placedWords.induct with
  | case1 i =>
    rw [placedWords]
    refine iff_of_false List.not_mem_nil ?_
    rintro ⟨j, -, H⟩
    exact not_wordAt_nil H
  | case2 i c cs hc ih =>
    have hsplit : c :: cs = c :: cs.takeWhile isWordChar ++ cs.dropWhile isWordChar := by
      rw [List.cons_append, List.takeWhile_append_dropWhile]
    rw [placedWords, if_pos hc, List.mem_cons, ih, Prod.mk.injEq]
    conv => rhs; rw [hsplit]
    simp only [wordAt_append (isWord_takeWhile hc cs)]
    constructor
    · rintro (⟨rfl, rfl⟩ | ⟨j, rfl, H⟩)
      · exact ⟨0, rfl, .inl ⟨rfl, rfl⟩⟩
      · exact ⟨_, Nat.add_assoc .., .inr ⟨j, rfl, H⟩⟩
    · rintro ⟨_, rfl, ⟨rfl, rfl⟩ | ⟨j, rfl, H⟩⟩
      · exact .inl ⟨rfl, rfl⟩
      · exact .inr ⟨j, (Nat.add_assoc ..).symm, H⟩
  | case3 i c cs hc ih =>
    rw [placedWords, if_neg hc, ih]
    simp only [wordAt_cons_of_not hc]
    constructor
    · rintro ⟨j, rfl, H⟩
      exact ⟨j + 1, by omega, j, rfl, H⟩
    · rintro ⟨_, rfl, j, rfl, H⟩
      exact ⟨j, by omega, H⟩

theorem pairwise_placedWords (i : Nat) (cs : List Char) :
    (placedWords i cs).Pairwise fun a b => a.1 < b.1 := by
  induction i, cs using placedWords.induct with
  | case1 i =>
    rw [placedWords]
    exact .nil
  | case2 i c cs hc ih =>
    rw [placedWords, if_pos hc]
    refine List.pairwise_cons.mpr ⟨?_, ih⟩
    rintro ⟨k, w⟩ hmem
    obtain ⟨j, rfl, -⟩ := mem_placedWords.mp hmem
    simp only [List.length_cons]
    omega
  | case3 i c cs hc ih =>
    rw [placedWords, if_neg hc]
    exact ih

/-! ## Texts with one word, and with several -/

theorem words_eq_singleton (hne : w ≠ []) (hw : ∀ c ∈ w, isWordChar c) : words w = [w] := by
  obtain ⟨c, w, rfl⟩ := List.exists_cons_of_ne_nil hne
  obtain ⟨hc, hw⟩ := List.forall_mem_cons.mp hw
  rw [words, if_pos hc, List.takeWhile_eq_self_iff.mpr hw, List.dropWhile_eq_nil_iff.mpr hw, words]

/-- What is no word character parts the words in front of it from those behind it. -/
theorem words_append_cons (hc : ¬isWordChar c) (cs rest : List Char) :
    words (cs ++ c :: rest) = words cs ++ words rest := by
  induction cs using words.induct with
  | case1 =>
    rw [List.nil_append, words.eq_2, if_neg hc, words.eq_1, List.nil_append]
  | case2 d cs hd ih =>
    have hsplit : cs ++ c :: rest =
        cs.takeWhile isWordChar ++ (cs.dropWhile isWordChar ++ c :: rest) := by
      rw [← List.append_assoc, List.takeWhile_append_dropWhile]
    have hrun : ∀ e ∈ cs.takeWhile isWordChar, isWordChar e := fun _ => List.mem_takeWhile_imp
    have hback : ∀ e ∈ (cs.dropWhile isWordChar ++ c :: rest).head?, ¬isWordChar e := by
      intro e he
      cases hdrop : cs.dropWhile isWordChar with
      | nil =>
        rw [hdrop] at he
        exact Option.some.inj he ▸ hc
      | cons f _ =>
        rw [hdrop] at he
        have he' : e ∈ (cs.dropWhile isWordChar).head? := by rwa [hdrop]
        exact not_isWordChar_of_mem_head?_dropWhile he'
    rw [List.cons_append, words, words, if_pos hd, if_pos hd, hsplit, takeWhile_run hrun hback,
      dropWhile_run hrun hback, ih, List.cons_append]
  | case3 d cs hd ih => rw [List.cons_append, words, words, if_neg hd, if_neg hd, ih]

theorem subset_of_mem_words (h : w ∈ words cs) : w ⊆ cs := by
  induction cs using words.induct with
  | case1 =>
    rw [words] at h
    cases h
  | case2 c cs hc ih =>
    rw [words, if_pos hc] at h
    rcases List.mem_cons.mp h with rfl | h
    · exact List.cons_subset_cons _ (List.takeWhile_sublist _).subset
    · exact fun _ hd => List.mem_cons_of_mem _ ((List.dropWhile_sublist _).subset (ih h hd))
  | case3 c cs hc ih =>
    rw [words, if_neg hc] at h
    exact fun _ hd => List.mem_cons_of_mem _ (ih h hd)

end RulePyramid.Text
