import RulePyramid.Text.Pattern

/-!
What a search for a pattern finds. A pattern fits a text in front of a rest in the ways that its
pieces allow (`Pattern.Fits`). The search takes one of these ways (`Pattern.exists_fits_of_fit`) and
misses none (`Pattern.Fits.isSome_fit`); so where only one length fits, that one is found
(`Pattern.fit_eq_of_unique`), in whatever order the ways are tried.
-/

namespace RulePyramid.Text.Pattern

/-- A pattern fits the characters found, between the one before them and the rest after them. -/
inductive Fits : Pattern → Option Char → List Char → List Char → Prop
  | nil {before : Option Char} {rest : List Char} : Fits [] before [] rest
  | one {isIn : Char → Bool} {p : Pattern} {before : Option Char} {c : Char}
      {found rest : List Char} : isIn c → Fits p (some c) found rest →
    Fits (.one isIn :: p) before (c :: found) rest
  | stop {isIn : Char → Bool} {p : Pattern} {before : Option Char} {found rest : List Char} :
    Fits p before found rest → Fits (.many isIn :: p) before found rest
  | more {isIn : Char → Bool} {p : Pattern} {before : Option Char} {c : Char}
      {found rest : List Char} : isIn c → Fits (.many isIn :: p) (some c) found rest →
    Fits (.many isIn :: p) before (c :: found) rest
  | wordBorder {p : Pattern} {before : Option Char} {found rest : List Char} :
    isWordBorder before (found ++ rest).head? → Fits p before found rest →
    Fits (.wordBorder :: p) before found rest

variable {p : Pattern} {isIn : Char → Bool} {before : Option Char} {c : Char}
  {cs found rest : List Char} {n : Nat}

/-! ## The way that is taken -/

theorem exists_fits_of_fitMany
    (hp : ∀ {before cs n}, p.fit before cs = some n →
      ∃ found rest, cs = found ++ rest ∧ found.length = n ∧ Fits p before found rest)
    (h : fitMany isIn p.fit before cs = some n) :
    ∃ found rest, cs = found ++ rest ∧ found.length = n ∧
      Fits (.many isIn :: p) before found rest := by
  have hstop : ∀ {before cs n}, p.fit before cs = some n →
      ∃ found rest, cs = found ++ rest ∧ found.length = n ∧
        Fits (.many isIn :: p) before found rest := fun hfit => by
    obtain ⟨found, rest, hcs, hlength, hfits⟩ := hp hfit
    exact ⟨found, rest, hcs, hlength, .stop hfits⟩
  induction cs generalizing before n with
  | nil => exact hstop h
  | cons c cs ih =>
    rw [fitMany] at h
    split at h
    · next hc =>
      rcases Option.or_eq_some_iff.mp h with hmore | ⟨-, hnone⟩
      · obtain ⟨k, hk, rfl⟩ := Option.map_eq_some_iff.mp hmore
        obtain ⟨found, rest, rfl, rfl, hfits⟩ := ih hk
        exact ⟨c :: found, rest, rfl, rfl, .more hc hfits⟩
      · exact hstop hnone
    · exact hstop h

/-- What is found is in front of the text, and the pattern fits it. -/
theorem exists_fits_of_fit (h : p.fit before cs = some n) :
    ∃ found rest, cs = found ++ rest ∧ found.length = n ∧ Fits p before found rest := by
  induction p generalizing before cs n with
  | nil =>
    cases h
    exact ⟨[], cs, rfl, rfl, .nil⟩
  | cons piece p ih =>
    cases piece with
    | one isIn =>
      cases cs with
      | nil => cases h
      | cons c cs =>
        rw [fit] at h
        split at h
        · next hc =>
          obtain ⟨k, hk, rfl⟩ := Option.map_eq_some_iff.mp h
          obtain ⟨found, rest, rfl, rfl, hfits⟩ := ih hk
          exact ⟨c :: found, rest, rfl, rfl, .one hc hfits⟩
        · cases h
    | many isIn => exact exists_fits_of_fitMany ih h
    | wordBorder =>
      rw [fit] at h
      split at h
      · next hborder =>
        obtain ⟨found, rest, rfl, rfl, hfits⟩ := ih h
        exact ⟨found, rest, rfl, rfl, .wordBorder hborder hfits⟩
      · cases h

/-! ## All ways are tried -/

theorem isSome_fitMany_of_stop (h : (p.fit before cs).isSome) :
    (fitMany isIn p.fit before cs).isSome := by
  cases cs with
  | nil => exact h
  | cons c cs =>
    rw [fitMany]
    split
    · rw [Option.isSome_or, h, Bool.or_true]
    · exact h

theorem Fits.isSome_fit (h : Fits p before found rest) :
    (p.fit before (found ++ rest)).isSome := by
  induction h with
  | nil => rfl
  | one hc _ ih =>
    rw [List.cons_append, fit, if_pos hc, Option.isSome_map]
    exact ih
  | stop _ ih => exact isSome_fitMany_of_stop ih
  | more hc _ ih =>
    rw [List.cons_append, fit, fitMany, if_pos hc, Option.isSome_or, Option.isSome_map]
    exact Bool.or_eq_true_iff.mpr (.inl ih)
  | wordBorder hborder _ ih =>
    rw [fit, if_pos hborder]
    exact ih

theorem fit_eq_none (h : ∀ found rest, cs = found ++ rest → ¬Fits p before found rest) :
    p.fit before cs = none := by
  refine Option.eq_none_iff_forall_ne_some.mpr fun n hn => ?_
  obtain ⟨found, rest, hcs, -, hfits⟩ := exists_fits_of_fit hn
  exact h found rest hcs hfits

/-- Where the pattern fits in one length only, this one is found. -/
theorem fit_eq_of_unique (h : Fits p before found rest)
    (hunique : ∀ found' rest', found ++ rest = found' ++ rest' → Fits p before found' rest' →
      found'.length = found.length) : p.fit before (found ++ rest) = some found.length := by
  obtain ⟨n, hn⟩ := Option.isSome_iff_exists.mp h.isSome_fit
  obtain ⟨found', rest', heq, rfl, hfits⟩ := exists_fits_of_fit hn
  rw [hn, hunique found' rest' heq hfits]

/-! ## Rows of pieces -/

theorem fits_nil_iff : Fits [] before found rest ↔ found = [] := by
  constructor
  · rintro ⟨⟩
    rfl
  · rintro rfl
    exact .nil

theorem fits_one_iff :
    Fits (.one isIn :: p) before found rest ↔
      ∃ c found', found = c :: found' ∧ isIn c ∧ Fits p (some c) found' rest := by
  constructor
  · rintro (_ | ⟨hc, hfits⟩)
    exact ⟨_, _, rfl, hc, hfits⟩
  · rintro ⟨c, found', rfl, hc, hfits⟩
    exact .one hc hfits

/-- The character in front of what comes after a run. -/
theorem getLast?_cons_or (c : Char) (run : List Char) (before : Option Char) :
    (c :: run).getLast?.or before = run.getLast?.or (some c) := by
  rw [List.getLast?_cons]
  cases run.getLast? <;> rfl

/-- A repetition takes a run of characters of its class, which may be empty. -/
theorem fits_many_iff :
    Fits (.many isIn :: p) before found rest ↔
      ∃ run found', found = run ++ found' ∧ (∀ c ∈ run, isIn c) ∧
        Fits p (run.getLast?.or before) found' rest := by
  constructor
  · intro h
    generalize hq : (.many isIn :: p : Pattern) = q at h
    induction h with
    | stop h =>
      cases hq
      exact ⟨[], _, rfl, List.forall_mem_nil _, h⟩
    | more hc _ ih =>
      cases hq
      obtain ⟨run, found', rfl, hrun, hfits⟩ := ih rfl
      refine ⟨_ :: run, found', rfl, List.forall_mem_cons.mpr ⟨hc, hrun⟩, ?_⟩
      rw [getLast?_cons_or]
      exact hfits
    | _ => cases hq
  · rintro ⟨run, found', rfl, hrun, hfits⟩
    induction run generalizing before with
    | nil => exact .stop hfits
    | cons c run ih =>
      obtain ⟨hc, hrun⟩ := List.forall_mem_cons.mp hrun
      rw [getLast?_cons_or] at hfits
      exact .more hc (ih hrun hfits)

theorem fits_wordBorder_iff :
    Fits (.wordBorder :: p) before found rest ↔
      isWordBorder before (found ++ rest).head? ∧ Fits p before found rest := by
  constructor
  · rintro (_ | _ | _ | _ | ⟨hborder, hfits⟩)
    exact ⟨hborder, hfits⟩
  · exact fun ⟨hborder, hfits⟩ => .wordBorder hborder hfits

/-! ## Cutting a text -/

theorem split_append (hne : found ≠ []) (h : p.fit before (found ++ rest) = some found.length) :
    p.split before (found ++ rest) = .inr found :: p.split found.getLast? rest := by
  obtain ⟨c, found, rfl⟩ := List.exists_cons_of_ne_nil hne
  rw [List.cons_append, split, ← List.cons_append, h]
  simp

theorem split_cons_of_none (h : p.fit before (c :: cs) = none) :
    p.split before (c :: cs) = .inl c :: p.split (some c) cs := by
  rw [split, h]

end RulePyramid.Text.Pattern
