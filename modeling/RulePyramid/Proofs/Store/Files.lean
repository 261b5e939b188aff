import RulePyramid.Store.Files

/-!
A file that was written can be read, and written again. Writing at a place makes no difference to
the directories on the way to it, so the same path leads there again (`Files.follow_set`), and what
is found is the text that was written (`Files.readText_writeText`). The directories that were made
for it are there as well (`Files.makeParent_again`).
-/

namespace RulePyramid.Files

variable {fs fs' fs₁ fs₂ : Files} {place target dir : List String} {name path text : String}
  {names : List String} {content : ByteArray} {e : Entry}

/-! ## Places -/

theorem at?_set_of_ne (hne : place ≠ target) : (fs.set target e).at? place = fs.at? place := by
  cases place with
  | nil => rfl
  | cons name names => exact if_neg hne

theorem at?_set_self (hroot : target ≠ []) : (fs.set target e).at? target = some e := by
  cases target with
  | nil => exact (hroot rfl).elim
  | cons name names => exact if_pos rfl

/-- Where a name leads from a directory. -/
def enter (place : List String) (name : String) : Except Error (List String) :=
  if name = "" ∨ name = "." then .ok place
  else if name = ".." then .ok place.dropLast
  else child place name

theorem follow_cons (hat : fs.at? place = some .directory) :
    fs.follow place (name :: names) = (enter place name).bind (fs.follow · names) := by
  simp only [follow, hat, enter]
  split
  · rfl
  split
  · rfl
  · cases child place name <;> rfl

/-- Names are followed through directories only. -/
theorem at?_of_follow_cons (hfollow : fs.follow place (name :: names) = .ok target) :
    fs.at? place = some .directory := by
  rw [follow] at hfollow
  cases hat : fs.at? place with
  | none => rw [hat] at hfollow; cases hfollow
  | some entry =>
    cases entry with
    | file content => rw [hat] at hfollow; cases hfollow
    | directory => rfl

/-- What is put at a place that is no directory stands in nobody's way to it. -/
theorem follow_set (htarget : fs.at? target ≠ some .directory)
    (hfollow : fs.follow place names = .ok target) :
    (fs.set target e).follow place names = .ok target := by
  induction names generalizing place with
  | nil => exact hfollow
  | cons name names ih =>
    have hat := at?_of_follow_cons hfollow
    have hne : place ≠ target := fun heq => htarget (heq ▸ hat)
    rw [follow_cons hat] at hfollow
    rw [follow_cons ((at?_set_of_ne hne).trans hat)]
    cases henter : enter place name with
    | error cause => rw [henter] at hfollow; cases hfollow
    | ok place' =>
      rw [henter] at hfollow
      exact ih hfollow

/-! ## Texts -/

/-- A file is written where its path leads, unless there is a directory. -/
theorem exists_of_write (hwrite : fs.write path content = .ok fs') :
    ∃ target, fs.locate path = .ok target ∧ fs.at? target ≠ some .directory ∧
      fs' = fs.set target (.file content) := by
  cases hlocate : fs.locate path with
  | error cause => rw [write, hlocate] at hwrite; cases hwrite
  | ok target =>
    simp only [write, hlocate, bind, Except.bind] at hwrite
    refine ⟨target, rfl, ?_⟩
    split at hwrite
    · cases hwrite
    · next hdirectory =>
      cases hwrite
      exact ⟨hdirectory, rfl⟩

theorem write_of_locate (hlocate : fs.locate path = .ok target)
    (htarget : fs.at? target ≠ some .directory) :
    fs.write path content = .ok (fs.set target (.file content)) := by
  simp only [write, hlocate, bind, Except.bind]
  rfl

theorem locate_set (htarget : fs.at? target ≠ some .directory)
    (hlocate : fs.locate path = .ok target) : (fs.set target e).locate path = .ok target := by
  unfold locate at hlocate ⊢
  cases hcheck : checkPath path with
  | error cause => rw [hcheck] at hlocate; cases hlocate
  | ok =>
    rw [hcheck] at hlocate
    exact follow_set htarget hlocate

/-- What was written is found where it was. -/
theorem at?_locate_of_write (hwrite : fs.write path content = .ok fs') :
    ∃ target, fs'.locate path = .ok target ∧ fs'.at? target = some (.file content) := by
  obtain ⟨target, hlocate, htarget, rfl⟩ := exists_of_write hwrite
  have hroot : target ≠ [] := fun hnil => htarget (by rw [hnil]; rfl)
  exact ⟨target, locate_set htarget hlocate, at?_set_self hroot⟩

theorem contains_of_writeText (hwrite : fs.writeText path text = .ok fs') : fs'.contains path := by
  obtain ⟨target, hlocate, hat⟩ := at?_locate_of_write hwrite
  simp only [contains, hlocate, hat, Option.isSome_some]

theorem fromUTF8?_toUTF8 (s : String) : String.fromUTF8? s.toUTF8 = some s := by
  rw [String.fromUTF8?, String.toUTF8_eq_toByteArray, dif_pos s.isValidUTF8]
  rfl

/-- A text that was written is read. -/
theorem readText_writeText (hwrite : fs.writeText path text = .ok fs') :
    fs'.readText path = .ok text := by
  obtain ⟨target, hlocate, hat⟩ := at?_locate_of_write hwrite
  have hread : fs'.read path = .ok text.toUTF8 := by
    simp only [read, hlocate, bind, Except.bind, hat]
    rfl
  simp only [readText, hread, bind, Except.bind, fromUTF8?_toUTF8]
  rfl

/-! ## Writing again -/

/-- Making directories leaves those that there are. -/
theorem at?_makeDirectories (hat : fs.at? dir = some .directory) (place names : List String) :
    (fs.makeDirectories place names).2.at? dir = some .directory := by
  induction names generalizing fs place with
  | nil => exact hat
  | cons name names ih =>
    rw [makeDirectories]
    split
    · exact ih hat _
    split
    · exact ih hat _
    cases child place name with
    | error cause => exact hat
    | ok place' =>
      cases hplace : fs.at? place' with
      | none =>
        have hne : dir ≠ place' := fun heq => by
          rw [heq, hplace] at hat
          cases hat
        simp only [hplace]
        exact ih ((at?_set_of_ne hne).trans hat) _
      | some entry =>
        cases entry with
        | file content => simpa only [hplace] using hat
        | directory => simpa only [hplace] using ih hat _

theorem ne_nil_of_child (hchild : child place name = .ok target) : target ≠ [] := by
  rw [child] at hchild
  split at hchild
  · cases hchild
  · cases hchild
    exact List.append_ne_nil_of_right_ne_nil _ (List.cons_ne_nil _ _)

/-- The first name leads to a place from which the others are made. Where the directories are the
same or more, they are made from this place as well, and nothing is made for the first name. -/
theorem exists_of_makeDirectories_cons
    (hmake : fs.makeDirectories place (name :: names) = (.ok (), fs₁)) :
    ∃ target fs', makeDirectories fs' target names = (.ok (), fs₁) ∧
      ∀ fs₂ : Files, (∀ dir, fs'.at? dir = some .directory → fs₂.at? dir = some .directory) →
        fs₂.makeDirectories place (name :: names) = fs₂.makeDirectories target names := by
  rw [makeDirectories] at hmake
  by_cases hstay : name = "" ∨ name = "."
  · rw [if_pos hstay] at hmake
    exact ⟨place, fs, hmake, fun fs₂ _ => by rw [makeDirectories, if_pos hstay]⟩
  by_cases hup : name = ".."
  · rw [if_neg hstay, if_pos hup] at hmake
    exact ⟨_, fs, hmake, fun fs₂ _ => by rw [makeDirectories, if_neg hstay, if_pos hup]⟩
  rw [if_neg hstay, if_neg hup] at hmake
  cases hchild : child place name with
  | error cause => rw [hchild] at hmake; cases hmake
  | ok target =>
    have hthrough : ∀ fs₂ : Files, fs₂.at? target = some .directory →
        fs₂.makeDirectories place (name :: names) = fs₂.makeDirectories target names :=
      fun fs₂ hat => by simp only [makeDirectories, if_neg hstay, if_neg hup, hchild, hat]
    cases hat : fs.at? target with
    | none =>
      simp only [hchild, hat] at hmake
      have hmade : (fs.set target .directory).at? target = some .directory :=
        at?_set_self (ne_nil_of_child hchild)
      exact ⟨target, _, hmake, fun fs₂ hkept => hthrough fs₂ (hkept _ hmade)⟩
    | some entry =>
      cases entry with
      | file content => simp only [hchild, hat] at hmake; cases hmake
      | directory =>
        simp only [hchild, hat] at hmake
        exact ⟨target, fs, hmake, fun fs₂ hkept => hthrough fs₂ (hkept _ hat)⟩

/-- Directories that were made do not have to be made again. -/
theorem makeDirectories_again (hmake : fs.makeDirectories place names = (.ok (), fs₁))
    (hkept : ∀ dir, fs₁.at? dir = some .directory → fs₂.at? dir = some .directory) :
    fs₂.makeDirectories place names = (.ok (), fs₂) := by
  induction names generalizing fs place with
  | nil => rfl
  | cons name names ih =>
    obtain ⟨target, fs', hmake, hthrough⟩ := exists_of_makeDirectories_cons hmake
    rw [hthrough fs₂ fun dir hat => hkept dir ?_]
    · exact ih hmake
    · have hat₁ := at?_makeDirectories hat target names
      rwa [hmake] at hat₁

/-- A path leads to the same directory again, which need not be made again. -/
theorem makeParent_again (hmake : fs.makeParent path = (.ok (), fs₁))
    (hkept : ∀ dir, fs₁.at? dir = some .directory → fs₂.at? dir = some .directory) :
    fs₂.makeParent path = (.ok (), fs₂) := by
  rw [makeParent] at hmake ⊢
  cases hcheck : checkPath ("/".intercalate (parentNames path)) with
  | error cause => simp only [hcheck] at hmake; cases hmake
  | ok =>
    simp only [hcheck] at hmake ⊢
    exact makeDirectories_again hmake hkept

/-- A file can be put at the end of a path when the directories on the way are made. -/
def CanHold (fs : Files) (path : String) : Prop :=
  ∃ fs₁ target, fs.makeParent path = (.ok (), fs₁) ∧ fs₁.locate path = .ok target ∧
    fs₁.at? target ≠ some .directory

/-- Where a file was put another one can be put. -/
theorem canHold_of_writeText (hmake : fs.makeParent path = (.ok (), fs₁))
    (hwrite : fs₁.writeText path text = .ok fs') : fs'.CanHold path := by
  have hkept : ∀ dir, fs₁.at? dir = some .directory → fs'.at? dir = some .directory := by
    intro dir hdir
    obtain ⟨target, -, htarget, rfl⟩ := exists_of_write hwrite
    have hne : dir ≠ target := fun heq => htarget (heq ▸ hdir)
    exact (at?_set_of_ne hne).trans hdir
  obtain ⟨target, hlocate, hat⟩ := at?_locate_of_write hwrite
  exact ⟨fs', target, makeParent_again hmake hkept, hlocate, by rw [hat]; nofun⟩

end RulePyramid.Files
