import RulePyramid.Proofs.Store.Files

/-!
What does not depend on a single file. A path that leads elsewhere leads there whatever is in the
file, and also where the file is missing: nobody comes past it either way (`DifferIn.follow`). So
all other files are read as before (`DifferIn.readText`), and a text can be written where it could
be before (`DifferIn.writeText`).
-/

namespace RulePyramid.Files

/-- Two trees of files that differ at one place at most, where there is a file or nothing. -/
structure DifferIn (place : List String) (fs fs' : Files) : Prop where
  at?_eq : ∀ p, p ≠ place → fs.at? p = fs'.at? p
  not_directory : fs.at? place ≠ some .directory
  not_directory' : fs'.at? place ≠ some .directory

variable {fs fs' fs₁ : Files} {place start target : List String} {names : List String}
  {path text : String}

theorem differIn_set (content content' : ByteArray) (hplace : place ≠ []) (fs : Files) :
    DifferIn place (fs.set place (.file content)) (fs.set place (.file content')) where
  at?_eq _ hne := (at?_set_of_ne hne).trans (at?_set_of_ne hne).symm
  not_directory := by rw [at?_set_self hplace]; nofun
  not_directory' := by rw [at?_set_self hplace]; nofun

theorem differIn_set_of_none (content : ByteArray) (hplace : place ≠ [])
    (hnone : fs.at? place = none) : fs.DifferIn place (fs.set place (.file content)) where
  at?_eq _ hne := (at?_set_of_ne hne).symm
  not_directory := by rw [hnone]; nofun
  not_directory' := by rw [at?_set_self hplace]; nofun

theorem writeText_eq_ok_iff : fs.writeText path text = .ok fs₁ ↔
    ∃ target, fs.locate path = .ok target ∧ fs.at? target ≠ some .directory ∧
      fs₁ = fs.set target (.file text.toUTF8) := by
  constructor
  · exact exists_of_write
  · rintro ⟨target, hlocate, htarget, rfl⟩
    exact write_of_locate hlocate htarget

namespace DifferIn

theorem symm (H : DifferIn place fs fs') : DifferIn place fs' fs :=
  ⟨fun p hp => (H.at?_eq p hp).symm, H.not_directory', H.not_directory⟩

theorem directory (H : DifferIn place fs fs') (hat : fs.at? target = some .directory) :
    fs'.at? target = some .directory := by
  have hne : target ≠ place := fun heq => H.not_directory (heq ▸ hat)
  exact (H.at?_eq target hne).symm.trans hat

/-- Names lead where they led before. -/
theorem follow (H : DifferIn place fs fs') (hfollow : fs.follow start names = .ok target) :
    fs'.follow start names = .ok target := by
  induction names generalizing start with
  | nil => exact hfollow
  | cons name names ih =>
    have hat := at?_of_follow_cons hfollow
    rw [follow_cons hat] at hfollow
    rw [follow_cons (H.directory hat)]
    cases henter : enter start name with
    | error cause => rw [henter] at hfollow; cases hfollow
    | ok next =>
      rw [henter] at hfollow
      exact ih hfollow

theorem locate (H : DifferIn place fs fs') (hlocate : fs.locate path = .ok target) :
    fs'.locate path = .ok target := by
  unfold Files.locate at hlocate ⊢
  cases hcheck : checkPath path with
  | error cause => rw [hcheck] at hlocate; cases hlocate
  | ok =>
    rw [hcheck] at hlocate
    exact H.follow hlocate

/-- Another file is read as before. -/
theorem readText (H : DifferIn place fs fs') (hpath : fs.locate path ≠ .ok place)
    (hread : fs.readText path = .ok text) : fs'.readText path = .ok text := by
  cases hlocate : fs.locate path with
  | error cause => simp only [Files.readText, read, hlocate] at hread; cases hread
  | ok target =>
    have hne : target ≠ place := fun heq => hpath (heq ▸ hlocate)
    rw [← hread]
    simp only [Files.readText, read, hlocate, H.locate hlocate, bind, Except.bind,
      H.at?_eq target hne]

/-- A text can be written where it could be written before. -/
theorem writeText (H : DifferIn place fs fs') (hwrite : fs.writeText path text = .ok fs₁)
    (text' : String) : ∃ fs₁', fs'.writeText path text' = .ok fs₁' := by
  obtain ⟨target, hlocate, htarget, -⟩ := writeText_eq_ok_iff.mp hwrite
  exact ⟨_, writeText_eq_ok_iff.mpr
    ⟨target, H.locate hlocate, fun hat => htarget (H.symm.directory hat), rfl⟩⟩

end DifferIn

end RulePyramid.Files
