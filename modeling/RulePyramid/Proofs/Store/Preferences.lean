import RulePyramid.Proofs.Json.Values
import RulePyramid.Proofs.Store.Files
import RulePyramid.Store.Preferences

/-!
What a store was told last is what it gives (`PreferenceStore.Remembers`), in memory and in a file,
whatever the id is and whatever was there before. For a file this means that the text of preferences
reads back (`Preferences.ofText_text`) and that a saved file can be read (`Preferences.load_save`).
-/

namespace RulePyramid

/-! ## Texts -/

namespace Preferences

open Json (Form Reading)

variable (p : Preferences) {fs fs' : Files} {path : String}

/-- The tree of the text that is written. -/
def form : Form :=
  .object [(some "lastRuleset", match p.lastRuleset with
    | some id => .string (some id)
    | none => .null)] none

theorem decode_form : decode p.form = .ok p := by
  cases p with
  | mk last => cases last <;> rfl

theorem ofText_reading : Reading.ofText p.text = (p.form, .ok []) := by
  have hform : p.toJson.form = p.form := by
    cases p with
    | mk last => cases last <;> rfl
  rw [text, Json.reading_render, hform]

/-- Preferences are read as they were written. -/
theorem ofText_text : ofText p.text = .ok p := by
  simp only [ofText, Json.decodeText, ofText_reading]
  rw [decode_form]
  rfl

/-! ## Files -/

variable {p}

theorem save_eq_ok_iff : p.save fs path = (.ok (), fs') ↔
    ∃ fs₁, fs.makeParent path = (.ok (), fs₁) ∧ fs₁.writeText path p.text = .ok fs' := by
  rw [save]
  rcases hmake : fs.makeParent path with ⟨_ | _, fs₁⟩
  · simp
  · cases hwrite : fs₁.writeText path p.text with
    | error cause => simp [hwrite]
    | ok fs₂ => simp [hwrite]

/-- What was saved is there. -/
theorem load_save (hsave : p.save fs path = (.ok (), fs')) : load fs' path = .ok p := by
  obtain ⟨fs₁, -, hwrite⟩ := save_eq_ok_iff.mp hsave
  simp only [load, Files.contains_of_writeText hwrite, Files.readText_writeText hwrite, if_true,
    ofText_text]

/-- Whether preferences can be saved depends neither on them nor on what is in the file. -/
theorem fst_save_eq_ok_iff : (p.save fs path).1 = .ok () ↔ fs.CanHold path := by
  constructor
  · intro hok
    obtain ⟨fs₁, hmake, hwrite⟩ := save_eq_ok_iff.mp (Prod.ext hok rfl)
    obtain ⟨target, hlocate, htarget, -⟩ := Files.exists_of_write hwrite
    exact ⟨fs₁, target, hmake, hlocate, htarget⟩
  · rintro ⟨fs₁, target, hmake, hlocate, htarget⟩
    exact congrArg Prod.fst
      (save_eq_ok_iff.mpr ⟨fs₁, hmake, Files.write_of_locate hlocate htarget⟩)

theorem canHold_of_save (hok : (p.save fs path).1 = .ok ()) :
    (p.save fs path).2.CanHold path := by
  obtain ⟨fs₁, hmake, hwrite⟩ := save_eq_ok_iff.mp (Prod.ext hok rfl)
  exact Files.canHold_of_writeText hmake hwrite

end Preferences

/-! ## Stores -/

namespace PreferenceStore

/-- An id that could be saved is the last one. -/
def Remembers {τ : Type} (store : PreferenceStore τ) : Prop :=
  ∀ id t, (store.save id t).1 = .ok () → store.last (store.save id t).2 = .ok (some id)

theorem remembers_memory : memory.Remembers := fun _ _ _ => rfl

theorem remembers_file (path : String) : (file path).Remembers := by
  intro id fs hok
  simp only [file] at hok ⊢
  generalize ((Preferences.load fs path).toOption).getD {} = p at hok ⊢
  rcases hsave : { p with lastRuleset := some id }.save fs path with ⟨result, fs'⟩
  rw [hsave] at hok ⊢
  cases result with
  | error cause => cases hok
  | ok =>
    simp only [Preferences.load_save hsave]
    rfl

/-- The stores that there are. -/
inductive Standard : {τ : Type} → PreferenceStore τ → Prop where
  | memory : Standard memory
  | file (path : String) : Standard (file path)

theorem Standard.remembers {τ : Type} {store : PreferenceStore τ} (H : store.Standard) :
    store.Remembers := by
  cases H with
  | memory => exact remembers_memory
  | file path => exact remembers_file path

end PreferenceStore

end RulePyramid
