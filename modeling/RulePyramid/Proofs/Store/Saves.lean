import RulePyramid.Proofs.Store.Preferences

/-!
Saving again and again. The id that was saved last is the one remembered
(`PreferenceStore.Remembers.last_saveAll`), so stores that were told the same agree. With a file
only the first time can fail (`PreferenceStore.saveAll_file`): neither what is to be saved nor what
is in the file matters, and what the path leads to is the same afterwards.
-/

namespace RulePyramid
namespace PreferenceStore

/-- Saves some ids, one after the other, until one cannot be saved. -/
def saveAll {τ : Type} (store : PreferenceStore τ) : List String → τ → Except Failure Unit × τ
  | [], t => (.ok (), t)
  | id :: ids, t =>
    match store.save id t with
    | (.ok (), t) => saveAll store ids t
    | (.error e, t) => (.error e, t)

section
variable {τ : Type} {store : PreferenceStore τ} {ids : List String} {id : String} {t : τ}

theorem saveAll_cons (hsave : (store.save id t).1 = .ok ()) :
    store.saveAll (id :: ids) t = store.saveAll ids (store.save id t).2 := by
  rw [saveAll]
  rcases h : store.save id t with ⟨_ | _, t'⟩
  · rw [h] at hsave
    cases hsave
  · rfl

theorem save_of_saveAll_cons (hsaves : (store.saveAll (id :: ids) t).1 = .ok ()) :
    (store.save id t).1 = .ok () := by
  rw [saveAll] at hsaves
  rcases h : store.save id t with ⟨_ | _, t'⟩
  · rw [h] at hsaves
    cases hsaves
  · rfl

/-- The id that was saved last is remembered. -/
theorem Remembers.last_saveAll (hstore : store.Remembers)
    (hsaves : (store.saveAll (ids ++ [id]) t).1 = .ok ()) :
    store.last (store.saveAll (ids ++ [id]) t).2 = .ok (some id) := by
  induction ids generalizing t with
  | nil =>
    have hsave := save_of_saveAll_cons hsaves
    rw [List.nil_append, saveAll_cons hsave]
    exact hstore id t hsave
  | cons first ids ih =>
    have hsave := save_of_saveAll_cons hsaves
    rw [List.cons_append, saveAll_cons hsave] at hsaves ⊢
    exact ih hsaves

end

theorem saveAll_memory (ids : List String) (p : Preferences) :
    (memory.saveAll ids p).1 = .ok () := by
  induction ids generalizing p with
  | nil => rfl
  | cons id ids ih => exact ih _

section
variable {path id : String} {fs : Files}

/-- Saving an id in a file is saving some preferences. -/
theorem exists_save_file_eq (path id : String) (fs : Files) :
    ∃ p : Preferences, (file path).save id fs =
      ((p.save fs path).1.mapError (·.failure), (p.save fs path).2) :=
  ⟨_, rfl⟩

theorem fst_save_file_eq_ok_iff : ((file path).save id fs).1 = .ok () ↔ fs.CanHold path := by
  obtain ⟨p, hp⟩ := exists_save_file_eq path id fs
  rw [hp, ← Preferences.fst_save_eq_ok_iff (p := p)]
  cases (p.save fs path).1 with
  | error cause => exact iff_of_false nofun nofun
  | ok => exact iff_of_true rfl rfl

theorem canHold_of_save_file (hcan : fs.CanHold path) (id : String) :
    ((file path).save id fs).2.CanHold path := by
  obtain ⟨p, hp⟩ := exists_save_file_eq path id fs
  rw [hp]
  exact Preferences.canHold_of_save (Preferences.fst_save_eq_ok_iff.mpr hcan)

/-- Once a file can be saved it can be saved again and again. -/
theorem saveAll_file (hcan : fs.CanHold path) (ids : List String) :
    ((file path).saveAll ids fs).1 = .ok () := by
  induction ids generalizing fs with
  | nil => rfl
  | cons id ids ih =>
    rw [saveAll_cons (fst_save_file_eq_ok_iff.mpr hcan)]
    exact ih (canHold_of_save_file hcan id)

end

/-- A store gives the id that it was told last, as memory does. -/
structure ActsLikeMemory {τ : Type} (store : PreferenceStore τ) : Prop where
  last_save : ∀ id t, (store.save id t).1 = .ok () →
    store.last (store.save id t).2 = .ok (some id)
  /-- Only the first of several saves may fail. -/
  saveAll_ok : ∀ id ids t, (store.save id t).1 = .ok () → (store.saveAll (id :: ids) t).1 = .ok ()
  last_saveAll : ∀ ids id t, (store.saveAll (ids ++ [id]) t).1 = .ok () →
    store.last (store.saveAll (ids ++ [id]) t).2 = .ok (some id)
  last_memory : ∀ ids id t p, (store.saveAll (ids ++ [id]) t).1 = .ok () →
    (memory.saveAll (ids ++ [id]) p).1 = .ok () ∧
      memory.last (memory.saveAll (ids ++ [id]) p).2 = store.last (store.saveAll (ids ++ [id]) t).2

/-- **A file acts like memory**, whatever is in it and wherever it is. -/
theorem actsLikeMemory_file (path : String) : (file path).ActsLikeMemory where
  last_save := remembers_file path
  saveAll_ok _ _ _ hsave := saveAll_file (fst_save_file_eq_ok_iff.mp hsave) _
  last_saveAll _ _ _ := (remembers_file path).last_saveAll
  last_memory ids id fs p hsaves := by
    have hmemory := saveAll_memory (ids ++ [id]) p
    refine ⟨hmemory, ?_⟩
    rw [(remembers_file path).last_saveAll hsaves, remembers_memory.last_saveAll hmemory]

/-- In place of a file that is no text an id with a quote, a backslash and a line break is saved. -/
theorem actsLikeMemory_file_of_no_text :
    let path := "settings/prefs.json"
    let fs := (Files.empty.set ["settings"] .directory).set ["settings", "prefs.json"]
      (.file ⟨#[0xFF]⟩)
    let store := file path
    let ids := ["first", "second", "say \"c:\\d\"\n"]
    Preferences.load fs path = .error (.unreadable path .notText) ∧
      (store.save "first" fs).1 = .ok () ∧
        store.last (store.saveAll ids fs).2 = .ok (some "say \"c:\\d\"\n") ∧
          memory.last (memory.saveAll ids {}).2 = .ok (some "say \"c:\\d\"\n") := by
  intro path fs store ids
  have hnames : Files.names path = ["settings", "prefs.json"] := by decide +kernel
  have hlocate : fs.locate path = .ok ["settings", "prefs.json"] := by
    have hcheck : Files.checkPath path = .ok () := by
      rw [Files.checkPath, String.contains_char_eq]
      decide
    rw [Files.locate, hcheck, hnames]
    rfl
  have hmake : fs.makeParent path = (.ok (), fs) := by
    have hparent : Files.parentNames path = ["settings"] := by
      rw [Files.parentNames, hnames]
      decide +kernel
    have hjoin : "/".intercalate ["settings"] = "settings" := by decide +kernel
    have hcheck : Files.checkPath "settings" = .ok () := by
      rw [Files.checkPath, String.contains_char_eq]
      decide
    simp only [Files.makeParent, hparent, hjoin, hcheck]
    rfl
  have hload : Preferences.load fs path = .error (.unreadable path .notText) := by
    have hread : fs.read path = .ok ⟨#[0xFF]⟩ := by
      simp only [Files.read, hlocate]
      rfl
    have htext : fs.readText path = .error .notText := by
      have hbytes : String.fromUTF8? ⟨#[0xFF]⟩ = none := by decide +kernel
      simp only [Files.readText, hread, bind, Except.bind, hbytes]
      rfl
    have hcontains : fs.contains path := by
      simp only [Files.contains, hlocate]
      rfl
    simp only [Preferences.load, hcontains, htext, if_true]
  have hfile : fs.at? ["settings", "prefs.json"] ≠ some .directory := fun hat => by cases hat
  have hcan : fs.CanHold path := ⟨fs, _, hmake, hlocate, hfile⟩
  have hsave : (store.save "first" fs).1 = .ok () := fst_save_file_eq_ok_iff.mpr hcan
  have H := actsLikeMemory_file path
  have hsaves := H.saveAll_ok "first" ["second", "say \"c:\\d\"\n"] fs hsave
  have hlast := H.last_saveAll ["first", "second"] "say \"c:\\d\"\n" fs hsaves
  have hmemory := (H.last_memory ["first", "second"] "say \"c:\\d\"\n" fs {} hsaves).2
  exact ⟨hload, hsave, hlast, hmemory.trans hlast⟩

end PreferenceStore

end RulePyramid
