import RulePyramid.Proofs.Store.Changes
import RulePyramid.Proofs.Text.Lowercase
import RulePyramid.Store.Sources

/-!
What a directory of rulesets reads. An id that is a plain name leads to the file of this name in the
directory and to nothing else: the joined path leads where the path of the directory leads, and then
to the child with the name (`Files.locate_join`). Any other id is refused before a file is looked
at. So what is fetched depends on this one child (`Files.AgreeBelow.readText_join`), and ids that
differ lead to different files (`RulesetDirectory.confined`).
-/

namespace RulePyramid

open Text (trim)

/-- Trimming takes away nothing but blank characters. -/
theorem Text.mem_trim_of_mem {s : String} {c : Char} (hc : c ∈ s.toList) (hblank : ¬isBlank c) :
    c ∈ (trim s).toList := by
  have hkept : ∀ cs : List Char, c ∈ cs → c ∈ cs.dropWhile isBlank := by
    intro cs hmem
    rw [← List.takeWhile_append_dropWhile (p := isBlank) (l := cs), List.mem_append] at hmem
    rcases hmem with hfront | hrest
    · exact (hblank (List.mem_takeWhile_imp hfront)).elim
    · exact hrest
  rw [trim, String.toList_ofList, trimBack, List.mem_reverse]
  exact hkept _ (List.mem_reverse.mpr (hkept _ hc))

namespace Files

variable {fs fs' : Files} {place target : List String} {dir name : String}

/-! ## Joined paths -/

theorem follow_append (fs : Files) (place names names' : List String) :
    fs.follow place (names ++ names') = (fs.follow place names).bind (fs.follow · names') := by
  induction names generalizing place with
  | nil => rfl
  | cons name names ih =>
    cases hat : fs.at? place with
    | none => simp only [List.cons_append, follow, hat, Except.bind]
    | some entry =>
      cases entry with
      | file content => simp only [List.cons_append, follow, hat, Except.bind]
      | directory =>
        rw [List.cons_append, follow_cons hat, follow_cons hat]
        cases enter place name with
        | error cause => rfl
        | ok next => exact ih next

/-- An empty name asks for a directory, as any name behind it does. -/
theorem follow_empty_bind (fs : Files) (place : List String) (name : String) :
    (fs.follow place [""]).bind (fs.follow · [name]) = fs.follow place [name] := by
  cases hat : fs.at? place with
  | none => simp only [follow, hat, Except.bind]
  | some entry =>
    cases entry with
    | file content => simp only [follow, hat, Except.bind]
    | directory =>
      have hstay : fs.follow place [""] = .ok place := by
        rw [follow_cons hat]
        rfl
      rw [hstay]
      rfl

theorem names_append_slash (dir name : String) :
    names (dir ++ "/" ++ name) = names dir ++ names name := by
  have htext : (dir ++ "/" ++ name).toList = dir.toList ++ '/' :: name.toList := by
    rw [String.toList_append, String.toList_append, List.append_assoc]
    rfl
  rw [names, htext, List.splitOn_append_cons_self, List.map_append, names, names]

theorem names_of_notMem (hname : '/' ∉ name.toList) : names name = [name] := by
  rw [names, List.splitOn_eq_singleton hname, List.map_singleton, String.ofList_toList]

/-- Where no slash is put between them, the last name of the directory's path is empty. -/
theorem exists_names_eq_append (hdir : dir.toList.getLast?.all (· = '/'))
    (hname : '/' ∉ name.toList) :
    ∃ before, names dir = before ++ [""] ∧ names (dir ++ name) = before ++ [name] := by
  have hempty : names "" = [""] := names_of_notMem (List.not_mem_nil)
  cases hlast : dir.toList.getLast? with
  | none =>
    have hnil : dir = "" := String.toList_eq_nil_iff.mp (List.getLast?_eq_none_iff.mp hlast)
    refine ⟨[], ?_, ?_⟩
    · rw [hnil, hempty, List.nil_append]
    · rw [hnil, String.empty_append, names_of_notMem hname, List.nil_append]
  | some c =>
    rw [hlast] at hdir
    obtain rfl : c = '/' := of_decide_eq_true hdir
    obtain ⟨cs, hcs⟩ := List.getLast?_eq_some_iff.mp hlast
    have hsplit : dir = String.ofList cs ++ "/" := by
      rw [← String.toList_inj, hcs, String.toList_append, String.toList_ofList]
      rfl
    refine ⟨names (String.ofList cs), ?_, ?_⟩
    · rw [← hempty, ← names_append_slash, String.append_empty, ← hsplit]
    · rw [hsplit, names_append_slash, names_of_notMem hname]

theorem join_inj {name' : String} : join dir name = join dir name' ↔ name = name' := by
  rw [join, join]
  split
  · exact String.append_right_inj dir
  · exact String.append_right_inj (dir ++ "/")

/-- A joined path goes where the path of the directory goes, and one name further. -/
theorem follow_names_join (fs : Files) (hname : '/' ∉ name.toList) :
    fs.follow [] (names (join dir name)) =
      (fs.follow [] (names dir)).bind (fs.follow · [name]) := by
  rw [join]
  split
  · next hdir =>
    obtain ⟨before, hnames, hjoined⟩ := exists_names_eq_append hdir hname
    rw [hnames, hjoined, follow_append, follow_append]
    cases fs.follow [] before with
    | error cause => rfl
    | ok place => exact (follow_empty_bind fs place name).symm
  · rw [names_append_slash, names_of_notMem hname, follow_append]

theorem checkPath_eq_ok_iff {path : String} :
    checkPath path = .ok () ↔ '\x00' ∉ path.toList ∧ path.utf8ByteSize ≤ pathLimit := by
  rw [checkPath, String.contains_char_eq]
  by_cases hnul : '\x00' ∈ path.toList
  · simp [hnul]
  · simp [hnul]

/-- A path that may be joined with a name may be used by itself. -/
theorem checkPath_of_join (h : checkPath (join dir name) = .ok ()) : checkPath dir = .ok () := by
  obtain ⟨rest, hjoin⟩ : ∃ rest, join dir name = dir ++ rest := by
    rw [join]
    split
    · exact ⟨name, rfl⟩
    · exact ⟨"/" ++ name, String.append_assoc⟩
  rw [checkPath_eq_ok_iff, hjoin, String.toList_append, String.utf8ByteSize_append] at h
  rw [checkPath_eq_ok_iff]
  exact ⟨fun hnul => h.1 (List.mem_append_left _ hnul), le_trans (Nat.le_add_right _ _) h.2⟩

theorem locate_join (fs : Files) (hname : '/' ∉ name.toList) :
    fs.locate (join dir name) =
      (checkPath (join dir name)).bind fun _ => (fs.locate dir).bind (fs.follow · [name]) := by
  cases hcheck : checkPath (join dir name) with
  | error cause => simp only [locate, hcheck, bind, Except.bind]
  | ok =>
    have hdir : fs.locate dir = fs.follow [] (names dir) := by
      rw [locate, checkPath_of_join hcheck]
      rfl
    rw [locate, hcheck, hdir, Except.bind, ← follow_names_join fs hname]
    rfl

/-! ## Children of a directory -/

/-- A text that a directory can have as the name of a file. -/
structure IsFileName (name : String) : Prop where
  slash_notMem : '/' ∉ name.toList
  ne_empty : name ≠ ""
  ne_dot : name ≠ "."
  ne_dots : name ≠ ".."

theorem IsFileName.of_follow (H : IsFileName name) (hfollow : fs.follow place [name] = .ok target) :
    fs.at? place = some .directory ∧ target = place ++ [name] := by
  have hat := at?_of_follow_cons hfollow
  have henter : enter place name = child place name := by
    rw [enter, if_neg (not_or.mpr ⟨H.ne_empty, H.ne_dot⟩), if_neg H.ne_dots]
  rw [follow_cons hat, henter, child] at hfollow
  refine ⟨hat, ?_⟩
  split at hfollow
  · cases hfollow
  · cases hfollow
    rfl

/-- The path of a name in a directory leads to the child with this name. -/
theorem IsFileName.of_locate_join (H : IsFileName name)
    (hlocate : fs.locate (join dir name) = .ok target) :
    ∃ place, fs.locate dir = .ok place ∧ fs.at? place = some .directory ∧
      target = place ++ [name] := by
  rw [locate_join fs H.slash_notMem] at hlocate
  cases hcheck : checkPath (join dir name) with
  | error cause => rw [hcheck] at hlocate; cases hlocate
  | ok =>
    rw [hcheck] at hlocate
    cases hdir : fs.locate dir with
    | error cause => rw [hdir] at hlocate; cases hlocate
    | ok place =>
      rw [hdir] at hlocate
      exact ⟨place, rfl, H.of_follow hlocate⟩

/-- In two trees of files a path leads to the same place, and both have the same there and under a
name right below. -/
structure AgreeBelow (dir name : String) (fs fs' : Files) : Prop where
  locate_eq : fs.locate dir = fs'.locate dir
  at?_eq : ∀ place, fs.locate dir = .ok place → fs.at? place = fs'.at? place
  child_eq : ∀ place, fs.locate dir = .ok place →
    fs.at? (place ++ [name]) = fs'.at? (place ++ [name])

/-- Nothing else than the child with a name makes a difference to what is read under its path. -/
theorem AgreeBelow.readText_join (H : AgreeBelow dir name fs fs') (hname : IsFileName name) :
    fs.readText (join dir name) = fs'.readText (join dir name) := by
  have hlocate : fs.locate (join dir name) = fs'.locate (join dir name) := by
    rw [locate_join fs hname.slash_notMem, locate_join fs' hname.slash_notMem, ← H.locate_eq]
    cases hdir : fs.locate dir with
    | error cause => rfl
    | ok place => simp only [Except.bind, follow, H.at?_eq place hdir]
  cases htarget : fs.locate (join dir name) with
  | error cause => simp only [readText, read, ← hlocate, htarget, bind, Except.bind]
  | ok target =>
    obtain ⟨place, hdir, -, rfl⟩ := hname.of_locate_join htarget
    simp only [readText, read, ← hlocate, htarget, bind, Except.bind, H.child_eq place hdir]

/-- A file outside a directory makes no difference to what the directory has. -/
theorem DifferIn.agreeBelow {outside : List String} (H : DifferIn outside fs fs')
    (hdir : fs.locate dir = .ok place) (houtside : ¬place <+: outside) (name : String) :
    AgreeBelow dir name fs fs' := by
  have hne : ∀ rest, place ++ rest ≠ outside := by
    intro rest heq
    exact houtside ⟨rest, heq⟩
  refine ⟨hdir.trans (H.locate hdir).symm, ?_, ?_⟩
  · intro place' hdir'
    cases hdir.symm.trans hdir'
    exact H.at?_eq place (by simpa using hne [])
  · intro place' hdir'
    cases hdir.symm.trans hdir'
    exact H.at?_eq _ (hne [name])

/-! ## Consulted paths -/

/-- A path is consulted if what a reader gives for it alone can change the outcome. -/
def Consults {β : Type} (compute : Reader → β) (path : String) : Prop :=
  ∃ read read' : Reader, (∀ other, other ≠ path → read other = read' other) ∧
    compute read ≠ compute read'

end Files

open Files (Consults IsFileName AgreeBelow)

namespace RulesetDirectory

variable {d : RulesetDirectory} {id path : String} {read read' : Files.Reader}

/-- What an id may be once it is trimmed. -/
structure IsPlainName (name : String) : Prop extends IsFileName name where
  backslash_notMem : '\\' ∉ name.toList

/-- The name of the file for an id. -/
def fileName (id : String) : String := trim id ++ ".json"

/-! ## File names -/

theorem toList_fileName (id : String) : (fileName id).toList = (trim id).toList ++ ".json".toList :=
  String.toList_append

theorem trim_eq_of_fileName_eq {id' : String} (h : fileName id = fileName id') :
    trim id = trim id' := by
  rw [← String.toList_inj, toList_fileName, toList_fileName] at h
  exact String.toList_inj.mp (List.append_cancel_right h)

/-- The ending takes care of the names with a meaning of their own. -/
theorem IsPlainName.isFileName (H : IsPlainName (trim id)) : IsFileName (fileName id) := by
  have hlong : 5 ≤ (fileName id).toList.length := by
    rw [toList_fileName, List.length_append]
    exact Nat.le_add_left 5 _
  have hne : ∀ short : String, short.toList.length < 5 → fileName id ≠ short := by
    intro short hshort heq
    rw [heq] at hlong
    omega
  refine ⟨?_, hne _ (by decide), hne _ (by decide), hne _ (by decide)⟩
  intro hmem
  rw [toList_fileName, List.mem_append] at hmem
  rcases hmem with hslash | hslash
  · exact H.slash_notMem hslash
  · exact absurd hslash (by decide)

/-! ## Paths -/

theorem isPlainName_iff {name : String} :
    IsPlainName name ↔ ¬(name = "" ∨ name.contains '/' ∨ name.contains '\\' ∨ name = "." ∨
      name = "..") := by
  simp only [String.contains_char_eq, decide_eq_true_eq, not_or]
  constructor
  · intro H
    exact ⟨H.ne_empty, H.slash_notMem, H.backslash_notMem, H.ne_dot, H.ne_dots⟩
  · intro ⟨hempty, hslash, hbackslash, hdot, hdots⟩
    exact ⟨⟨hslash, hempty, hdot, hdots⟩, hbackslash⟩

theorem pathOf_of_isPlainName (d : RulesetDirectory) (H : IsPlainName (trim id)) :
    d.pathOf id = .ok (Files.join d.root (fileName id)) := by
  rw [pathOf, if_neg (isPlainName_iff.mp H), fileName]

theorem pathOf_of_not_isPlainName (d : RulesetDirectory) (H : ¬IsPlainName (trim id)) :
    d.pathOf id = .error (.invalidId id) := by
  rw [pathOf, if_pos (not_not.mp (mt isPlainName_iff.mpr H))]

theorem pathOf_eq_ok_iff :
    d.pathOf id = .ok path ↔ IsPlainName (trim id) ∧ path = Files.join d.root (fileName id) := by
  by_cases H : IsPlainName (trim id)
  · rw [pathOf_of_isPlainName d H, Except.ok.injEq]
    exact ⟨fun h => ⟨H, h.symm⟩, fun h => h.2.symm⟩
  · rw [pathOf_of_not_isPlainName d H]
    exact ⟨nofun, fun h => (H h.1).elim⟩

/-- Separators are not blank, so trimming does not take them away. -/
theorem not_isPlainName_trim (h : Text.isBlankText id ∨ trim id = "." ∨ trim id = ".." ∨
    '/' ∈ id.toList ∨ '\\' ∈ id.toList) : ¬IsPlainName (trim id) := by
  intro H
  rcases h with hblank | hdot | hdots | hslash | hbackslash
  · exact H.ne_empty (Text.trim_eq_empty_iff.mpr hblank)
  · exact H.ne_dot hdot
  · exact H.ne_dots hdots
  · exact H.slash_notMem (Text.mem_trim_of_mem hslash (by decide))
  · exact H.backslash_notMem (Text.mem_trim_of_mem hbackslash (by decide))

/-! ## Fetching -/

theorem fetch_of_not_isPlainName (d : RulesetDirectory) (H : ¬IsPlainName (trim id))
    (read : Files.Reader) : d.fetch read id = .error (.invalidId id) := by
  simp only [fetch, pathOf_of_not_isPlainName d H, bind, Except.bind]

theorem fetch_of_unreadable {cause : Files.Error} (hpath : d.pathOf id = .ok path)
    (hread : read path = .error cause) :
    d.fetch read id = .error (.unreadableRuleset path cause) := by
  simp only [fetch, hpath, hread, bind, Except.bind, Except.mapError]

theorem fetch_congr (h : ∀ path, d.pathOf id = .ok path → read path = read' path) :
    d.fetch read id = d.fetch read' id := by
  cases hpath : d.pathOf id with
  | error cause => simp only [fetch, hpath, bind, Except.bind]
  | ok path => simp only [fetch, hpath, h path hpath, bind, Except.bind]

/-- The path that is consulted is the one of the id. -/
theorem consults_fetch_iff : Consults (d.fetch · id) path ↔ d.pathOf id = .ok path := by
  constructor
  · intro ⟨read, read', hother, hne⟩
    by_contra hpath
    refine hne (fetch_congr fun other hother' => hother other ?_)
    intro heq
    exact hpath (heq ▸ hother')
  · intro hpath
    let missing : Files.Reader := fun _ => .error .notFound
    let barred : Files.Reader := fun other =>
      if other = path then .error .isDirectory else missing other
    refine ⟨missing, barred, fun other hother => (if_neg hother).symm, ?_⟩
    have hmissing : d.fetch missing id = .error (.unreadableRuleset path .notFound) :=
      fetch_of_unreadable hpath rfl
    have hbarred : d.fetch barred id = .error (.unreadableRuleset path .isDirectory) :=
      fetch_of_unreadable hpath (if_pos rfl)
    intro heq
    cases hmissing.symm.trans (heq.trans hbarred)

/-- Fetching a ruleset stays inside the directory. -/
structure Confined (d : RulesetDirectory) (id : String) : Prop where
  /-- An id that is blank, that is the name of a directory itself or that has a separator in it is
  refused whatever the files are. -/
  refused : Text.isBlankText id ∨ trim id = "." ∨ trim id = ".." ∨ '/' ∈ id.toList ∨
    '\\' ∈ id.toList → ∀ read, d.fetch read id = .error (.invalidId id)
  /-- At most one path is consulted: that of the file with the name of the id. -/
  consults_iff : ∀ path, Consults (d.fetch · id) path ↔
    IsPlainName (trim id) ∧ path = Files.join d.root (fileName id)
  /-- What is read elsewhere does not matter. -/
  fetch_congr : ∀ read read' : Files.Reader,
    (∀ path, Consults (d.fetch · id) path → read path = read' path) →
      d.fetch read id = d.fetch read' id
  /-- The path leads to a child of the directory. -/
  child : ∀ (fs : Files) path target, Consults (d.fetch · id) path → fs.locate path = .ok target →
    ∃ root, fs.locate d.root = .ok root ∧ fs.at? root = some .directory ∧
      target = root ++ [fileName id]
  /-- The child is all that matters, as long as the directory stays in its place. -/
  agree : ∀ fs fs' : Files, AgreeBelow d.root (fileName id) fs fs' →
    d.fetch fs.readText id = d.fetch fs'.readText id
  /-- A file outside the directory may be changed, made or removed. -/
  outside : ∀ (fs fs' : Files) root other, fs.locate d.root = .ok root → ¬root <+: other →
    fs.DifferIn other fs' → d.fetch fs.readText id = d.fetch fs'.readText id
  /-- Another id is that of another file. -/
  apart : ∀ id' path path', Consults (d.fetch · id) path → Consults (d.fetch · id') path' →
    trim id ≠ trim id' → path ≠ path' ∧
      ∀ (fs : Files) target, fs.locate path = .ok target → fs.locate path' ≠ .ok target

theorem fetch_readText_congr (d : RulesetDirectory) {fs fs' : Files}
    (H : AgreeBelow d.root (fileName id) fs fs') :
    d.fetch fs.readText id = d.fetch fs'.readText id := by
  refine fetch_congr fun path hpath => ?_
  obtain ⟨hplain, rfl⟩ := pathOf_eq_ok_iff.mp hpath
  exact H.readText_join hplain.isFileName

/-- **Ids of rulesets do not lead out of their directory.** -/
theorem confined (d : RulesetDirectory) (id : String) : d.Confined id where
  refused h read := fetch_of_not_isPlainName d (not_isPlainName_trim h) read
  consults_iff path := consults_fetch_iff.trans pathOf_eq_ok_iff
  fetch_congr read read' h := fetch_congr fun path hpath => h path (consults_fetch_iff.mpr hpath)
  child fs path target hpath htarget := by
    obtain ⟨hplain, rfl⟩ := pathOf_eq_ok_iff.mp (consults_fetch_iff.mp hpath)
    exact hplain.isFileName.of_locate_join htarget
  agree fs fs' H := d.fetch_readText_congr H
  outside fs fs' root other hroot hother H :=
    d.fetch_readText_congr (H.agreeBelow hroot hother (fileName id))
  apart id' path path' hpath hpath' hne := by
    obtain ⟨hplain, rfl⟩ := pathOf_eq_ok_iff.mp (consults_fetch_iff.mp hpath)
    obtain ⟨hplain', rfl⟩ := pathOf_eq_ok_iff.mp (consults_fetch_iff.mp hpath')
    refine ⟨fun heq => hne (trim_eq_of_fileName_eq (Files.join_inj.mp heq)), ?_⟩
    intro fs target htarget htarget'
    obtain ⟨root, hroot, -, rfl⟩ := hplain.isFileName.of_locate_join htarget
    obtain ⟨root', hroot', -, hsame⟩ := hplain'.isFileName.of_locate_join htarget'
    cases hroot.symm.trans hroot'
    exact hne (trim_eq_of_fileName_eq (List.singleton_inj.mp (List.append_cancel_left hsame)))

end RulesetDirectory
end RulePyramid
