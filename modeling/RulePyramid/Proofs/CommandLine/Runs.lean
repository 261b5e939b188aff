import RulePyramid.CommandLine.Program
import RulePyramid.Proofs.CommandLine.Rules
import RulePyramid.Proofs.Store.Changes

/-!
Runs of the program. On a tree of files a run reads its inputs, draws, and writes at most one file
(`run_eq`). A drawing needs the rules, the layout and the selected rule (`Lacks`); a run that has
all of them fails only where its output cannot be written, and one that has not leaves no trace
(`run_of_lacks`). The groups are not among what it needs: a file that is read neither for the rules
nor for the layout can be any file, or be missing (`run_of_differIn`).
-/

namespace RulePyramid.CommandLine

open Json (bind_eq_ok mapError_eq_ok)

variable {read read' : Files.Reader} {a : Arguments} {text : String} {fs fs' : Files}
  {arguments : List String} {place : List String}

/-! ## Drawing -/

/-- Something that a drawing needs cannot be had. -/
inductive Lacks (read : Files.Reader) (a : Arguments) : Prop
  | rules {e : ProgramError} : loadRules read a.rules = .error e → Lacks read a
  | config {e : ProgramError} : loadConfig read a.config = .error e → Lacks read a
  | selected {rules : List Rule} {id : String} : loadRules read a.rules = .ok rules →
    a.select = some id → id ∉ rules.map (·.target) → Lacks read a

/-- What is drawn: the details of a rule, or the view of all. -/
def picture? (a : Arguments) (rules : List Rule) (catalog : Catalog)
    (config : LayoutConfig Single) : Option Json :=
  match a.select with
  | some id => (RuleDetails.select rules (.ofRules rules) id).map (·.toJson)
  | none => some (componentsGraph rules catalog config).toJson

/-- The text of a drawing. -/
def textOf (a : Arguments) (json : Json) : String :=
  json.render (if a.pretty then .pretty else .compact) ++ "\n"

theorem draw_eq (read : Files.Reader) (a : Arguments) :
    draw read a = (do
      let rules ← loadRules read a.rules
      let config ← loadConfig read a.config
      match picture? a rules (loadCatalog read a.groups) config with
      | some json => return textOf a json
      | none => throw (.unknownRule (a.select.getD "") a.rules)) := by
  refine bind_congr fun rules => bind_congr fun config => ?_
  rw [picture?]
  cases a.select with
  | none => rfl
  | some id =>
    dsimp only
    cases RuleDetails.select rules (.ofRules rules) id <;> rfl

theorem draw_eq_ok_iff : draw read a = .ok text ↔
    ∃ rules config json, loadRules read a.rules = .ok rules ∧
      loadConfig read a.config = .ok config ∧
      picture? a rules (loadCatalog read a.groups) config = some json ∧ textOf a json = text := by
  rw [draw_eq]
  constructor
  · intro h
    obtain ⟨rules, hrules, h⟩ := bind_eq_ok.mp h
    obtain ⟨config, hconfig, h⟩ := bind_eq_ok.mp h
    split at h
    · next json hjson => exact ⟨rules, config, json, hrules, hconfig, hjson, Except.ok.inj h⟩
    · cases h
  · rintro ⟨rules, config, json, hrules, hconfig, hjson, rfl⟩
    rw [hrules, hconfig]
    simp only [bind, Except.bind, hjson]
    rfl

/-- The details of a rule can be had just if there is a rule with this target. -/
theorem isSome_picture?_iff {rules : List Rule} {catalog : Catalog} {config : LayoutConfig Single} :
    (picture? a rules catalog config).isSome ↔ ∀ id ∈ a.select, id ∈ rules.map (·.target) := by
  rw [picture?]
  cases a.select with
  | none => simp
  | some id => simp [RuleDetails.select, List.find?_isSome]

/-- A drawing can be made unless something lacks. -/
theorem exists_draw_eq_ok_iff : (∃ text, draw read a = .ok text) ↔ ¬Lacks read a := by
  simp only [draw_eq_ok_iff]
  constructor
  · rintro ⟨_, rules, config, json, hrules, hconfig, hjson, -⟩ hlacks
    cases hlacks with
    | rules h => cases hrules.symm.trans h
    | config h => cases hconfig.symm.trans h
    | selected h hselect hid =>
      obtain rfl := Except.ok.inj (hrules.symm.trans h)
      exact hid (isSome_picture?_iff.mp (Option.isSome_of_eq_some hjson) _ hselect)
  · intro hlacks
    cases hrules : loadRules read a.rules with
    | error => exact (hlacks (.rules hrules)).elim
    | ok rules =>
    cases hconfig : loadConfig read a.config with
    | error => exact (hlacks (.config hconfig)).elim
    | ok config =>
    have hsome : (picture? a rules (loadCatalog read a.groups) config).isSome :=
      isSome_picture?_iff.mpr fun id hselect => not_not.mp fun hid =>
        hlacks (.selected hrules hselect hid)
    obtain ⟨json, hjson⟩ := Option.isSome_iff_exists.mp hsome
    exact ⟨_, rules, config, json, rfl, rfl, hjson, rfl⟩

/-! ## Inputs -/

theorem mem_inputs {path : String} :
    path ∈ a.inputs ↔ path = a.rules ∨ path ∈ a.groups ∨ path ∈ a.config := by
  simp [Arguments.inputs, @eq_comm _ (some path)]

/-- Nothing else is read than the inputs. -/
theorem draw_congr (h : ∀ path ∈ a.inputs, read path = read' path) :
    draw read a = draw read' a := by
  have hrules : loadRules read a.rules = loadRules read' a.rules := by
    rw [loadRules, loadRules, h a.rules (mem_inputs.mpr (.inl rfl))]
  have hgroups : loadCatalog read a.groups = loadCatalog read' a.groups := by
    cases hpath : a.groups with
    | none => rfl
    | some path =>
      rw [loadCatalog, loadCatalog, fetchGroups, fetchGroups,
        h path (mem_inputs.mpr (.inr (.inl hpath)))]
  have hconfig : loadConfig read a.config = loadConfig read' a.config := by
    cases hpath : a.config with
    | none => rfl
    | some path =>
      rw [loadConfig, loadConfig, h path (mem_inputs.mpr (.inr (.inr hpath)))]
  rw [draw_eq, draw_eq, hrules, hgroups, hconfig]

/-- What follows goes on from the state that was left. -/
theorem run_bind_of_eq {σ α β : Type} {x : StateM σ α} {f : α → StateM σ β} {s s' : σ} {a : α}
    (h : x.run s = (a, s')) : (x >>= f).run s = (f a).run s' := by
  rw [StateT.run_bind, h]
  rfl

namespace Access

/-- The files of a tree are read as they are, and left so. -/
theorem run_mapM_readText_tree (paths : List String) (fs : Files) :
    (paths.mapM fun path => do return (path, ← tree.readText path)).run fs =
      (paths.map fun path => (path, fs.readText path), fs) := by
  induction paths with
  | nil => rfl
  | cons path paths ih =>
    have hpath : (do return (path, ← tree.readText path)).run fs =
        ((path, fs.readText path), fs) := rfl
    rw [List.mapM_cons, run_bind_of_eq hpath, run_bind_of_eq ih]
    rfl

theorem exists_reader_tree (paths : List String) (fs : Files) :
    ∃ read, (tree.reader paths).run fs = (read, fs) ∧
      ∀ path ∈ paths, read path = fs.readText path := by
  refine ⟨_, run_bind_of_eq (run_mapM_readText_tree paths fs), fun path hpath => ?_⟩
  rw [List.lookup_graph fs.readText hpath, Option.getD_some]

/-- A tree that can be written is changed, and one that cannot is left as it is. -/
theorem run_writeText_tree (path text : String) (fs : Files) :
    (tree.writeText path text).run fs =
      match fs.writeText path text with
      | .ok fs => (.ok (), fs)
      | .error cause => (.error cause, fs) := rfl

end Access

/-! ## Another file for the groups -/

/-- A drawing needs the file at this place. -/
def Arguments.Needs (a : Arguments) (fs : Files) (place : List String) : Prop :=
  fs.locate a.rules = .ok place ∨ ∃ path ∈ a.config, fs.locate path = .ok place

theorem Arguments.needs_congr (H : fs.DifferIn place fs') :
    a.Needs fs place ↔ a.Needs fs' place := by
  have hlocate : ∀ path, fs.locate path = .ok place ↔ fs'.locate path = .ok place :=
    fun path => ⟨H.locate, H.symm.locate⟩
  simp only [Arguments.Needs, hlocate]

theorem loadRules_of_differIn (H : Files.DifferIn place fs fs') {path : String} {rules : List Rule}
    (hpath : fs.locate path ≠ .ok place) (hload : loadRules fs.readText path = .ok rules) :
    loadRules fs'.readText path = .ok rules := by
  obtain ⟨content, hread, hrules⟩ := bind_eq_ok.mp hload
  exact bind_eq_ok.mpr
    ⟨content, mapError_eq_ok.mpr (H.readText hpath (mapError_eq_ok.mp hread)), hrules⟩

theorem loadConfig_of_differIn (H : Files.DifferIn place fs fs') {path? : Option String}
    {config : LayoutConfig Single} (hpath : ∀ path ∈ path?, fs.locate path ≠ .ok place)
    (hload : loadConfig fs.readText path? = .ok config) :
    loadConfig fs'.readText path? = .ok config := by
  cases path? with
  | none => exact hload
  | some path =>
    obtain ⟨content, hread, hconfig⟩ := bind_eq_ok.mp hload
    exact bind_eq_ok.mpr ⟨content,
      mapError_eq_ok.mpr (H.readText (hpath path rfl) (mapError_eq_ok.mp hread)), hconfig⟩

/-- The details of a rule have nothing to do with the groups. -/
theorem picture?_of_select {rules : List Rule} {config : LayoutConfig Single}
    (hselect : a.select.isSome) (catalog catalog' : Catalog) :
    picture? a rules catalog config = picture? a rules catalog' config := by
  obtain ⟨id, hid⟩ := Option.isSome_iff_exists.mp hselect
  simp only [picture?, hid]

theorem draw_of_differIn (H : Files.DifferIn place fs fs') (hneeds : ¬a.Needs fs place)
    (hdraw : draw fs.readText a = .ok text) :
    ∃ text', draw fs'.readText a = .ok text' ∧ (a.select.isSome → text' = text) := by
  obtain ⟨rules, config, json, hrules, hconfig, hjson, rfl⟩ := draw_eq_ok_iff.mp hdraw
  have hrules' := loadRules_of_differIn H (fun hpath => hneeds (.inl hpath)) hrules
  have hconfig' := loadConfig_of_differIn H
    (fun path hmem hpath => hneeds (.inr ⟨path, hmem, hpath⟩)) hconfig
  have hsome : (picture? a rules (loadCatalog fs'.readText a.groups) config).isSome :=
    isSome_picture?_iff.mpr (isSome_picture?_iff.mp (Option.isSome_of_eq_some hjson))
  obtain ⟨json', hjson'⟩ := Option.isSome_iff_exists.mp hsome
  refine ⟨_, draw_eq_ok_iff.mpr ⟨rules, config, json', hrules', hconfig', hjson', rfl⟩,
    fun hselect => ?_⟩
  rw [picture?_of_select hselect (loadCatalog fs'.readText a.groups)
    (loadCatalog fs.readText a.groups), hjson] at hjson'
  rw [Option.some.inj hjson']

/-! ## Runs -/

/-- The program ends well. -/
def Succeeds (fs : Files) (arguments : List String) : Prop :=
  (execute fs arguments).1.exitCode = 0

/-- What has been written for a drawing with this text. -/
structure Writes (fs : Files) (a : Arguments) (text : String) (result : Report × Files) :
    Prop where
  exitCode : result.1.exitCode = 0
  stdout : result.1.stdout = if a.output.isNone then text else ""
  files : ∀ path ∈ a.output, fs.writeText path text = .ok result.2

/-- A run draws, and then it writes at most one file. -/
theorem run_eq (fs : Files) (a : Arguments) :
    run fs a = match draw fs.readText a with
      | .error e => (.ofError e, fs)
      | .ok text =>
        match a.output with
        | none => ({ exitCode := 0, stdout := text }, fs)
        | some path =>
          match fs.writeText path text with
          | .error cause => (.ofError (.unwritable path cause), fs)
          | .ok fs => ({ exitCode := 0 }, fs) := by
  obtain ⟨read, hreader, hread⟩ := Access.exists_reader_tree a.inputs fs
  rw [run, runWith, run_bind_of_eq hreader, draw_congr hread]
  cases draw fs.readText a with
  | error e => rfl
  | ok text =>
    cases a.output with
    | none => rfl
    | some path =>
      have htree := Access.run_writeText_tree path text fs
      dsimp only
      cases hwrite : fs.writeText path text with
      | error cause =>
        rw [hwrite] at htree
        exact run_bind_of_eq htree
      | ok fs' =>
        rw [hwrite] at htree
        exact run_bind_of_eq htree

theorem exitCode_ofError (e : ProgramError) : (Report.ofError e).exitCode ≠ 0 :=
  (by decide : (1 : UInt32) ≠ 0)

theorem run_of_lacks (hlacks : Lacks fs.readText a) :
    (run fs a).1.exitCode ≠ 0 ∧ (run fs a).1.stdout = "" ∧ (run fs a).2 = fs := by
  cases hdraw : draw fs.readText a with
  | ok text => exact (exists_draw_eq_ok_iff.mp ⟨text, hdraw⟩ hlacks).elim
  | error e =>
    rw [run_eq, hdraw]
    exact ⟨exitCode_ofError e, rfl, rfl⟩

/-- A run succeeds where its text is drawn and written, and else says nothing. -/
theorem run_cases (fs : Files) (a : Arguments) :
    (∃ text, draw fs.readText a = .ok text ∧ Writes fs a text (run fs a)) ∨
      ((∀ text, draw fs.readText a = .ok text → ∃ path ∈ a.output, ∀ fs₁,
        fs.writeText path text ≠ .ok fs₁) ∧
        (run fs a).1.exitCode ≠ 0 ∧ (run fs a).1.stdout = "") := by
  rw [run_eq]
  cases hdraw : draw fs.readText a with
  | error e => exact .inr ⟨nofun, exitCode_ofError e, rfl⟩
  | ok text =>
    cases houtput : a.output with
    | none => exact .inl ⟨text, rfl, rfl, by simp [houtput], by simp [houtput]⟩
    | some path =>
      dsimp only
      cases hwrite : fs.writeText path text with
      | error cause =>
        refine .inr ⟨fun text' htext => ⟨path, rfl, fun fs₁ h => ?_⟩, exitCode_ofError _, rfl⟩
        obtain rfl := Except.ok.inj htext
        cases hwrite.symm.trans h
      | ok fs₁ => exact .inl ⟨text, rfl, rfl, by simp [houtput], by simp [houtput, hwrite]⟩

theorem run_of_differIn (H : Files.DifferIn place fs fs') (hneeds : ¬a.Needs fs place)
    (hrun : (run fs a).1.exitCode = 0) : (run fs' a).1.exitCode = 0 := by
  obtain ⟨text, hdraw, hwrites⟩ | ⟨-, hfails, -⟩ := run_cases fs a
  · obtain ⟨text', hdraw', -⟩ := draw_of_differIn H hneeds hdraw
    obtain ⟨_, -, hwrites'⟩ | ⟨hstuck, -, -⟩ := run_cases fs' a
    · exact hwrites'.exitCode
    · obtain ⟨path, houtput, hstuck⟩ := hstuck text' hdraw'
      obtain ⟨fs₁, hwrite⟩ := H.writeText (hwrites.files path houtput) text'
      exact (hstuck fs₁ hwrite).elim
  · exact (hfails hrun).elim

/-- The details of a rule are written alike. -/
theorem run_select_of_differIn (H : Files.DifferIn place fs fs') (hneeds : ¬a.Needs fs place)
    (hselect : a.select.isSome) :
    (run fs a).1.stdout = (run fs' a).1.stdout ∧
      ((run fs a).1.exitCode = 0 → ∀ path ∈ a.output,
        (run fs a).2.readText path = (run fs' a).2.readText path) := by
  obtain ⟨text, hdraw, hwrites⟩ | ⟨-, hfails, hsilent⟩ := run_cases fs a
  · obtain ⟨_, hdraw', hwrites'⟩ | ⟨-, hfails', -⟩ := run_cases fs' a
    · obtain ⟨text', htext', heq⟩ := draw_of_differIn H hneeds hdraw
      obtain rfl := Except.ok.inj (htext'.symm.trans hdraw')
      obtain rfl := heq hselect
      refine ⟨hwrites.stdout.trans hwrites'.stdout.symm, fun _ path houtput => ?_⟩
      rw [Files.readText_writeText (hwrites.files path houtput),
        Files.readText_writeText (hwrites'.files path houtput)]
    · exact (hfails' (run_of_differIn H hneeds hwrites.exitCode)).elim
  · refine ⟨?_, fun hrun => (hfails hrun).elim⟩
    obtain ⟨_, -, hwrites'⟩ | ⟨-, -, hsilent'⟩ := run_cases fs' a
    · have hneeds' : ¬a.Needs fs' place := fun h => hneeds ((a.needs_congr H).mpr h)
      exact (hfails (run_of_differIn H.symm hneeds' hwrites'.exitCode)).elim
    · rw [hsilent, hsilent']

theorem execute_eq_run (ha : Command.ofArguments arguments = .ok (.draw a)) (fs : Files) :
    execute fs arguments = run fs a := by
  rw [execute, executeWith, ha]
  rfl

/-- **A run that lacks something leaves no trace, and what is in the file of the groups never makes
a run fail**, unless the file is also read for the rules or for the layout. -/
theorem leavesNoTrace_and_sparesGroups :
    (∀ fs arguments a, Command.ofArguments arguments = .ok (.draw a) → Lacks fs.readText a →
      ¬Succeeds fs arguments ∧ (execute fs arguments).1.stdout = "" ∧
        (execute fs arguments).2 = fs) ∧
    ∀ fs fs' arguments a place, Command.ofArguments arguments = .ok (.draw a) →
      fs.DifferIn place fs' → ¬a.Needs fs place →
        (Succeeds fs arguments ↔ Succeeds fs' arguments) ∧
        (a.select.isSome → (execute fs arguments).1.stdout = (execute fs' arguments).1.stdout ∧
          (Succeeds fs arguments → ∀ path ∈ a.output,
            (execute fs arguments).2.readText path = (execute fs' arguments).2.readText path)) := by
  constructor
  · intro fs arguments a ha hlacks
    rw [Succeeds, execute_eq_run ha]
    exact run_of_lacks hlacks
  · intro fs fs' arguments a place ha H hneeds
    have hneeds' : ¬a.Needs fs' place := fun h => hneeds ((a.needs_congr H).mpr h)
    simp only [Succeeds, execute_eq_run ha]
    exact ⟨⟨run_of_differIn H hneeds, run_of_differIn H.symm hneeds'⟩,
      run_select_of_differIn H hneeds⟩

private theorem locate_rules (fs : Files) : fs.locate "r.json" = .ok ["r.json"] := by
  have hcheck : Files.checkPath "r.json" = .ok () := by
    rw [Files.checkPath, String.contains_char_eq]
    decide
  have hnames : Files.names "r.json" = ["r.json"] := by decide +kernel
  rw [Files.locate, hcheck, hnames]
  rfl

/-- Without rules nothing is drawn; with rules a file for the groups may be there or not. -/
theorem leavesNoTrace_and_sparesGroups_of_select :
    let a : Arguments := { rules := "r.json", groups := some "g.json", select := some "A" }
    let arguments := ["--rules", "r.json", "--groups=g.json", "-s", "A"]
    let fs := Files.empty.set ["r.json"] (.file "[[\"A\", \"1\"]]".toUTF8)
    let fs' := fs.set ["g.json"] (.file "no groups".toUTF8)
    (¬Succeeds .empty arguments ∧ (execute .empty arguments).1.stdout = "" ∧
      (execute .empty arguments).2 = .empty) ∧
    (Succeeds fs arguments ↔ Succeeds fs' arguments) ∧
      (a.select.isSome → (execute fs arguments).1.stdout = (execute fs' arguments).1.stdout ∧
        (Succeeds fs arguments → ∀ path ∈ a.output,
          (execute fs arguments).2.readText path = (execute fs' arguments).2.readText path)) := by
  intro a arguments fs fs'
  have ha : Command.ofArguments arguments = .ok (.draw a) := by decide +kernel
  have hlacks : Lacks Files.empty.readText a := by
    have hread : Files.empty.readText "r.json" = .error .notFound := by
      simp only [Files.readText, Files.read, locate_rules]
      rfl
    exact .rules (e := .unreadableRules "r.json" .notFound) (by rw [loadRules, hread]; rfl)
  have hdiffer : fs.DifferIn ["g.json"] fs' :=
    Files.differIn_set_of_none _ (List.cons_ne_nil _ _) rfl
  have hneeds : ¬a.Needs fs ["g.json"] := by
    rintro (hrules | ⟨_, hconfig, -⟩)
    · have hsame := Except.ok.inj ((locate_rules fs).symm.trans hrules)
      exact absurd hsame (by decide)
    · cases hconfig
  exact ⟨leavesNoTrace_and_sparesGroups.1 .empty arguments a ha hlacks,
    leavesNoTrace_and_sparesGroups.2 fs fs' arguments a ["g.json"] ha hdiffer hneeds⟩

/-- A file that is read for the rules and for the groups can make a run fail. -/
theorem exists_groups_not_succeeds :
    let arguments := ["--rules", "r.json", "--groups", "r.json", "--select", "A"]
    ∃ a fs fs' place, Command.ofArguments arguments = .ok (.draw a) ∧ fs.DifferIn place fs' ∧
      (∀ path ∈ a.groups, fs.locate path = .ok place ∧ fs'.locate path = .ok place) ∧
      Succeeds fs arguments ∧ ¬Succeeds fs' arguments := by
  intro arguments
  let a : Arguments := { rules := "r.json", groups := some "r.json", select := some "A" }
  let good := "[[\"A\", \"1\"]]"
  let bad := "\x7b"
  have ha : Command.ofArguments arguments = .ok (.draw a) := by decide +kernel
  have hread : ∀ text : String,
      (Files.empty.set ["r.json"] (.file text.toUTF8)).readText "r.json" = .ok text := fun text =>
    Files.readText_writeText (Files.writeText_eq_ok_iff.mpr
      ⟨["r.json"], locate_rules .empty, nofun, rfl⟩)
  have hne : ["r.json"] ≠ [] := List.cons_ne_nil _ _
  refine ⟨a, _, _, _, ha, Files.differIn_set good.toUTF8 bad.toUTF8 hne .empty, ?_, ?_, ?_⟩
  · rintro _ ⟨⟩
    exact ⟨locate_rules _, locate_rules _⟩
  · have hrules : ∃ rules, rulesOfText good = .ok rules ∧ rules.map (·.target) = ["A"] := by
      have htargets : (rulesOfText good).toOption.map (·.map (·.target)) = some ["A"] := by
        decide +kernel
      cases h : rulesOfText good with
      | error e =>
        rw [h] at htargets
        cases htargets
      | ok rules =>
        rw [h] at htargets
        exact ⟨rules, rfl, Option.some.inj htargets⟩
    obtain ⟨rules, hrules, htargets⟩ := hrules
    have hload := (loadRules_eq_ok_iff (hread good)).mpr hrules
    have hnothing : ¬Lacks (Files.set .empty ["r.json"] (.file good.toUTF8)).readText a :=
      fun hlacks => by
        cases hlacks with
        | rules h => cases hload.symm.trans h
        | config h => cases h
        | selected h hselect hid =>
          cases hload.symm.trans h
          cases hselect
          exact hid (htargets ▸ List.mem_cons_self)
    obtain ⟨text, hdraw⟩ := exists_draw_eq_ok_iff.mpr hnothing
    rw [Succeeds, execute_eq_run ha, run_eq, hdraw]
  · have hrules : ∀ rules, rulesOfText bad ≠ .ok rules := by
      have hrefused : (rulesOfText bad).isOk = false := by decide +kernel
      intro rules h
      rw [h] at hrefused
      cases hrefused
    rw [Succeeds, execute_eq_run ha]
    refine (run_of_lacks ?_).1
    cases hload : loadRules _ "r.json" with
    | error e => exact .rules hload
    | ok rules => exact (hrules rules ((loadRules_eq_ok_iff (hread bad)).mp hload)).elim

end RulePyramid.CommandLine
