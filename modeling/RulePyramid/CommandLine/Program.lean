import RulePyramid.CommandLine.Arguments
import RulePyramid.Store.Sources
import RulePyramid.View.Json
import RulePyramid.Json.Printer

/-!
The program behind the command line: it draws the rules in a file, or shows the details of one of
them. Nothing is written before the whole text is known. A catalog that cannot be had is replaced
by the fallback and never makes the program fail. The program comes to its files through an
`Access`, so that it is the same for those of a machine and for a tree of files.
-/

namespace RulePyramid.CommandLine

inductive ProgramError where
  | unreadableRules (path : String) (cause : Files.Error)
  | malformedRules (path : String) (cause : Json.Fault)
  | unreadableConfig (path : String) (cause : Files.Error)
  | refusedConfig (path : String) (cause : LayoutConfig.Error Single)
  | unknownRule (id path : String)
  | unwritable (path : String) (cause : Files.Error)
  deriving DecidableEq

def ProgramError.failure : ProgramError → Failure
  | .unreadableRules path cause => ⟨s!"Failed to read rules {path}", [cause.message]⟩
  | .malformedRules path cause => ⟨s!"Failed to parse rules {path}", [cause.message]⟩
  | .unreadableConfig path cause => ⟨s!"Failed to read layout config {path}", [cause.message]⟩
  | .refusedConfig path cause => ⟨s!"Failed to load layout config {path}", [cause.message]⟩
  | .unknownRule id path => ⟨s!"No rule named {id} in {path}", []⟩
  | .unwritable path cause => ⟨s!"Failed to write {path}", [cause.message]⟩

/-! ## Reading the inputs -/

/-- A text is taken as a ruleset if it is one, and as a list of rules otherwise. -/
def rulesOfText (text : String) : Except Json.Fault (List Rule) :=
  match Ruleset.ofText text with
  | .ok ruleset => .ok ruleset.rules
  | .error _ => Rule.listOfText text

def loadRules (read : Files.Reader) (path : String) : Except ProgramError (List Rule) := do
  let content ← (read path).mapError (.unreadableRules path)
  (rulesOfText content).mapError (.malformedRules path)

def loadCatalog (read : Files.Reader) : Option String → Catalog
  | none => .fallback
  | some path => (Catalog.resolve ((fetchGroups read path).mapError (·.failure.chain))).1

def loadConfig (read : Files.Reader) : Option String → Except ProgramError (LayoutConfig Single)
  | none => .ok .default
  | some path => do
    let content ← (read path).mapError (.unreadableConfig path)
    (LayoutConfig.ofText content).mapError (.refusedConfig path)

/-! ## Drawing -/

/-- The text that the program is asked for. -/
def draw (read : Files.Reader) (a : Arguments) : Except ProgramError String := do
  let rules ← loadRules read a.rules
  let catalog := loadCatalog read a.groups
  let config ← loadConfig read a.config
  let json ← match a.select with
    | some id =>
      match RuleDetails.select rules (.ofRules rules) id with
      | some details => pure details.toJson
      | none => throw (.unknownRule id a.rules)
    | none => pure (componentsGraph rules catalog config).toJson
  return json.render (if a.pretty then .pretty else .compact) ++ "\n"

/-- The files that a drawing is made from. -/
def Arguments.inputs (a : Arguments) : List String := a.rules :: [a.groups, a.config].filterMap id

/-! ## Files -/

/-- How a program reads and writes its files. -/
structure Access (m : Type → Type) where
  readText : String → m (Except Files.Error String)
  writeText : String → String → m (Except Files.Error Unit)

namespace Access

/-- The files of a tree. -/
def tree : Access (StateM Files) where
  readText path := fun fs => (fs.readText path, fs)
  writeText path text := fun fs =>
    match fs.writeText path text with
    | .ok fs => (.ok (), fs)
    | .error cause => (.error cause, fs)

variable {m : Type → Type} [Monad m]

/-- Reads some files. All others are missing. -/
def reader (files : Access m) (paths : List String) : m Files.Reader := do
  let contents ← paths.mapM fun path => return (path, ← files.readText path)
  return fun path => (contents.lookup path).getD (.error .notFound)

end Access

/-! ## Runs -/

/-- How a run ends. -/
structure Report where
  exitCode : UInt32
  stdout : String := ""
  failure : Option Failure := none

def Report.ofError (e : ProgramError) : Report := { exitCode := 1, failure := some e.failure }

/-- What goes to standard error. -/
def Report.stderr (r : Report) : String :=
  match r.failure with
  | none => ""
  | some failure =>
    if r.exitCode = 2 then "error: " ++ failure.message ++ "\n" else failure.report ++ "\n"

def usage : String :=
  "Usage: rulegraph --rules <FILE> [--groups <FILE>] [--config <FILE>] [--select <ID>] " ++
    "[--output <FILE>] [--pretty]\n"

def versionText : String := "rulegraph-cli 0.1.0\n"

variable {m : Type → Type} [Monad m]

/-- Runs the program: the text goes to the output file, or else to standard output. -/
def runWith (files : Access m) (a : Arguments) : m Report := do
  match draw (← files.reader a.inputs) a with
  | .error e => return .ofError e
  | .ok text =>
    match a.output with
    | none => return { exitCode := 0, stdout := text }
    | some path =>
      match ← files.writeText path text with
      | .error cause => return .ofError (.unwritable path cause)
      | .ok () => return { exitCode := 0 }

/-- Reads the arguments and runs the program; wrong arguments are refused before any file is
looked at. -/
def executeWith (files : Access m) (arguments : List String) : m Report :=
  match Command.ofArguments arguments with
  | .error e => return { exitCode := 2, failure := some ⟨e.message, []⟩ }
  | .ok .help => return { exitCode := 0, stdout := usage }
  | .ok .version => return { exitCode := 0, stdout := versionText }
  | .ok (.draw a) => runWith files a

/-- Runs the program on a tree of files. -/
def run (fs : Files) (a : Arguments) : Report × Files := (runWith .tree a).run fs

def execute (fs : Files) (arguments : List String) : Report × Files :=
  (executeWith .tree arguments).run fs

end RulePyramid.CommandLine
