/-!
The arguments of the command line. Each setting has a long name after two hyphens and the first
letter of it after one; its value stands after an equals sign, right after the letter, or in the
next argument. A setting may be given once.
-/

namespace RulePyramid.CommandLine

/-- The settings that have a value. -/
inductive Setting where
  | rules
  | groups
  | config
  | select
  | output
  deriving DecidableEq

namespace Setting

def name : Setting → String
  | .rules => "rules"
  | .groups => "groups"
  | .config => "config"
  | .select => "select"
  | .output => "output"

def all : List Setting := [.rules, .groups, .config, .select, .output]

def ofName? (name : String) : Option Setting := all.find? (·.name = name)

def ofLetter? (letter : Char) : Option Setting := all.find? (·.name.toList.head? = some letter)

/-- All values but the id of a rule are paths, which may not be empty. -/
def isPath : Setting → Bool
  | .select => false
  | _ => true

end Setting

/-- What the program is asked for. -/
structure Arguments where
  rules : String
  groups : Option String := none
  config : Option String := none
  select : Option String := none
  output : Option String := none
  pretty : Bool := false
  deriving DecidableEq

inductive Command where
  | draw (arguments : Arguments)
  | help
  | version
  deriving DecidableEq

inductive ArgumentError where
  | unexpected (argument : String)
  | missingValue (setting : Setting)
  | emptyValue (setting : Setting)
  | needlessValue (argument : String)
  | repeated (name : String)
  | missing (setting : Setting)
  deriving DecidableEq

def ArgumentError.message : ArgumentError → String
  | .unexpected argument => s!"unexpected argument {argument}"
  | .missingValue setting => s!"--{setting.name} needs a value"
  | .emptyValue setting => s!"the value of --{setting.name} is empty"
  | .needlessValue argument => s!"{argument} takes no value"
  | .repeated name => s!"--{name} is given more than once"
  | .missing setting => s!"--{setting.name} is missing"

/-- What has been given so far. -/
structure Given where
  values : List (Setting × String) := []
  pretty : Bool := false

namespace Given

def value? (g : Given) (setting : Setting) : Option String := g.values.lookup setting

def add (g : Given) (setting : Setting) (value : String) : Except ArgumentError Given :=
  if (g.value? setting).isSome then .error (.repeated setting.name)
  else if setting.isPath ∧ value = "" then .error (.emptyValue setting)
  else .ok { g with values := (setting, value) :: g.values }

def setPretty (g : Given) : Except ArgumentError Given :=
  if g.pretty then .error (.repeated "pretty") else .ok { g with pretty := true }

def command (g : Given) : Except ArgumentError Command :=
  match g.value? .rules with
  | none => .error (.missing .rules)
  | some rules => .ok (.draw {
      rules
      groups := g.value? .groups
      config := g.value? .config
      select := g.value? .select
      output := g.value? .output
      pretty := g.pretty })

end Given

/-- What a single argument says. -/
inductive Argument where
  /-- A setting with its value, or with the value to come. -/
  | assign (setting : Setting) (value : Option String)
  | pretty
  | help
  | version
  /-- Only positional arguments follow. -/
  | rest

/-- The name and the value around the first equals sign. -/
def splitValue (cs : List Char) : String × Option String :=
  match cs.dropWhile (· ≠ '=') with
  | [] => (.ofList cs, none)
  | _ :: value => (.ofList (cs.takeWhile (· ≠ '=')), some (.ofList value))

def Argument.ofLong (argument : String) (cs : List Char) : Except ArgumentError Argument :=
  let (name, value) := splitValue cs
  let flag (a : Argument) : Except ArgumentError Argument :=
    if value.isSome then .error (.needlessValue argument) else .ok a
  match Setting.ofName? name with
  | some setting => .ok (.assign setting value)
  | none =>
    if name = "pretty" then flag .pretty
    else if name = "help" then flag .help
    else if name = "version" then flag .version
    else .error (.unexpected argument)

def Argument.ofShort (argument : String) (letter : Char) (cs : List Char) :
    Except ArgumentError Argument :=
  match Setting.ofLetter? letter with
  | some setting => .ok (.assign setting (match cs with
    | [] => none
    | '=' :: value => some (.ofList value)
    | value => some (.ofList value)))
  | none =>
    if letter = 'h' then .ok .help
    else if letter = 'V' then .ok .version
    else .error (.unexpected argument)

def Argument.ofText (argument : String) : Except ArgumentError Argument :=
  match argument.toList with
  | ['-', '-'] => .ok .rest
  | '-' :: '-' :: cs => ofLong argument cs
  | '-' :: letter :: cs => ofShort argument letter cs
  | _ => .error (.unexpected argument)

/-- An argument that can be the value of the setting before it: a hyphen stands only alone. -/
def isValue (argument : String) : Bool :=
  match argument.toList with
  | '-' :: _ :: _ => false
  | _ => true

/-- Reads the arguments from left to right after what has been given. -/
def Given.read (g : Given) : List String → Except ArgumentError Command
  | [] => g.command
  | argument :: rest => do
    match ← Argument.ofText argument with
    | .help => return .help
    | .version => return .version
    | .pretty => Given.read (← g.setPretty) rest
    | .assign setting (some value) => Given.read (← g.add setting value) rest
    | .assign setting none =>
      match rest with
      | value :: rest =>
        if isValue value then Given.read (← g.add setting value) rest
        else throw (.missingValue setting)
      | [] => throw (.missingValue setting)
    | .rest =>
      match rest with
      | [] => g.command
      | positional :: _ => throw (.unexpected positional)

def Command.ofArguments (arguments : List String) : Except ArgumentError Command :=
  Given.read {} arguments

end RulePyramid.CommandLine
