/-!
A tree of files. Every place is given by the names on the way to it from the root, which is a
directory. A path is a text in which slashes separate names; empty names and single dots stand for
the directory itself, double dots for the one above it. Paths are those of POSIX: only the slash
separates names, and letters of different case are different. The tree has no links, no permissions
and no special files: a place is empty, a file or a directory, and what is there may be read and
replaced.
-/

namespace RulePyramid

inductive Files.Entry where
  | file (content : ByteArray)
  | directory

/-- A place is empty unless it has an entry. -/
structure Files where
  entry? : List String → Option Files.Entry

namespace Files

inductive Error where
  | notFound
  | notDirectory
  | isDirectory
  | exists
  | invalidName
  | nameTooLong
  | notText
  /-- Anything else, in the words of the operating system. -/
  | other (message : String)
  deriving DecidableEq

def Error.message : Error → String
  | .notFound => "No such file or directory (os error 2)"
  | .notDirectory => "Not a directory (os error 20)"
  | .isDirectory => "Is a directory (os error 21)"
  | .exists => "File exists (os error 17)"
  | .invalidName => "file name contained an unexpected NUL byte"
  | .nameTooLong => "File name too long (os error 36)"
  | .notText => "stream did not contain valid UTF-8"
  | .other message => message

/-- Gives the text of the file at a path. -/
abbrev Reader := String → Except Error String

def empty : Files := ⟨fun _ => none⟩

/-- What is at a place. -/
def at? (fs : Files) : List String → Option Entry
  | [] => some .directory
  | place => fs.entry? place

def set (fs : Files) (place : List String) (e : Entry) : Files :=
  ⟨fun p => if p = place then some e else fs.entry? p⟩

/-! ## Paths -/

/-- How many bytes a name may have. -/
def nameLimit : Nat := 255

/-- How many bytes a path may have. -/
def pathLimit : Nat := 4095

/-- Checks a path as a text, before any name of it is looked up. -/
def checkPath (path : String) : Except Error Unit :=
  if path.contains '\x00' then .error .invalidName
  else if pathLimit < path.utf8ByteSize then .error .nameTooLong
  else .ok ()

/-- The place of a name in a directory. -/
def child (place : List String) (name : String) : Except Error (List String) :=
  if nameLimit < name.utf8ByteSize then .error .nameTooLong else .ok (place ++ [name])

/-- Follows names from a place on. Only the last one may lead to an empty place. -/
def follow (fs : Files) (place : List String) : List String → Except Error (List String)
  | [] => .ok place
  | name :: names =>
    match fs.at? place with
    | none => .error .notFound
    | some (.file _) => .error .notDirectory
    | some .directory =>
      if name = "" ∨ name = "." then follow fs place names
      else if name = ".." then follow fs place.dropLast names
      else
        match child place name with
        | .error e => .error e
        | .ok place => follow fs place names

/-- The names between the slashes of a path. -/
def names (path : String) : List String := (path.toList.splitOn '/').map String.ofList

/-- The place that a path leads to. -/
def locate (fs : Files) (path : String) : Except Error (List String) := do
  checkPath path
  fs.follow [] (names path)

/-- The path of a name in the directory that another path leads to. -/
def join (dir name : String) : String :=
  if dir.toList.getLast?.all (· = '/') then dir ++ name else dir ++ "/" ++ name

/-- The names of the directory that a path is in. -/
def parentNames (path : String) : List String :=
  ((names path).reverse.dropWhile fun name => name = "" ∨ name = ".").drop 1 |>.reverse

/-! ## Reading -/

def contains (fs : Files) (path : String) : Bool :=
  match fs.locate path with
  | .ok place => (fs.at? place).isSome
  | .error _ => false

def read (fs : Files) (path : String) : Except Error ByteArray := do
  match fs.at? (← fs.locate path) with
  | none => throw .notFound
  | some .directory => throw .isDirectory
  | some (.file content) => return content

/-- The content of a file as text. -/
def readText (fs : Files) : Reader := fun path => do
  match String.fromUTF8? (← fs.read path) with
  | some s => return s
  | none => throw .notText

/-! ## Writing -/

def write (fs : Files) (path : String) (content : ByteArray) : Except Error Files := do
  let place ← fs.locate path
  match fs.at? place with
  | some .directory => throw .isDirectory
  | _ => return fs.set place (.file content)

def writeText (fs : Files) (path text : String) : Except Error Files := fs.write path text.toUTF8

/-- Makes the directories on the way that are missing, the outer ones first. A file in the way is an
error; what was made before it stays. -/
def makeDirectories (fs : Files) (place : List String) : List String → Except Error Unit × Files
  | [] => (.ok (), fs)
  | name :: names =>
    if name = "" ∨ name = "." then makeDirectories fs place names
    else if name = ".." then makeDirectories fs place.dropLast names
    else
      match child place name with
      | .error e => (.error e, fs)
      | .ok place =>
        match fs.at? place with
        | none => makeDirectories (fs.set place .directory) place names
        | some .directory => makeDirectories fs place names
        | some (.file _) => (.error (if names.isEmpty then .exists else .notDirectory), fs)

/-- Makes the directory that a path is in. -/
def makeParent (fs : Files) (path : String) : Except Error Unit × Files :=
  let names := parentNames path
  match checkPath ("/".intercalate names) with
  | .error e => (.error e, fs)
  | .ok () => fs.makeDirectories [] names

/-- Removes a place and everything below it. -/
def remove (fs : Files) (path : String) : Files :=
  match fs.locate path with
  | .ok place => ⟨fun p => if place.isPrefixOf p then none else fs.entry? p⟩
  | .error _ => fs

end Files

end RulePyramid
