import RulePyramid.Json.Parser
import RulePyramid.Json.Number
import RulePyramid.Json.Value

/-!
Reading values of known types. A form is read from left to right, and the first fault counts. A
record may be spelled as an object or as an array of its fields in order, where fields with a
default may be left out at the end. Unknown names in an object are skipped, a known name may come
only once, and null stands for a missing value only where a value may be missing.
-/

namespace RulePyramid.Json

/-- Reads an `α` from a form. -/
abbrev Decoder (α : Type) := Form → Except Fault α

/-- What is wrong with a form that is not of what is wanted. A number beyond the doubles and a
string with half of a surrogate pair are malformed wherever they are read. -/
def Form.fault : Form → Fault
  | .number n => match n.number with
    | .ok _ => .mismatch
    | .error fault => fault
  | .string none => .malformed
  | .broken flaw => flaw.reading
  | _ => .mismatch

/-- Comes to the end of an array or object. -/
def close : Option Flaw → Except Fault Unit
  | none => .ok ()
  | some flaw => .error flaw.reading

/-! ## Simple types -/

namespace Decoder

def text : Decoder String
  | .string (some s) => .ok s
  | form => .error form.fault

/-- A value, or null for none. -/
def nullable {α : Type} (decode : Decoder α) : Decoder (Option α)
  | .null => .ok none
  | form => some <$> decode form

def list {α : Type} (decode : Decoder α) : Decoder (List α)
  | .array items flaw => do
    let as ← items.mapM decode
    close flaw
    return as
  | form => .error form.fault

/-- The name of an alternative that holds nothing: a string, or the name of the only member of an
object, which is null. -/
def name : Decoder String
  | .object [(name, .null)] none => text (.string name)
  | form => text form

/-- An integer between two bounds. -/
def integerIn (low high : Int) : Decoder Int
  | .number n => do
    match ← n.number with
    | .integer k => if low ≤ k && k ≤ high then return k else throw .mismatch
    | .real _ => throw .mismatch
  | form => .error form.fault

/-- A signed integer of sixty-four bits. -/
def int64 : Decoder Int := integerIn Int64.minValue.toInt Int64.maxValue.toInt

/-- A natural number of so many bits. -/
def natural (bits : Nat) : Decoder Nat := fun form => do
  return (← integerIn 0 ((1 <<< bits : Nat) - 1) form).toNat

/-- A number in single precision; an integer is rounded once, any other number from a double. -/
def single : Decoder Single
  | .number n => do
    match ← n.number with
    | .integer k => return .ofInt k
    | .real x => return x.convert
  | form => .error form.fault

end Decoder

/-! ## Records -/

/-- A field of the records `α`: its name, whether it has to be given, and how it gets the value
that a form stands for. -/
structure RecordField (α : Type) where
  name : String
  needed : Bool
  put : α → Decoder α

namespace RecordField

variable {α β : Type}

def required (name : String) (decode : Decoder β) (set : α → β → α) : RecordField α :=
  ⟨name, true, fun a form => return set a (← decode form)⟩

/-- A field that keeps the value it has when it is not given. -/
def optional (name : String) (decode : Decoder β) (set : α → β → α) : RecordField α :=
  ⟨name, false, fun a form => return set a (← decode form)⟩

end RecordField

namespace Decoder

variable {α : Type}

/-- Reads the members of an object, after those with the names in `given`. A name that is not that
of a field goes to `other`. Gives the record and the names of the fields that are given. -/
def readMembers (fields : List (RecordField α)) (other : α → String → Decoder α)
    (given : List String) (a : α) : List (Option String × Form) → Except Fault (α × List String)
  | [] => .ok (a, given)
  | (none, _) :: _ => .error .malformed
  | (some name, form) :: rest => do
    match fields.find? (·.name = name) with
    | none => readMembers fields other given (← other a name form) rest
    | some field =>
      if name ∈ given then throw .mismatch
      else readMembers fields other (name :: given) (← field.put a form) rest

/-- All fields that have to be given are. -/
def isComplete (fields : List (RecordField α)) (given : List String) : Bool :=
  fields.all fun field => !field.needed || given.contains field.name

/-- Reads an object, starting from the record `a`. -/
def recordOfMembers (fields : List (RecordField α)) (other : α → String → Decoder α) (a : α)
    (members : List (Option String × Form)) (flaw : Option Flaw) : Except Fault α := do
  let (a, given) ← readMembers fields other [] a members
  close flaw
  if isComplete fields given then return a else throw .mismatch

/-- Reads an array. After the last field there must not be as much as a comma. -/
def recordOfItems (a : α) : List (RecordField α) → List Form → Option Flaw → Except Fault α
  | [], [], flaw => do
    close flaw
    return a
  | [], _ :: _, _ => .error .malformed
  | field :: fields, [], flaw => do
    close flaw
    if isComplete (field :: fields) [] then return a else throw .mismatch
  | field :: fields, form :: forms, flaw => do
    recordOfItems (← field.put a form) fields forms flaw

/-- Passes over a member with an unknown name. -/
def skipMember (a : α) (_ : String) : Decoder α := fun form => do
  form.skip
  return a

/-- Reads a record, starting from the record `a`. -/
def record (fields : List (RecordField α)) (a : α) : Decoder α
  | .object members flaw => recordOfMembers fields skipMember a members flaw
  | .array items flaw => recordOfItems a fields items flaw
  | form => .error form.fault

end Decoder

/-! ## Values of any shape -/

mutual

/-- A value with at most `room` arrays and objects inside one another. The members of its
objects are sorted. -/
def ofForm (room : Nat) : Decoder Json
  | .null => .ok .null
  | .bool b => .ok (.bool b)
  | .number n => do
    match ← n.number with
    | .integer k => return .integer k
    | .real x => return .double x
  | .string (some s) => .ok (.string s)
  | .string none => .error .malformed
  | .array items flaw =>
    match room with
    | 0 => .error .malformed
    | room + 1 => do
      let items ← ofItems room items
      close flaw
      return .array items
  | .object members flaw =>
    match room with
    | 0 => .error .malformed
    | room + 1 => do
      let members ← ofMembers room members
      close flaw
      return .object (sortMembers members)
  | .broken flaw => .error flaw.reading

def ofItems (room : Nat) : List Form → Except Fault (List Json)
  | [] => .ok []
  | form :: forms => do return (← ofForm room form) :: (← ofItems room forms)

def ofMembers (room : Nat) : List (Option String × Form) → Except Fault (List (String × Json))
  | [] => .ok []
  | (none, _) :: _ => .error .malformed
  | (some name, form) :: members => do
    return (name, ← ofForm room form) :: (← ofMembers room members)

end

/-- How many arrays and objects may stand inside one another in a text. -/
def depthLimit : Nat := 127

/-- Reads a whole text. -/
def decodeText {α : Type} (decode : Decoder α) (s : String) : Except Fault α := do
  let (form, next) := Reading.ofText s
  let a ← decode form
  finish next
  return a

end RulePyramid.Json
