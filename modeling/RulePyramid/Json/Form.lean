/-!
What a JSON text says before it is read as anything in particular: the tree of its values, with
numbers as they are spelled, strings that may hold half of a surrogate pair, and objects in which
a name may come more than once. The tree goes as far as the text is JSON. Where the text goes
wrong it has a flaw, so that whoever reads the tree from left to right finds the first fault of
the text, be it a flaw or a value that is not of what is wanted. Values that nobody reads stay in
this form and are only held to the grammar.
-/

namespace RulePyramid.Json

/-- Why a text is refused. -/
inductive Fault where
  /-- The text is not JSON, or says something that no JSON value can hold. -/
  | malformed
  /-- The text ends too early. -/
  | truncated
  /-- The text is JSON, but not of what is wanted. -/
  | mismatch
  deriving DecidableEq

def Fault.message : Fault → String
  | .malformed => "the text is not valid JSON"
  | .truncated => "the text ends too early"
  | .mismatch => "a value is missing or not of the expected type"

/-- Where a text goes wrong: the fault that is found in reading the value there, and the one that
is found in passing over it. -/
structure Flaw where
  reading : Fault
  skipping : Fault
  deriving DecidableEq

/-- A fault that is found in either way. -/
def Flaw.of (fault : Fault) : Flaw := ⟨fault, fault⟩

/-- A number as it is spelled. -/
structure Numeral where
  negative : Bool
  whole : List Nat
  fraction : Option (List Nat)
  /-- The sign and the digits of the power of ten; the sign is true for a negative one. -/
  power : Option (Bool × List Nat)
  deriving DecidableEq

/-- A string is missing where it holds half of a surrogate pair. The flaw of an array or object
is that of the text up to its end; no part of the tree comes after it. -/
inductive Form where
  | null
  | bool (b : Bool)
  | number (n : Numeral)
  | string (s : Option String)
  | array (items : List Form) (flaw : Option Flaw)
  | object (members : List (Option String × Form)) (flaw : Option Flaw)
  | broken (flaw : Flaw)

namespace Form

instance : Inhabited Form := ⟨.null⟩

mutual

/-- Forms of different shapes differ; forms of one shape are compared part by part. -/
def decEq (a b : Form) : Decidable (a = b) :=
  if h : a.ctorIdx = b.ctorIdx then
    match a, b, h with
    | .null, .null, _ => .isTrue rfl
    | .bool b, .bool b', _ => decidable_of_iff (b = b') (by rw [Form.bool.injEq])
    | .number n, .number n', _ => decidable_of_iff (n = n') (by rw [Form.number.injEq])
    | .string s, .string s', _ => decidable_of_iff (s = s') (by rw [Form.string.injEq])
    | .array items flaw, .array items' flaw', _ =>
      have := decEqItems items items'
      decidable_of_iff (items = items' ∧ flaw = flaw') (by rw [Form.array.injEq])
    | .object members flaw, .object members' flaw', _ =>
      have := decEqMembers members members'
      decidable_of_iff (members = members' ∧ flaw = flaw') (by rw [Form.object.injEq])
    | .broken flaw, .broken flaw', _ => decidable_of_iff (flaw = flaw') (by rw [Form.broken.injEq])
  else .isFalse fun heq => h (heq ▸ rfl)

def decEqItems : (as bs : List Form) → Decidable (as = bs)
  | [], [] => .isTrue rfl
  | [], _ :: _ | _ :: _, [] => .isFalse nofun
  | a :: as, b :: bs =>
    have := decEq a b
    have := decEqItems as bs
    decidable_of_iff (a = b ∧ as = bs) (by rw [List.cons.injEq])

def decEqMembers : (as bs : List (Option String × Form)) → Decidable (as = bs)
  | [], [] => .isTrue rfl
  | [], _ :: _ | _ :: _, [] => .isFalse nofun
  | (name, a) :: as, (name', b) :: bs =>
    have := decEq a b
    have := decEqMembers as bs
    decidable_of_iff ((name = name' ∧ a = b) ∧ as = bs) (by rw [List.cons.injEq, Prod.mk.injEq])

end

instance : DecidableEq Form := decEq

def flaw? : Form → Option Flaw
  | .array _ flaw | .object _ flaw => flaw
  | .broken flaw => some flaw
  | _ => none

/-- Passes over a form. -/
def skip (form : Form) : Except Fault Unit :=
  match form.flaw? with
  | some flaw => .error flaw.skipping
  | none => .ok ()

end Form

end RulePyramid.Json
