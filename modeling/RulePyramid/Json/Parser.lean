import RulePyramid.Json.Form

/-!
The grammar of JSON. A reader takes a part of a value off the front of a text and gives back the
rest. Values are read as far as they go: a value comes with the rest of the text, or with the flaw
at which the text breaks off in it. The functions that call each other count down a number that
the length of the text bounds.
-/

namespace RulePyramid.Json

/-- Takes an `α` off the front of a text. -/
abbrev Reader (α : Type) := List Char → Except Fault (α × List Char)

/-! ## Blanks, words and digits -/

def isSpace (c : Char) : Bool := c = ' ' || c = '\n' || c = '\t' || c = '\r'

def skipSpace (cs : List Char) : List Char := cs.dropWhile isSpace

/-- Takes the word, or the part of it with which the text ends too early. -/
def expect : List Char → Reader Unit
  | [], cs => .ok ((), cs)
  | _ :: _, [] => .error .truncated
  | w :: ws, c :: cs => if c = w then expect ws cs else .error .malformed

def digitValue (c : Char) : Nat := c.toNat - '0'.toNat

/-- Takes all digits at the front. -/
def digits (cs : List Char) : List Nat × List Char :=
  ((cs.takeWhile Char.isDigit).map digitValue, cs.dropWhile Char.isDigit)

/-- Takes at least one digit. -/
def someDigits : Reader (List Nat) := fun cs =>
  match digits cs with
  | ([], []) => .error .truncated
  | ([], _) => .error .malformed
  | (ds, rest) => .ok (ds, rest)

/-! ## Numbers -/

/-- The digits before the point: a zero that no digit follows, or digits without one in front. -/
def wholePart : Reader (List Nat) := fun cs => do
  match ← someDigits cs with
  | (0 :: _ :: _, _) => throw .malformed
  | part => return part

def fractionPart : Reader (Option (List Nat))
  | '.' :: cs => do
    let (ds, rest) ← someDigits cs
    return (some ds, rest)
  | cs => .ok (none, cs)

def powerPart : Reader (Option (Bool × List Nat))
  | c :: cs =>
    if c = 'e' || c = 'E' then do
      let (negative, cs) := match cs with
        | '-' :: cs => (true, cs)
        | '+' :: cs => (false, cs)
        | cs => (false, cs)
      let (ds, rest) ← someDigits cs
      return (some (negative, ds), rest)
    else .ok (none, c :: cs)
  | [] => .ok (none, [])

def numeral : Reader Numeral := fun cs => do
  let (negative, cs) := match cs with
    | '-' :: cs => (true, cs)
    | cs => (false, cs)
  let (whole, cs) ← wholePart cs
  let (fraction, cs) ← fractionPart cs
  let (power, cs) ← powerPart cs
  return (⟨negative, whole, fraction, power⟩, cs)

/-! ## Strings -/

def hexValue? (c : Char) : Option Nat :=
  if c.isDigit then some (c.toNat - '0'.toNat)
  else if 'a' ≤ c && c ≤ 'f' then some (c.toNat - 'a'.toNat + 10)
  else if 'A' ≤ c && c ≤ 'F' then some (c.toNat - 'A'.toNat + 10)
  else none

def hexQuad? (a b c d : Char) : Option Nat := do
  return ((← hexValue? a) * 16 + (← hexValue? b)) * 256 + (← hexValue? c) * 16 + (← hexValue? d)

/-- The character that a backslash and a letter stand for. -/
def shortEscape? (c : Char) : Option Char :=
  if c = '"' || c = '\\' || c = '/' then some c
  else if c = 'b' then some '\x08'
  else if c = 'f' then some '\x0c'
  else if c = 'n' then some '\n'
  else if c = 'r' then some '\r'
  else if c = 't' then some '\t'
  else none

/-- How many bytes the characters take. -/
def byteCount (cs : List Char) : Nat := (String.ofList cs).utf8ByteSize

def isHighSurrogate (n : Nat) : Bool := 0xD800 ≤ n && n ≤ 0xDBFF

def isLowSurrogate (n : Nat) : Bool := 0xDC00 ≤ n && n ≤ 0xDFFF

/-- Whether half of a surrogate pair stands alone, whatever the code points go on with. -/
def hasLoneSurrogate : List Nat → Bool
  | [] => false
  | n :: rest =>
    if isLowSurrogate n then true
    else if isHighSurrogate n then
      match rest with
      | [] => false
      | m :: rest => if isLowSurrogate m then hasLoneSurrogate rest else true
    else hasLoneSurrogate rest

/-- The flaw of a string that goes wrong after some code points, the last of which comes first. In
passing over a string nobody looks at surrogates. -/
def stringFlaw (before : List Nat) (fault : Fault) : Flaw :=
  ⟨if hasLoneSurrogate before.reverse then .malformed else fault, fault⟩

/-- The code points of a string up to its closing quote, after those read `before`, the last of
which comes first. An escape gives one code point, also where it is half of a surrogate pair. -/
def codePoints (before : List Nat) : List Char → Except Flaw (List Nat × List Char)
  | [] => .error (stringFlaw before .truncated)
  | c :: rest =>
    if c = '"' then .ok (before.reverse, rest)
    else if c = '\\' then
      match rest with
      | [] => .error (stringFlaw before .truncated)
      | e :: rest =>
        if e = 'u' then
          match rest with
          | a :: b :: c :: d :: rest =>
            match hexQuad? a b c d with
            | some n => codePoints (n :: before) rest
            | none => .error (stringFlaw before .malformed)
          | short =>
            .error (stringFlaw before (if byteCount short < 4 then .truncated else .malformed))
        else
          match shortEscape? e with
          | some c => codePoints (c.toNat :: before) rest
          | none => .error (stringFlaw before .malformed)
    else if c.toNat < 0x20 then .error (stringFlaw before .malformed)
    else codePoints (c.toNat :: before) rest

/-- Joins surrogate pairs; there is no text when half of a pair stands alone. -/
def joinSurrogates : List Nat → Option (List Char)
  | [] => some []
  | n :: rest =>
    if isLowSurrogate n then none
    else if isHighSurrogate n then
      match rest with
      | [] => none
      | m :: rest =>
        if isLowSurrogate m then
          (joinSurrogates rest).map
            (.ofNat ((n - 0xD800) * 0x400 + (m - 0xDC00) + 0x10000) :: ·)
        else none
    else (joinSurrogates rest).map (.ofNat n :: ·)

/-- A string, after its opening quote. -/
def stringTail (cs : List Char) : Except Flaw (Option String × List Char) := do
  let (points, rest) ← codePoints [] cs
  return ((joinSurrogates points).map String.ofList, rest)

/-! ## Values -/

/-- A value as far as it goes, and what comes after it: the rest of the text, or nothing when the
text breaks off in the value. -/
abbrev Reading := Form × Except Flaw (List Char)

namespace Reading

def broken (flaw : Flaw) : Reading := (.broken flaw, .error flaw)

/-- The reading of a value that has no other values in it. -/
def ofToken {α : Type} (form : α → Form) : Except Flaw (α × List Char) → Reading
  | .ok (a, rest) => (form a, .ok rest)
  | .error flaw => broken flaw

end Reading

/-- A word of the grammar that stands for a value, after its first letter. -/
def word (tail : String) (form : Form) (cs : List Char) : Reading :=
  .ofToken (fun () => form) ((expect tail.toList cs).mapError .of)

/-- A number. In passing over one nobody cares why there is no digit. -/
def number (cs : List Char) : Reading :=
  .ofToken .number ((numeral cs).mapError fun fault => ⟨fault, .malformed⟩)

mutual

def value : Nat → List Char → Reading
  | 0, _ => .broken (.of .malformed)
  | fuel + 1, cs =>
    match skipSpace cs with
    | [] => .broken (.of .truncated)
    | c :: rest =>
      if c = '\x7b' then
        match skipSpace rest with
        | [] => (.object [] (some (.of .truncated)), .error (.of .truncated))
        | d :: rest' =>
          if d = '\x7d' then (.object [] none, .ok rest') else members fuel [] (d :: rest')
      else if c = '[' then
        match skipSpace rest with
        | [] => (.array [] (some (.of .truncated)), .error (.of .truncated))
        | d :: rest' =>
          if d = ']' then (.array [] none, .ok rest') else items fuel [] (d :: rest')
      else if c = '"' then .ofToken .string (stringTail rest)
      else if c = 'n' then word "ull" .null rest
      else if c = 't' then word "rue" (.bool true) rest
      else if c = 'f' then word "alse" (.bool false) rest
      else if c = '-' || c.isDigit then number (c :: rest)
      else .broken (.of .malformed)

/-- The items of an array from one on, after those read `before`, the last of which comes
first. -/
def items : Nat → List Form → List Char → Reading
  | 0, _, _ => .broken (.of .malformed)
  | fuel + 1, before, cs =>
    let (item, next) := value fuel cs
    let upTo (flaw : Flaw) : Reading := (.array (item :: before).reverse (some flaw), .error flaw)
    match next with
    | .error flaw => upTo flaw
    | .ok rest =>
      match skipSpace rest with
      | [] => upTo (.of .truncated)
      | c :: rest =>
        if c = ',' then items fuel (item :: before) rest
        else if c = ']' then (.array (item :: before).reverse none, .ok rest)
        else upTo (.of .malformed)

/-- The members of an object from one on, after those read `before`, the last of which comes
first. -/
def members : Nat → List (Option String × Form) → List Char → Reading
  | 0, _, _ => .broken (.of .malformed)
  | fuel + 1, before, cs =>
    let upTo (before : List (Option String × Form)) (flaw : Flaw) : Reading :=
      (.object before.reverse (some flaw), .error flaw)
    match skipSpace cs with
    | [] => upTo before (.of .truncated)
    | c :: rest =>
      if c = '"' then
        match stringTail rest with
        | .error flaw => upTo before flaw
        | .ok (name, rest) =>
          let (form, next) : Reading := match skipSpace rest with
            | [] => .broken (.of .truncated)
            | c :: rest => if c = ':' then value fuel rest else .broken (.of .malformed)
          let before := (name, form) :: before
          match next with
          | .error flaw => upTo before flaw
          | .ok rest =>
            match skipSpace rest with
            | [] => upTo before (.of .truncated)
            | c :: rest =>
              if c = ',' then members fuel before rest
              else if c = '\x7d' then (.object before.reverse none, .ok rest)
              else upTo before (.of .malformed)
      else upTo before (.of .malformed)

end

/-- The value at the front of a text. -/
def Reading.ofText (text : String) : Reading :=
  let cs := text.toList
  value (2 * cs.length + 1) cs

/-- Only blanks may come after a value. -/
def finish : Except Flaw (List Char) → Except Fault Unit
  | .error flaw => .error flaw.reading
  | .ok rest => if (skipSpace rest).isEmpty then .ok () else .error .malformed

/-- A whole text: one value, with blanks around it. -/
def Form.ofText (text : String) : Except Fault Form := do
  let (form, next) := Reading.ofText text
  finish next
  return form

end RulePyramid.Json
