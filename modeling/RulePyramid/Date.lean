import RulePyramid.Text.Blank

/-!
Days of the Gregorian calendar, carried back before its introduction and on to a bounded year.
The text of a day is year, month and day with hyphens between them; a year of other than four
digits has a sign. On reading, blanks may stand in front of each part and at the end.
-/

namespace RulePyramid

namespace Date

def isLeap (year : Int) : Bool := year % 4 = 0 && (year % 100 ≠ 0 || year % 400 = 0)

def daysInMonth (year : Int) (month : Nat) : Nat :=
  if month = 2 then (if isLeap year then 29 else 28)
  else if month = 4 ∨ month = 6 ∨ month = 9 ∨ month = 11 then 30
  else 31

def minYear : Int := -262143

def maxYear : Int := 262142

/-- The day exists, in a year between the bounds. -/
def Valid (year : Int) (month day : Nat) : Prop :=
  minYear ≤ year ∧ year ≤ maxYear ∧ 1 ≤ month ∧ month ≤ 12 ∧ 1 ≤ day ∧
    day ≤ daysInMonth year month

instance {year month day} : Decidable (Valid year month day) :=
  inferInstanceAs (Decidable (_ ∧ _))

end Date

structure Date where
  year : Int
  month : Nat
  day : Nat
  valid : Date.Valid year month day
  deriving DecidableEq

namespace Date

def of? (year : Int) (month day : Nat) : Option Date :=
  if h : Valid year month day then some ⟨year, month, day, h⟩ else none

/-! ## Writing -/

/-- The digits of a number, with zeros in front up to a width. -/
def padded (width n : Nat) : List Char :=
  let digits := Nat.toDigits 10 n
  List.replicate (width - digits.length) '0' ++ digits

def yearChars (year : Int) : List Char :=
  if 0 ≤ year ∧ year ≤ 9999 then padded 4 year.natAbs
  else (if year < 0 then '-' else '+') :: padded 4 year.natAbs

def chars (d : Date) : List Char :=
  yearChars d.year ++ '-' :: padded 2 d.month ++ '-' :: padded 2 d.day

def text (d : Date) : String := .ofList d.chars

/-! ## Reading -/

/-- Takes a number of at least one and at most `limit` digits off the front. -/
def takeNumber (limit : Nat) (cs : List Char) : Option (Nat × List Char) :=
  match (cs.take limit).takeWhile Char.isDigit with
  | [] => none
  | ds => some (ds.foldl (fun n c => n * 10 + (c.toNat - '0'.toNat)) 0, cs.drop ds.length)

/-- A year has at most four digits, or any number of them after a sign. -/
def takeYear (cs : List Char) : Option (Int × List Char) :=
  match Text.trimFront cs with
  | '-' :: cs => (takeNumber cs.length cs).map fun (n, rest) => (-n, rest)
  | '+' :: cs => (takeNumber cs.length cs).map fun (n, rest) => (n, rest)
  | cs => (takeNumber 4 cs).map fun (n, rest) => (n, rest)

/-- A hyphen and a number of one or two digits. -/
def takePart (cs : List Char) : Option (Nat × List Char) :=
  match Text.trimFront cs with
  | '-' :: cs => takeNumber 2 (Text.trimFront cs)
  | _ => none

def ofChars? (cs : List Char) : Option Date := do
  let (year, cs) ← takeYear cs
  let (month, cs) ← takePart cs
  let (day, cs) ← takePart cs
  if (Text.trimFront cs).isEmpty then of? year month day else none

def ofText? (s : String) : Option Date := ofChars? s.toList

end Date

end RulePyramid
