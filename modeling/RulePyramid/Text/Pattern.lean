import RulePyramid.Text.Word

/-!
Patterns of characters, and the search of a text for them. A pattern is a row of pieces: one
character of a class, any number of characters of a class, or the border of a word. A text is
searched from the left, and what is found once does not count for the next find. Where a pattern
fits in several ways each piece takes as much as it can, the earlier ones first.
-/

namespace RulePyramid.Text

inductive Piece where
  /-- One character of a class. -/
  | one (isIn : Char → Bool)
  /-- Any number of characters of a class. -/
  | many (isIn : Char → Bool)
  /-- A place with a word character on one side only. -/
  | wordBorder

abbrev Pattern := List Piece

/-- Whether a word begins or ends between two characters. The ends of a text are no word
characters. -/
def isWordBorder (before after : Option Char) : Bool :=
  before.any isWordChar != after.any isWordChar

namespace Pattern

/-- Takes as many characters of a class as possible, but gives back as many of them as `next` needs
to fit. -/
def fitMany (isIn : Char → Bool) (next : Option Char → List Char → Option Nat)
    (before : Option Char) : List Char → Option Nat
  | [] => next before []
  | c :: cs =>
    if isIn c then
      ((fitMany isIn next (some c) cs).map (· + 1)).or (next before (c :: cs))
    else next before (c :: cs)

/-- How many characters at the front of a text a pattern fits, if it does. The character in front of
the text is given. -/
def fit : Pattern → Option Char → List Char → Option Nat
  | [], _, _ => some 0
  | .one _ :: _, _, [] => none
  | .one isIn :: p, _, c :: cs => if isIn c then (fit p (some c) cs).map (· + 1) else none
  | .many isIn :: p, before, cs => fitMany isIn (fit p) before cs
  | .wordBorder :: p, before, cs =>
    if isWordBorder before cs.head? then fit p before cs else none

/-- Cuts a text into what is found of a pattern and the single characters in between. A find has at
least one character. -/
def split (p : Pattern) (before : Option Char) : List Char → List (Char ⊕ List Char)
  | [] => []
  | c :: cs =>
    match p.fit before (c :: cs) with
    | some (n + 1) =>
      .inr (c :: cs.take n) :: split p (c :: cs.take n).getLast? (cs.drop n)
    | _ => .inl c :: split p (some c) cs
termination_by cs => cs.length
decreasing_by
  · simp only [List.length_drop, List.length_cons]
    omega
  · simp

/-- What is found, from left to right. -/
def findAll (p : Pattern) (cs : List Char) : List (List Char) :=
  (p.split none cs).filterMap Sum.getRight?

/-- Puts another text in the place of each find. -/
def replaceAll (p : Pattern) (other cs : List Char) : List Char :=
  (p.split none cs).flatMap (Sum.elim (fun c => [c]) fun _ => other)

end Pattern

end RulePyramid.Text
