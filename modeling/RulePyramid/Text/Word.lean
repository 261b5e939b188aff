import RulePyramid.Text.Word.Table

/-!
Words: the longest runs of word characters in a text.
-/

namespace RulePyramid.Text

def isWordChar (c : Char) : Bool := wordCharacters.contains c

/-- The words of a text from left to right. -/
def words : List Char → List (List Char)
  | [] => []
  | c :: rest =>
    if isWordChar c then
      (c :: rest.takeWhile isWordChar) :: words (rest.dropWhile isWordChar)
    else words rest
termination_by cs => cs.length
decreasing_by
  · simpa [Nat.lt_succ_iff] using (List.dropWhile_sublist isWordChar).length_le
  · simp

end RulePyramid.Text
