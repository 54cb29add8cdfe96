/-
  DataAccess.Text.Blank — Unicode white space, trimming and words.

  The blanks are the property White_Space.  `trimChars` cuts blanks from both
  ends and `words` splits at runs of blanks.
-/
import DataAccess.Text.Ranges

namespace DataAccess.Text

/-- The property White_Space. -/
def blankRanges : Ranges := [
  (0x9, 0xD), (0x20, 0x20), (0x85, 0x85), (0xA0, 0xA0), (0x1680, 0x1680),
  (0x2000, 0x200A), (0x2028, 0x2029), (0x202F, 0x202F), (0x205F, 0x205F),
  (0x3000, 0x3000)]

/-- The character is white space. -/
def isBlank (c : Char) : Bool := blankRanges.contains c.toNat

/-- The characters without the blanks at their two ends. -/
def trimChars (cs : List Char) : List Char :=
  ((cs.dropWhile isBlank).reverse.dropWhile isBlank).reverse

/-- Splits at blanks; `word` holds the characters since the last one, last
first. -/
def splitWords (word : List Char) : List Char → List (List Char)
  | [] => if word.isEmpty then [] else [word.reverse]
  | c :: cs =>
      if isBlank c then
        if word.isEmpty then splitWords [] cs else word.reverse :: splitWords [] cs
      else splitWords (c :: word) cs

/-- The longest runs of characters that are not blank, in order. -/
def words (s : String) : List String := (splitWords [] s.toList).map String.ofList

end DataAccess.Text
