/-
  DataAccess.Text.LowerCase — lower-case forms of texts.

  Each character goes to its lower-case form, with two rules beyond the
  table: the capital I with a dot goes to two characters, and the capital
  sigma takes its final form at the end of a word.  A sigma ends a word if,
  skipping marks and joiners, a letter with case stands before it and none
  after it.
-/
import DataAccess.Text.CaseTable

namespace DataAccess.Text

/-- The lower-case form of one character out of context. -/
def lowerChar (c : Char) : List Char :=
  if c = '\u0130' then ['i', '\u0307']
  else [Char.ofNat ((Shift.target? lowerShifts c.toNat).getD c.toNat)]

/-- Going away from a place in a text, marks and joiners aside, the first
character is a letter with case. -/
def meetsCased (away : List Char) : Bool :=
  match away.dropWhile (fun c => ignorableRanges.contains c.toNat) with
  | [] => false
  | c :: _ => casedRanges.contains c.toNat

/-- The lower-case form of the capital sigma between two texts, the one
before it given last character first. -/
def lowerSigma (before after : List Char) : Char :=
  if meetsCased before && !meetsCased after then 'ς' else 'σ'

/-- Lower-case forms of a text; `before` is what stands before it, last
character first. -/
def lowerFrom (before : List Char) : List Char → List Char
  | [] => []
  | c :: cs =>
      (if c = 'Σ' then [lowerSigma before cs] else lowerChar c) ++ lowerFrom (c :: before) cs

/-- The lower-case form of a text. -/
def lowercase (s : String) : String := String.ofList (lowerFrom [] s.toList)

end DataAccess.Text
