/-
  DataAccess.Pattern.CharSet — sets of characters in patterns.

  A set is kept as the expression that describes it, and membership is
  evaluated on that expression.  A set is closed under case by asking for
  all the characters that fold to the same character.
-/
import DataAccess.Pattern.Property
import DataAccess.Pattern.Script
import DataAccess.Text.Blank
import DataAccess.Text.CaseTable

namespace DataAccess.Pattern

open DataAccess.Text

/-! ## §1. Sets. -/

/-- A set of characters, by their code points. -/
inductive CharSet where
  | ranges (rs : Ranges)
  | union (s t : CharSet)
  | inter (s t : CharSet)
  /-- The characters in exactly one of two sets. -/
  | differ (s t : CharSet)
  | compl (s : CharSet)
  /-- All case variants of the characters of a set. -/
  | folded (s : CharSet)
  /-- The case variants among ASCII letters. -/
  | foldedAscii (s : CharSet)

instance : Inhabited CharSet := ⟨.ranges []⟩

/-- The characters that fold to the same character, itself among them. -/
def caseVariants (n : Nat) : List Nat :=
  let base := (Shift.target? foldShifts n).getD n
  base :: Shift.sources foldShifts base

/-- An ASCII letter in its other case, another character as it is. -/
def otherAscii (n : Nat) : Nat :=
  if 0x41 ≤ n ∧ n ≤ 0x5A then n + 32
  else if 0x61 ≤ n ∧ n ≤ 0x7A then n - 32
  else n

namespace CharSet

/-- The code point is in the set. -/
def mem : CharSet → Nat → Bool
  | ranges rs, n => rs.contains n
  | union s t, n => s.mem n || t.mem n
  | inter s t, n => s.mem n && t.mem n
  | differ s t, n => s.mem n ^^ t.mem n
  | compl s, n => !s.mem n
  | folded s, n => (caseVariants n).any s.mem
  | foldedAscii s, n => s.mem n || s.mem (otherAscii n)

/-- No character. -/
def empty : CharSet := .ranges []

/-- One character. -/
def single (c : Char) : CharSet := .ranges [(c.toNat, c.toNat)]

/-- The first set without the second. -/
def without (s t : CharSet) : CharSet := .inter s (.compl t)

/-- The set, or its complement. -/
def negatedIf (negated : Bool) (s : CharSet) : CharSet := if negated then .compl s else s

/-- Ranges for the set, those of a set closed under case being taken from the
set itself. -/
def toRanges : CharSet → Ranges
  | ranges rs => rs.tidy
  | union s t => Ranges.tidy (s.toRanges ++ t.toRanges)
  | inter s t =>
      Ranges.gapsFrom 0 (Ranges.tidy (s.toRanges.gapsFrom 0 ++ t.toRanges.gapsFrom 0))
  | differ s t =>
      let left := Ranges.gapsFrom 0 (Ranges.tidy (s.toRanges.gapsFrom 0 ++ t.toRanges))
      let right := Ranges.gapsFrom 0 (Ranges.tidy (s.toRanges ++ t.toRanges.gapsFrom 0))
      Ranges.tidy (left ++ right)
  | compl s => s.toRanges.gapsFrom 0
  | folded s => s.toRanges
  | foldedAscii s => s.toRanges

end CharSet

/-! ## §2. Sets with a name. -/

/-- The ranges of a category that is in the table. -/
def categoryRanges (name : String) : Ranges := (category? name).getD []

/-- The characters that have a property. -/
def Property.set (p : Property) : CharSet :=
  .without (.union (.ranges (p.categories.flatMap categoryRanges)) (.ranges (Ranges.decode p.plus)))
    (.ranges (Ranges.decode p.minus))

/-- The characters of a script. -/
def Script.set (s : Script) : CharSet := .ranges (Ranges.decode s.own)

/-- The characters that are used with a script. -/
def Script.usedSet (s : Script) : CharSet :=
  .without (.ranges (Ranges.decode s.own ++ Ranges.decode s.borrowed))
    (.ranges (Ranges.decode s.lent))

/-- The set of a property that is in the table. -/
def propertySet (name : String) : CharSet := ((property? name).map (·.set)).getD .empty

/-- Decimal digits. -/
def digitSet : CharSet := .ranges (categoryRanges "nd")

/-- White space. -/
def blankSet : CharSet := .ranges blankRanges

/-- The characters of words: letters, marks, digits, connecting punctuation
and joiners. -/
def wordSet : CharSet :=
  .ranges (CharSet.toRanges (.union (.ranges (["m", "nd", "pc"].flatMap categoryRanges))
    (.union (propertySet "alphabetic") (propertySet "joincontrol"))))

/-- Decimal digits in ASCII. -/
def asciiDigitSet : CharSet := .ranges [(0x30, 0x39)]

/-- White space in ASCII. -/
def asciiBlankSet : CharSet := .ranges [(0x9, 0xD), (0x20, 0x20)]

/-- The characters of words in ASCII. -/
def asciiWordSet : CharSet := .ranges [(0x30, 0x39), (0x41, 0x5A), (0x5F, 0x5F), (0x61, 0x7A)]

/-- The classes of ASCII characters that a bracket may name. -/
def asciiClass? (name : String) : Option CharSet :=
  match name with
  | "alnum" => some (.ranges [(0x30, 0x39), (0x41, 0x5A), (0x61, 0x7A)])
  | "alpha" => some (.ranges [(0x41, 0x5A), (0x61, 0x7A)])
  | "ascii" => some (.ranges [(0x0, 0x7F)])
  | "blank" => some (.ranges [(0x9, 0x9), (0x20, 0x20)])
  | "cntrl" => some (.ranges [(0x0, 0x1F), (0x7F, 0x7F)])
  | "digit" => some asciiDigitSet
  | "graph" => some (.ranges [(0x21, 0x7E)])
  | "lower" => some (.ranges [(0x61, 0x7A)])
  | "print" => some (.ranges [(0x20, 0x7E)])
  | "punct" => some (.ranges [(0x21, 0x2F), (0x3A, 0x40), (0x5B, 0x60), (0x7B, 0x7E)])
  | "space" => some asciiBlankSet
  | "upper" => some (.ranges [(0x41, 0x5A)])
  | "word" => some asciiWordSet
  | "xdigit" => some (.ranges [(0x30, 0x39), (0x41, 0x46), (0x61, 0x66)])
  | _ => none

/-! ## §3. Names of properties. -/

/-- A name of a property in plain form: ASCII letters in lower case, without
blanks, underscores, hyphens and characters outside of ASCII. -/
def plainChars (cs : List Char) : List Char :=
  (cs.filter fun c => !(c = ' ' || c = '_' || c = '-' || 0x80 ≤ c.toNat)).map Char.toLower

/-- A name without a leading "is", in plain form.  The abbreviation "isc" is
a name of its own. -/
def plainName (cs : List Char) : String :=
  match cs with
  | a :: b :: rest =>
      if a.toLower = 'i' ∧ b.toLower = 's' then
        if plainChars rest = ['c'] then "isc" else String.ofList (plainChars rest)
      else String.ofList (plainChars cs)
  | _ => String.ofList (plainChars cs)

/-- The characters of a general category, in plain form. -/
def categorySet? (name : String) : Option CharSet :=
  match name with
  | "any" => some (.compl .empty)
  | "assigned" => some (.compl (.ranges (categoryRanges "cn")))
  | "ascii" => some (.ranges [(0x0, 0x7F)])
  | _ => (category? name).map .ranges

/-- The characters that a name in plain form stands for: a property unless
the name is one of three that are kept for categories, a category, or a
script. -/
def namedSet? (name : String) : Option CharSet :=
  let property := if name = "cf" ∨ name = "sc" ∨ name = "lc" then none else property? name
  match property with
  | some p => some p.set
  | none =>
      match categorySet? name with
      | some s => some s
      | none => (script? name).map (·.set)

/-- The characters for which a property has a value, both in plain form. -/
def valueSet? (name value : String) : Option CharSet :=
  match name with
  | "gc" | "generalcategory" => categorySet? value
  | "sc" | "script" => (script? value).map (·.set)
  | "scx" | "scriptextensions" => (script? value).map (·.usedSet)
  | _ => none

end DataAccess.Pattern
