/-
  DataAccess.Pattern.Escape — flags, gaps and escapes in the text of a pattern.

  A flag holds from where it is set to the end of the group around it.  With
  the flag `spaced`, blanks and comments between the parts of a pattern mean
  nothing; they are passed over by `skipGap`.

  An escape stands for a character, for a set of characters or for a look at
  the place.  Letters and digits only have the escapes listed here; any other
  ASCII character may be escaped to stand for itself.

  Main statement:
    * `length_skipGap_le` — passing over a gap leaves no more text than before.
-/
import DataAccess.Pattern.Basic
import DataAccess.Text.Digits

namespace DataAccess.Pattern

open DataAccess.Text

/-! ## §1. Flags. -/

/-- What holds in a part of a pattern. -/
structure Flags where
  ignoreCase : Bool
  /-- Line ends are looked for at line breaks too. -/
  multiLine : Bool
  /-- A dot matches line breaks too. -/
  dotAll : Bool
  /-- Sets of characters are meant in all of Unicode, else in ASCII. -/
  unicode : Bool
  /-- Carriage returns break lines too. -/
  crlf : Bool
  /-- Blanks and comments mean nothing. -/
  spaced : Bool
  deriving Repr, DecidableEq

namespace Flags

/-- Sets the flag with this letter; greediness is accepted but decides
nothing about where a pattern occurs. -/
def set? (f : Flags) (letter : Char) (on : Bool) : Option Flags :=
  match letter with
  | 'i' => some { f with ignoreCase := on }
  | 'm' => some { f with multiLine := on }
  | 's' => some { f with dotAll := on }
  | 'u' => some { f with unicode := on }
  | 'R' => some { f with crlf := on }
  | 'x' => some { f with spaced := on }
  | 'U' => some f
  | _ => none

/-- The set as it is meant under the flags. -/
def fold (f : Flags) (s : CharSet) : CharSet :=
  if f.ignoreCase then (if f.unicode then .folded s else .foldedAscii s) else s

/-- The complement of a set, if asked for.  Outside of Unicode there are no
complements, as they would split characters. -/
def negate? (f : Flags) (negated : Bool) (s : CharSet) : Option CharSet :=
  if !negated then some s
  else if f.unicode then some (.compl s)
  else none

end Flags

/-! ## §2. Gaps. -/

/-- Passes over blanks and comments; a comment goes from a number sign to the
end of its line. -/
def gapFrom (comment : Bool) : List Char → List Char
  | [] => []
  | c :: cs =>
      if comment then gapFrom (c ≠ '\n') cs
      else if isBlank c then gapFrom false cs
      else if c = '#' then gapFrom true cs
      else c :: cs

/-- Passes over what means nothing. -/
def skipGap (f : Flags) (cs : List Char) : List Char :=
  if f.spaced then gapFrom false cs else cs

theorem length_gapFrom_le (comment : Bool) (cs : List Char) :
    (gapFrom comment cs).length ≤ cs.length := by
  induction cs generalizing comment with
  | nil => simp [gapFrom]
  | cons c cs ih =>
    unfold gapFrom
    split
    · exact Nat.le_succ_of_le (ih _)
    · split
      · exact Nat.le_succ_of_le (ih _)
      · split
        · exact Nat.le_succ_of_le (ih _)
        · exact Nat.le_refl _

/-- Passing over a gap leaves no more text than before. -/
theorem length_skipGap_le (f : Flags) (cs : List Char) :
    (skipGap f cs).length ≤ cs.length := by
  unfold skipGap
  split
  · exact length_gapFrom_le _ _
  · exact Nat.le_refl _

/-- The longest run of characters with a property, gaps between them passed
over, and the rest. -/
def takeRun (f : Flags) (p : Char → Bool) : List Char → List Char × List Char
  | [] => ([], [])
  | c :: cs =>
      if p c then
        let (run, rest) := takeRun f p (skipGap f cs)
        (c :: run, rest)
      else ([], c :: cs)
termination_by cs => cs.length
decreasing_by
  have := length_skipGap_le f cs
  simp only [List.length_cons]
  omega

/-! ## §3. Characters by number. -/

/-- The character with this number, none if there is none. -/
def charOf? (n : Nat) : Option Char :=
  if h : n.isValidChar then some (Char.ofNatAux n h) else none

/-- So many hexadecimal digits, their value added to a value, and the rest. -/
def takeHexDigits? (f : Flags) : Nat → Nat → List Char → Option (Nat × List Char)
  | 0, v, cs => some (v, cs)
  | _ + 1, _, [] => none
  | n + 1, v, c :: cs =>
      match hexValue? c with
      | some d => takeHexDigits? f n (16 * v + d) (skipGap f cs)
      | none => none

/-- A character by its number, after the letter of the escape: so many
digits, or any number of them in braces. -/
def takeNumbered? (f : Flags) (digits : Nat) (cs : List Char) : Option (Char × List Char) :=
  match skipGap f cs with
  | '\x7b' :: rest =>
      let (ds, rest) := takeRun f (fun c => (hexValue? c).isSome) (skipGap f rest)
      match ds, rest with
      | _ :: _, '\x7d' :: rest =>
          (charOf? (ds.foldl (fun n c => 16 * n + (hexValue? c).getD 0) 0)).map (·, rest)
      | _, _ => none
  | cs =>
      match takeHexDigits? f digits 0 cs with
      | some (n, rest) =>
          -- outside of Unicode, two digits are a byte, which is no character by itself
          if digits = 2 ∧ !f.unicode ∧ 0x80 ≤ n then none else (charOf? n).map (·, rest)
      | none => none

/-! ## §4. Sets by name. -/

/-- Cuts at the first occurrence of a character. -/
def cutAt? (sep : Char) : List Char → Option (List Char × List Char)
  | [] => none
  | c :: cs => if c = sep then some ([], cs) else (cutAt? sep cs).map fun (a, b) => (c :: a, b)

/-- Cuts at the first sign for "not equal". -/
def cutAtUnequal? : List Char → Option (List Char × List Char)
  | [] => none
  | '!' :: '=' :: cs => some ([], cs)
  | c :: cs => (cutAtUnequal? cs).map fun (a, b) => (c :: a, b)

/-- The set that a description in braces stands for, and whether it stands
for the complement: a name, or a name and a value. -/
def describedSet? (cs : List Char) : Option (CharSet × Bool) :=
  match cutAtUnequal? cs with
  | some (name, value) => (valueSet? (plainName name) (plainName value)).map (·, true)
  | none =>
      match cutAt? ':' cs with
      | some (name, value) => (valueSet? (plainName name) (plainName value)).map (·, false)
      | none =>
          match cutAt? '=' cs with
          | some (name, value) => (valueSet? (plainName name) (plainName value)).map (·, false)
          | none => (namedSet? (plainName cs)).map (·, false)

/-- A set by its description, after the letter of the escape. -/
def takeDescribed? (f : Flags) (negated : Bool) (cs : List Char) :
    Option (CharSet × List Char) := do
  if !f.unicode then none
  let (name, rest) ← match skipGap f cs with
    | '\x7b' :: rest =>
        match takeRun f (· ≠ '\x7d') (skipGap f rest) with
        | (name, '\x7d' :: rest) => some (name, rest)
        | _ => none
    | [] => none
    | c :: rest => if c = '\\' then none else some ([c], skipGap f rest)
  let (s, unequal) ← describedSet? name
  return (.negatedIf (negated ^^ unequal) (f.fold s), rest)

/-! ## §5. Escapes. -/

/-- What an escape stands for. -/
inductive Escape where
  | char (c : Char)
  | set (s : CharSet)
  | look (l : Look)

/-- The name of an edge of a word. -/
def edge? (name : List Char) : Option WordEdge :=
  if name = "start".toList then some .start
  else if name = "end".toList then some .stop
  else if name = "start-half".toList then some .startHalf
  else if name = "end-half".toList then some .stopHalf
  else none

/-- A look at the edge of a word, after its letter.  A brace starts the name
of an edge only if a letter or a hyphen follows; else it is left where it
stands, to count repetitions. -/
def takeEdge? (f : Flags) (cs : List Char) : Option (WordEdge × List Char) :=
  let isNameChar := fun (c : Char) => c.isAlpha || c = '-'
  match cs with
  | '\x7b' :: rest =>
      match skipGap f rest with
      | [] => none
      | c :: name =>
          if isNameChar c then
            match takeRun f isNameChar (c :: name) with
            | (name, '\x7d' :: rest) => (edge? name).map (·, rest)
            | _ => none
          else some (.boundary, cs)
  | _ => some (.boundary, cs)

/-- A set by its letter: in Unicode or in ASCII, or the complement. -/
def letterSet? (f : Flags) (wide narrow : CharSet) (negated : Bool) : Option Escape :=
  (f.negate? negated (if f.unicode then wide else narrow)).map .set

/-- The escape of a single character. -/
def shortEscape? (f : Flags) (c : Char) : Option Escape :=
  match c with
  | 'd' => letterSet? f digitSet asciiDigitSet false
  | 'D' => letterSet? f digitSet asciiDigitSet true
  | 's' => letterSet? f blankSet asciiBlankSet false
  | 'S' => letterSet? f blankSet asciiBlankSet true
  | 'w' => letterSet? f wordSet asciiWordSet false
  | 'W' => letterSet? f wordSet asciiWordSet true
  | 'a' => some (.char '\x07')
  | 'f' => some (.char '\x0c')
  | 'n' => some (.char '\n')
  | 'r' => some (.char '\r')
  | 't' => some (.char '\t')
  | 'v' => some (.char '\x0b')
  | 'A' => some (.look .start)
  | 'z' => some (.look .stop)
  | 'B' => some (.look (.word .interior f.unicode))
  | '<' => some (.look (.word .start f.unicode))
  | '>' => some (.look (.word .stop f.unicode))
  | _ => if c.isAlphanum || 0x80 ≤ c.toNat then none else some (.char c)

/-- An escape after its backslash, and the rest. -/
def takeEscape? (f : Flags) : List Char → Option (Escape × List Char)
  | [] => none
  | 'x' :: cs => (takeNumbered? f 2 cs).map fun (c, rest) => (.char c, rest)
  | 'u' :: cs => (takeNumbered? f 4 cs).map fun (c, rest) => (.char c, rest)
  | 'U' :: cs => (takeNumbered? f 8 cs).map fun (c, rest) => (.char c, rest)
  | 'p' :: cs => (takeDescribed? f false cs).map fun (s, rest) => (.set s, rest)
  | 'P' :: cs => (takeDescribed? f true cs).map fun (s, rest) => (.set s, rest)
  | 'b' :: cs => (takeEdge? f cs).map fun (e, rest) => (.look (.word e f.unicode), rest)
  | c :: cs => (shortEscape? f c).map (·, cs)

/-- An ASCII character that is neither a letter nor a digit nor an angle may
be escaped to stand for itself. -/
theorem shortEscape?_self (f : Flags) {c : Char} (hc : c.toNat < 0x80) (ha : c.isAlphanum = false)
    (hl : c ≠ '<') (hr : c ≠ '>') : shortEscape? f c = some (.char c) := by
  unfold shortEscape?
  split <;> simp_all

end DataAccess.Pattern
