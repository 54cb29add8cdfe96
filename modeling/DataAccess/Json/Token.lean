/-
  DataAccess.Json.Token — the tokens of a JSON text.

  The scanner cuts a text into tokens up to the first place where no token
  starts.  That place is marked by a last token, so a reader that stops
  earlier never sees it.  A number that is too large for a double and a
  string that pairs its surrogates badly are still tokens, without a
  content: they may be passed over but not read.

  Numbers with a fraction or an exponent are not always rounded to the
  nearest double.  Their digits are gathered in an unsigned 64-bit number as
  long as they fit, and the result is scaled by a power of ten in one step.

  Main statement:
    * `gather_bound`           — gathered digits fit in 64 bits.
-/
import DataAccess.Json.Basic
import DataAccess.Text.Digits

namespace DataAccess

open DataAccess.Text

/-! ## §1. Numbers. -/

/-- Gathers digits as long as the number fits in 64 bits; the second part
is the digits that were left over. -/
def gather (n : Nat) : List Char → Nat × List Char
  | [] => (n, [])
  | c :: cs =>
      if 10 * n + digitValue c < UInt64.size then gather (10 * n + digitValue c) cs
      else (n, c :: cs)

theorem gather_bound (n : Nat) (cs : List Char) (h : n < UInt64.size) :
    (gather n cs).1 < UInt64.size := by
  induction cs generalizing n with
  | nil => exact h
  | cons c cs ih =>
    unfold gather
    split
    · next hc => exact ih _ hc
    · exact h

/-- A power of ten as a double. -/
def powerOfTen (e : Nat) : Float := Float.ofScientific 1 false e

/-- Divides by `10^e`, by `10^308` at a time while `e` is larger than that. -/
def scaleDown (x : Float) (e : Nat) : Float :=
  if e ≤ 308 then x / powerOfTen e
  else if x == 0 then x
  else scaleDown (x / powerOfTen 308) (e - 308)
termination_by e

/-- Scales a gathered number by a power of ten in one step; none if the
result is too large for a double. -/
def scale? (n : Nat) (e : Int) : Option Float :=
  let x := (UInt64.ofNat n).toFloat
  if e < 0 then some (scaleDown x (-e).toNat)
  else if e ≤ 308 then
    let y := x * powerOfTen e.toNat
    if y.isInf then none else some y
  else if n = 0 then some x
  else none

/-- A number as its text gives it. -/
structure NumberText where
  negative : Bool
  whole : List Char
  fraction : Option (List Char)
  /-- The sign of the exponent and its digits. -/
  exponent : Option (Bool × List Char)

/-- The value of a number, none if it is too large for a double.  A number
without fraction and exponent is an integer if it fits in 64 bits, with or
without a sign, and is not a negative zero. -/
def Number.ofParts? (t : NumberText) : Option Number :=
  let signed := fun (x : Float) => Number.float (if t.negative then -x else x)
  let (n, dropped) := gather 0 t.whole
  match t.fraction, t.exponent with
  | none, none =>
      if !dropped.isEmpty then (scale? n dropped.length).map signed
      else if !t.negative then some (.integer n)
      else if 0 < n ∧ Int64.minValue.toInt ≤ -n then some (.integer (-n))
      else some (signed (UInt64.ofNat n).toFloat)
  | fraction, exponent =>
      let digits := fraction.getD []
      let (m, left) := gather n digits
      let shift : Int := dropped.length - (digits.length - left.length : Nat)
      let e : Int := match exponent with
        | none => 0
        | some (minus, ds) =>
            if minus then -(decimalValue ds : Int) else decimalValue ds
      (scale? m (shift + e)).map signed

/-- An unsigned run of digits without a leading zero, and the rest. -/
def takeWhole? (cs : List Char) : Option (List Char × List Char) :=
  match cs.span isDigit with
  | ([], _) => none
  | ('0' :: _ :: _, _) => none
  | (ds, rest) => some (ds, rest)

/-- A fraction, if a point follows, and the rest. -/
def takeFraction? : List Char → Option (Option (List Char) × List Char)
  | '.' :: cs =>
      match cs.span isDigit with
      | ([], _) => none
      | (ds, rest) => some (some ds, rest)
  | cs => some (none, cs)

/-- The digits of an exponent and the rest. -/
def takeExponentDigits? (minus : Bool) (cs : List Char) :
    Option (Option (Bool × List Char) × List Char) :=
  match cs.span isDigit with
  | ([], _) => none
  | (ds, rest) => some (some (minus, ds), rest)

/-- An exponent, if its letter follows, and the rest. -/
def takeExponent? (cs : List Char) : Option (Option (Bool × List Char) × List Char) :=
  match cs with
  | c :: rest =>
      if c = 'e' ∨ c = 'E' then
        match rest with
        | '+' :: ds => takeExponentDigits? false ds
        | '-' :: ds => takeExponentDigits? true ds
        | ds => takeExponentDigits? false ds
      else some (none, cs)
  | [] => some (none, cs)

/-- A number at the start of a text, and the rest. -/
def takeNumber? (cs : List Char) : Option (NumberText × List Char) := do
  let (negative, cs) := match cs with
    | '-' :: rest => (true, rest)
    | _ => (false, cs)
  let (whole, cs) ← takeWhole? cs
  let (fraction, cs) ← takeFraction? cs
  let (exponent, cs) ← takeExponent? cs
  return (⟨negative, whole, fraction, exponent⟩, cs)

/-! ## §2. Strings. -/

/-- The number of four hexadecimal digits. -/
def hexUnit? (a b c d : Char) : Option Nat := do
  return 4096 * (← hexValue? a) + 256 * (← hexValue? b) + 16 * (← hexValue? c) + (← hexValue? d)

/-- The characters of a string read so far. -/
structure StringScan where
  /-- The characters, last first. -/
  chars : List Char
  /-- A high surrogate that waits for its partner. -/
  high : Option Nat
  /-- No surrogate stands alone so far. -/
  sound : Bool

namespace StringScan

/-- Adds a character; a surrogate that still waits stands alone. -/
def push (s : StringScan) (c : Char) : StringScan :=
  ⟨c :: s.chars, none, s.sound && s.high.isNone⟩

/-- Adds the unit of an escape, which may be half of a pair. -/
def pushUnit (s : StringScan) (u : Nat) : StringScan :=
  if 0xD800 ≤ u ∧ u < 0xDC00 then ⟨s.chars, some u, s.sound && s.high.isNone⟩
  else if 0xDC00 ≤ u ∧ u < 0xE000 then
    match s.high with
    | some h =>
        let c := Char.ofNat (0x10000 + 1024 * (h - 0xD800) + (u - 0xDC00))
        ⟨c :: s.chars, none, s.sound⟩
    | none => ⟨s.chars, none, false⟩
  else s.push (Char.ofNat u)

/-- The string, none if a surrogate stands alone. -/
def result (s : StringScan) : Option String :=
  if s.sound && s.high.isNone then some (String.ofList s.chars.reverse) else none

end StringScan

/-- The character of a short escape. -/
def shortEscape? : Char → Option Char
  | '"' => some '"'
  | '\\' => some '\\'
  | '/' => some '/'
  | 'b' => some (Char.ofNat 8)
  | 'f' => some (Char.ofNat 12)
  | 'n' => some '\n'
  | 'r' => some '\r'
  | 't' => some '\t'
  | _ => none

/-- The rest of a string after its opening quote, and the rest of the text. -/
def takeString? (s : StringScan) : List Char → Option (Option String × List Char)
  | '"' :: cs => some (s.result, cs)
  | '\\' :: 'u' :: a :: b :: c :: d :: cs =>
      match hexUnit? a b c d with
      | some u => takeString? (s.pushUnit u) cs
      | none => none
  | '\\' :: c :: cs =>
      match shortEscape? c with
      | some e => takeString? (s.push e) cs
      | none => none
  | c :: cs => if c.toNat < 32 ∨ c = '\\' then none else takeString? (s.push c) cs
  | [] => none

/-! ## §3. The scanner. -/

namespace Json

/-- A token of a JSON text. -/
inductive Token where
  | openBrace
  | closeBrace
  | openBracket
  | closeBracket
  | colon
  | comma
  | null
  | boolean (b : Bool)
  /-- A number, without a value if it is too large for a double. -/
  | number (n : Option Number)
  /-- A string, without a text if a surrogate stands alone. -/
  | string (s : Option String)
  /-- No token starts here. -/
  | broken
  deriving DecidableEq

/-- The blanks between tokens. -/
def isGap (c : Char) : Bool := c = ' ' || c = '\t' || c = '\n' || c = '\r'

/-- The token at the start of a text that does not start with a blank, and
the rest; none if no token starts there. -/
def takeToken? : List Char → Option (Token × List Char)
  | '\x7b' :: cs => some (.openBrace, cs)
  | '\x7d' :: cs => some (.closeBrace, cs)
  | '[' :: cs => some (.openBracket, cs)
  | ']' :: cs => some (.closeBracket, cs)
  | ':' :: cs => some (.colon, cs)
  | ',' :: cs => some (.comma, cs)
  | 'n' :: 'u' :: 'l' :: 'l' :: cs => some (.null, cs)
  | 't' :: 'r' :: 'u' :: 'e' :: cs => some (.boolean true, cs)
  | 'f' :: 'a' :: 'l' :: 's' :: 'e' :: cs => some (.boolean false, cs)
  | '"' :: cs => (takeString? ⟨[], none, true⟩ cs).map fun (s, rest) => (.string s, rest)
  | cs => (takeNumber? cs).map fun (t, rest) => (.number (Number.ofParts? t), rest)

/-- Scans a text with at most `fuel` characters. -/
def scanWithin : Nat → List Char → List Token
  | 0, _ => []
  | _, [] => []
  | fuel + 1, c :: cs =>
      if isGap c then scanWithin fuel cs
      else match takeToken? (c :: cs) with
        | some (t, rest) => t :: scanWithin fuel rest
        | none => [.broken]

/-- The tokens of a text.  Every step takes a character, so as many steps as
characters are enough. -/
def scan (s : String) : List Token :=
  let cs := s.toList
  scanWithin cs.length cs

end Json

end DataAccess
