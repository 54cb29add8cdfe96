/-
  DataAccess.Decimal.Layout — how the digits of a double are written out.

  A layout says where positional notation ends, whether a whole number has
  a fraction, and what stands for the values that have no digits.  Three
  layouts are in use: the one of scalars and documents, the one of JSON,
  and the one of documents in complaints about their shape.
-/
import DataAccess.Decimal.Shortest

namespace DataAccess.Decimal

/-- The decisions of a notation for doubles. -/
structure Layout where
  /-- Digits are written positionally if the decimal point stands here,
  counted from in front of the first digit. -/
  positional : Int → Bool
  /-- What follows the digits of a number without a fraction. -/
  wholeEnd : List Char
  /-- Which of two equally near decimals of the least length is written. -/
  tie : Tie

/-- Digits in positional notation, a point if need be, and no exponent. -/
def plain : Layout := ⟨fun _ => true, [], .up⟩

/-- As `plain`, with a fraction for whole numbers. -/
def pointed : Layout := ⟨fun _ => true, ['.', '0'], .up⟩

/-- Positional from 1e-5 up to 1e16, always with a fraction, and otherwise
with a signed exponent. -/
def json : Layout := ⟨fun point => decide (-4 ≤ point) && decide (point ≤ 16), ['.', '0'], .even⟩

namespace Layout

/-- Digits around a decimal point that stands `point` places from their start. -/
def writePositional (l : Layout) (digits : List Char) (point : Int) : List Char :=
  if point ≤ 0 then
    ['0', '.'] ++ List.replicate (-point).toNat '0' ++ digits
  else if digits.length ≤ point.toNat then
    digits ++ List.replicate (point.toNat - digits.length) '0' ++ l.wholeEnd
  else
    digits.take point.toNat ++ ['.'] ++ digits.drop point.toNat

/-- One digit, the rest after a point, and the exponent with its sign. -/
def writeExponent (digits : List Char) (point : Int) : List Char :=
  let mantissa := match digits with
    | [] => []
    | [d] => [d]
    | d :: ds => d :: '.' :: ds
  let exponent := point - 1
  mantissa ++ ['e', if exponent < 0 then '-' else '+'] ++ Nat.toDigits 10 exponent.natAbs

/-- The digits of a finite magnitude other than zero. -/
def writeMagnitude (l : Layout) (bits : UInt64) : List Char :=
  let d := shortest l.tie bits
  let digits := Nat.toDigits 10 d.significand
  let point := d.exponent + digits.length
  if l.positional point then l.writePositional digits point else writeExponent digits point

/-- The text of a double. -/
def write (l : Layout) (x : Float) : String :=
  let bits := x.toBits
  let sign := if bits.toNat ≥ 1 <<< 63 then ['-'] else []
  if x.isNaN then "NaN"
  else if x.isInf then String.ofList (sign ++ ['i', 'n', 'f'])
  else if x == 0 then String.ofList (sign ++ '0' :: l.wholeEnd)
  else String.ofList (sign ++ l.writeMagnitude bits)

end Layout

end DataAccess.Decimal
