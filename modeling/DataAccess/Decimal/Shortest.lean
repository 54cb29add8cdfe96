/-
  DataAccess.Decimal.Shortest — the fewest decimal digits that read back.

  A finite double is m · 2^q.  The reals that round to it form an interval
  around it, half a step to either side (a quarter below a power of two),
  with its ends if m is even.  For one digit, two digits and so on, the two
  neighbours of the value on that decimal grid are tried; the first grid
  with a neighbour in the interval gives the digits, and of two neighbours
  the nearer one is taken.  Everything is exact arithmetic on `Nat`.
-/

namespace DataAccess.Decimal

/-! ## §1. Doubles as exact numbers. -/

/-- A positive rational as a quotient. -/
structure Ratio where
  num : Nat
  den : Nat
  deriving Repr, DecidableEq

/-- `n · 2^e`. -/
def Ratio.scale2 (n : Nat) (e : Int) : Ratio :=
  if e ≥ 0 then ⟨n <<< e.toNat, 1⟩ else ⟨n, 1 <<< (-e).toNat⟩

/-- `n · 10^e`. -/
def Ratio.scale10 (n : Nat) (e : Int) : Ratio :=
  if e ≥ 0 then ⟨n * Nat.pow 10 e.toNat, 1⟩ else ⟨n, Nat.pow 10 (-e).toNat⟩

/-- Comparison by cross-multiplication. -/
def Ratio.le (a b : Ratio) : Bool := decide (a.num * b.den ≤ b.num * a.den)

/-- Strict comparison by cross-multiplication. -/
def Ratio.lt (a b : Ratio) : Bool := decide (a.num * b.den < b.num * a.den)

/-- The reals between two bounds, with or without the bounds themselves. -/
structure Interval where
  low : Ratio
  high : Ratio
  closed : Bool
  deriving Repr, DecidableEq

/-- The number lies in the interval. -/
def Interval.holds (i : Interval) (x : Ratio) : Bool :=
  if i.closed then i.low.le x && x.le i.high else i.low.lt x && x.lt i.high

/-- A finite positive double, with the numbers that round to it. -/
structure Exact where
  value : Ratio
  rounding : Interval
  deriving Repr, DecidableEq

/-- Takes the magnitude of a finite double apart.  Fractions have 52 bits and
the exponent 11; the smallest exponent also covers the subnormal numbers. -/
def Exact.ofBits (bits : UInt64) : Exact :=
  let fraction : Nat := bits.toNat % (1 <<< 52)
  let biased : Nat := (bits.toNat >>> 52) % (1 <<< 11)
  let m : Nat := if biased = 0 then fraction else fraction + (1 <<< 52)
  let q : Int := (if biased = 0 then 1 else (biased : Int)) - 1075
  let below : Nat := if fraction = 0 ∧ biased > 1 then 4 * m - 1 else 4 * m - 2
  { value := .scale2 m q
    rounding := ⟨.scale2 below (q - 2), .scale2 (4 * m + 2) (q - 2), m % 2 = 0⟩ }

/-! ## §2. The search. -/

/-- A decimal `significand · 10^exponent`. -/
structure Digits where
  significand : Nat
  exponent : Int
  deriving Repr, DecidableEq

/-- The number that a decimal stands for. -/
def Digits.value (d : Digits) : Ratio := .scale10 d.significand d.exponent

/-- How many decimal digits a number has. -/
def digitCount (n : Nat) : Nat := (Nat.toDigits 10 n).length

/-- The place of the decimal point: the value is below `10^point` and not
below `10^(point - 1)`. -/
def leadingPoint (v : Ratio) : Int :=
  if v.num ≥ v.den then digitCount (v.num / v.den)
  else 1 - digitCount (v.den / v.num)

/-- Which of two equally near neighbours is taken. -/
inductive Tie where
  /-- The larger one. -/
  | up
  /-- The one with an even last digit. -/
  | even
  deriving Repr, DecidableEq

/-- The two neighbours of the value on the grid of `10^exponent`, the one to
be preferred first: the nearer one or, halfway, the one that `tie` names. -/
def neighbours (tie : Tie) (v : Ratio) (exponent : Int) : List Digits :=
  let scaled := if exponent ≥ 0 then (⟨v.num, v.den * Nat.pow 10 exponent.toNat⟩ : Ratio)
    else ⟨v.num * Nat.pow 10 (-exponent).toNat, v.den⟩
  let below := scaled.num / scaled.den
  let rest := scaled.num % scaled.den
  let low := decide (2 * rest < scaled.den) ||
    (decide (2 * rest = scaled.den) && tie == .even && below % 2 == 0)
  if low then [⟨below, exponent⟩, ⟨below + 1, exponent⟩]
  else [⟨below + 1, exponent⟩, ⟨below, exponent⟩]

/-- The nearest decimal on one grid that reads back. -/
def nearest? (tie : Tie) (x : Exact) (exponent : Int) : Option Digits :=
  (neighbours tie x.value exponent).find? fun d => x.rounding.holds d.value

/-- Cuts zeros from the end of the digits, at most `fuel` of them. -/
def Digits.cut : Nat → Digits → Digits
  | 0, d => d
  | fuel + 1, d =>
      if d.significand % 10 = 0 ∧ d.significand ≠ 0 then
        Digits.cut fuel ⟨d.significand / 10, d.exponent + 1⟩
      else d

/-- The shortest decimal that reads back as the double with these bits, for
a finite double other than zero.  Seventeen digits always suffice. -/
def shortest (tie : Tie) (bits : UInt64) : Digits :=
  let x := Exact.ofBits bits
  let point := leadingPoint x.value
  let found := (List.range 17).findSome? fun (n : Nat) => nearest? tie x (point - (n + 1))
  Digits.cut 17 (found.getD ⟨0, 0⟩)

end DataAccess.Decimal
