/-
  DataAccess.Text.Ranges — sets of characters given by ranges of code points.

  A property of characters is a list of closed ranges of code points, and a
  simple case mapping is a list of ranges with the distance that each of
  their members moves.  Long tables are written as text in hexadecimal
  ("41-5A 61-7A AA") and read by `Ranges.decode`.
-/

namespace DataAccess.Text

/-! ## §1. Ranges. -/

/-- A set of code points as closed ranges. -/
abbrev Ranges := List (Nat × Nat)

namespace Ranges

/-- Some range holds the code point. -/
def contains (rs : Ranges) (n : Nat) : Bool :=
  rs.any (fun r => decide (r.1 ≤ n) && decide (n ≤ r.2))

/-- Joins ranges in ascending order where they overlap or touch. -/
def joinFrom (r : Nat × Nat) : Ranges → Ranges
  | [] => [r]
  | s :: rs =>
      if s.1 ≤ r.2 + 1 then joinFrom (r.1, max r.2 s.2) rs else r :: joinFrom s rs

/-- The ranges in ascending order, joined where they overlap or touch. -/
def tidy (rs : Ranges) : Ranges :=
  match rs.mergeSort (fun r s => decide (r.1 ≤ s.1)) with
  | [] => []
  | r :: rs => joinFrom r rs

/-- The code points from `low` on that lie in none of the ranges, which stand
in ascending order. -/
def gapsFrom (low : Nat) : Ranges → Ranges
  | [] => if low ≤ 0x10FFFF then [(low, 0x10FFFF)] else []
  | r :: rs => (if low < r.1 then [(low, r.1 - 1)] else []) ++ gapsFrom (r.2 + 1) rs

/-- The value of a hexadecimal digit in upper case. -/
def digit? (c : Char) : Option Nat :=
  if '0' ≤ c ∧ c ≤ '9' then some (c.toNat - '0'.toNat)
  else if 'A' ≤ c ∧ c ≤ 'F' then some (c.toNat - 'A'.toNat + 10)
  else none

/-- Reads ranges in hexadecimal, a range as "41-5A" and a single code point
as "AA", apart by blanks or line ends. -/
def decode (s : String) : Ranges :=
  let step := fun (acc : Ranges × Option Nat × Option Nat) (c : Char) =>
    let (done, low, cur) := acc
    match digit? c, c, cur with
    | some d, _, n => (done, low, some (16 * n.getD 0 + d))
    | none, '-', n => (done, n, none)
    | none, _, some n => ((low.getD n, n) :: done, none, none)
    | none, _, none => (done, none, none)
  let (done, low, cur) := s.toList.foldl step ([], none, none)
  match cur with
  | some n => ((low.getD n, n) :: done).reverse
  | none => done.reverse

end Ranges

/-! ## §2. Shifted ranges. -/

/-- The characters from `first` to `last` in steps of `stride`, each of which
goes to the character `distance` further on. -/
structure Shift where
  first : Nat
  last : Nat
  stride : Nat
  distance : Int
  deriving Repr, DecidableEq

namespace Shift

/-- The code point is one of the characters that move. -/
def covers (s : Shift) (n : Nat) : Bool :=
  decide (s.first ≤ n) && decide (n ≤ s.last) && decide ((n - s.first) % s.stride = 0)

/-- Where the code point goes, by the first range that covers it. -/
def target? (table : List Shift) (n : Nat) : Option Nat :=
  (table.find? (·.covers n)).map fun s => ((n : Int) + s.distance).toNat

/-- The code points that the table sends to `n`. -/
def sources (table : List Shift) (n : Nat) : List Nat :=
  table.filterMap fun s =>
    let m := ((n : Int) - s.distance).toNat
    if s.covers m && decide ((m : Int) + s.distance = n) then some m else none

end Shift

end DataAccess.Text
