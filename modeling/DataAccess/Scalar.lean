/-
  DataAccess.Scalar — the values of operands and cells.

  A scalar is a 64-bit integer, a double, a text or a truth value.  Its
  text form quotes texts and writes doubles without an exponent.
-/
import DataAccess.Decimal.Layout
import DataAccess.Text.Quoted

namespace DataAccess

/-- A value of an operand or of a cell. -/
inductive Scalar where
  | integer (n : Int64)
  | float (x : Float)
  | text (s : String)
  | boolean (b : Bool)
  deriving DecidableEq

/-- The kind of a scalar, by which columns are described. -/
inductive Kind where
  | integer
  | float
  | text
  | boolean
  deriving Repr, DecidableEq

/-- The name of a kind in complaints about columns. -/
def Kind.name : Kind → String
  | .integer => "Integer"
  | .float => "Float"
  | .text => "Text"
  | .boolean => "Boolean"

/-- Kinds in ascending order. -/
def Kind.rank : Kind → Nat
  | .integer => 0
  | .float => 1
  | .text => 2
  | .boolean => 3

/-- The order of two integers. -/
def orderInt (a b : Int) : Ordering :=
  if a < b then .lt else if a = b then .eq else .gt

/-- The order of two doubles, none if one is not a number. -/
def orderFloat? (a b : Float) : Option Ordering :=
  if a < b then some .lt
  else if a == b then some .eq
  else if b < a then some .gt
  else none

/-- Texts by code points, first difference first. -/
def orderChars : List Char → List Char → Ordering
  | [], [] => .eq
  | [], _ :: _ => .lt
  | _ :: _, [] => .gt
  | a :: as, b :: bs =>
      if a = b then orderChars as bs
      else if a.toNat < b.toNat then .lt else .gt

/-- The order of two texts, which is also the order of their encoded bytes. -/
def orderText (a b : String) : Ordering := orderChars a.toList b.toList

/-- False comes before true. -/
def orderBool (a b : Bool) : Ordering := orderInt a.toNat b.toNat

namespace Scalar

/-- The kind of a scalar. -/
def kind : Scalar → Kind
  | integer _ => .integer
  | float _ => .float
  | text _ => .text
  | boolean _ => .boolean

/-- The text form: texts in quotes, doubles without an exponent. -/
def render : Scalar → String
  | integer n => toString n.toInt
  | float x => Decimal.plain.write x
  | text s => Text.quoted s
  | boolean b => if b then "true" else "false"

/-- The order of scalars: by kind, then by content. -/
def compare? : Scalar → Scalar → Option Ordering
  | integer a, integer b => some (orderInt a.toInt b.toInt)
  | float a, float b => orderFloat? a b
  | text a, text b => some (orderText a b)
  | boolean a, boolean b => some (orderBool a b)
  | a, b => some (orderInt a.kind.rank b.kind.rank)

/-- Equal content within one kind; a double that is not a number equals
nothing. -/
def same : Scalar → Scalar → Bool
  | integer a, integer b => a == b
  | float a, float b => a == b
  | text a, text b => a == b
  | boolean a, boolean b => a == b
  | _, _ => false

@[simp] theorem orderChars_self (cs : List Char) : orderChars cs cs = .eq := by
  induction cs with
  | nil => rfl
  | cons c cs ih => simp [orderChars, ih]

end Scalar

end DataAccess
