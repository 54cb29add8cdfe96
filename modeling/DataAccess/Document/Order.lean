/-
  DataAccess.Document.Order — how values and documents compare.

  Integers of both widths compare exactly; a double that takes part makes
  both sides doubles.  Texts, truth values and points in time compare within
  their kind, and nothing else compares at all.  Documents are ordered by a
  document of directions, field by field; a missing value comes first, and
  values that do not compare count as equal.

  Main statements:
    * `compare?_of_integers`     — integers compare as integers;
    * `compareBy_nil`            — without directions all documents are equal.
-/
import DataAccess.Document.Basic
import DataAccess.Sorting

namespace DataAccess

namespace Datum

/-- The order of two values, none if they do not compare. -/
def compare? (a b : Datum) : Option Ordering :=
  match a.integer?, b.integer? with
  | some m, some n => some (orderInt m n)
  | _, _ =>
      match a.numeric?, b.numeric? with
      | some x, some y => orderFloat? x y
      | _, _ =>
          match a, b with
          | string s, string t => some (orderText s t)
          | boolean p, boolean q => some (orderBool p q)
          | dateTime s, dateTime t => some (orderInt s.toInt t.toInt)
          | _, _ => none

/-- The values compare as equal, or they are the same. -/
def equals (a b : Datum) : Bool := a.compare? b == some .eq || a.same b

/-- Integers compare as integers, whatever their widths. -/
theorem compare?_of_integers {a b : Datum} {m n : Int} (ha : a.integer? = some m)
    (hb : b.integer? = some n) : a.compare? b = some (orderInt m n) := by
  simp [compare?, ha, hb]

end Datum

namespace Document

/-- The direction is downward: a number below zero. -/
def isDescending (direction : Datum) : Bool :=
  match direction.numeric? with
  | some x => decide (x < 0)
  | none => false

/-- The order of what two documents have in one place; a missing value comes
first. -/
def comparePlaces (a b : Option Datum) : Ordering :=
  match a, b with
  | none, none => .eq
  | none, some _ => .lt
  | some _, none => .gt
  | some x, some y => (x.compare? y).getD .eq

/-- The order of two documents by a document of directions. -/
def compareBy (sort : Document) (a b : Document) : Ordering :=
  match sort with
  | [] => .eq
  | (field, direction) :: rest =>
      let o := comparePlaces (a.path? field) (b.path? field)
      let o := if isDescending direction then o.swap else o
      o.then (compareBy rest a b)

/-- Documents in ascending order, those that are equal as they stood; none if
the sorter panics. -/
def sortBy [Sorter] (sort : Document) (docs : List Document) : Option (List Document) :=
  Sorter.sort (compareBy sort) docs

/-- Without directions all documents are equal. -/
@[simp] theorem compareBy_nil (a b : Document) : compareBy [] a b = .eq := rfl

end Document

end DataAccess
