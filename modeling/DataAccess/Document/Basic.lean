/-
  DataAccess.Document.Basic — documents and their values.

  A document is an ordered list of fields; setting a field replaces it in
  place or adds it at the end.  Integers have two widths, and a width is
  part of a value: equality of values tells the widths and the doubles
  apart, while their comparison (`Document.Order`) does not.

  Kinds of values that are stored but never looked into, such as binary data
  and ids of objects, are all kept as `Datum.other`: such a value is equal to
  itself and is above or below nothing.

  Main statement:
    * `path?_of_segments`  — a path of one segment is a field.
-/
import DataAccess.Assoc
import DataAccess.FieldPath
import DataAccess.Scalar
import DataAccess.Shape

namespace DataAccess

/-- A value in a document. -/
inductive Datum where
  | int32 (n : Int32)
  | int64 (n : Int64)
  | double (x : Float)
  | string (s : String)
  | boolean (b : Bool)
  | null
  /-- Milliseconds since the start of 1970. -/
  | dateTime (millis : Int64)
  | array (items : List Datum)
  | document (fields : List (String × Datum))
  /-- A value of a further kind, told apart by the name of its kind and by its
  text. -/
  | other (kind text : String)

instance : Inhabited Datum := ⟨.null⟩

/-- Fields in the order in which they were first set. -/
abbrev Document := Assoc String Datum

namespace Datum

mutual
/-- Equality of values: widths and doubles are told apart, the order of the
fields of a document has no meaning. -/
def same : Datum → Datum → Bool
  | int32 a, int32 b => a == b
  | int64 a, int64 b => a == b
  | double a, double b => a == b
  | string a, string b => a == b
  | boolean a, boolean b => a == b
  | null, null => true
  | dateTime a, dateTime b => a == b
  | array as, array bs => sameItems as bs
  | document fs, document gs => fs.length == gs.length && sameFields fs gs
  | other k s, other l t => k == l && s == t
  | _, _ => false

/-- Lists of equal values in the same order. -/
def sameItems : List Datum → List Datum → Bool
  | [], [] => true
  | a :: as, b :: bs => same a b && sameItems as bs
  | _, _ => false

/-- Every field has an equal value under its name in the other document. -/
def sameFields : List (String × Datum) → List (String × Datum) → Bool
  | [], _ => true
  | (k, a) :: fs, gs =>
      (match Assoc.find? gs k with
        | some b => same a b
        | none => false) && sameFields fs gs
end

/-- The value that stands for a scalar. -/
def ofScalar : Scalar → Datum
  | .integer n => int64 n
  | .float x => double x
  | .text s => string s
  | .boolean b => boolean b

/-- The text of a string. -/
def string? : Datum → Option String
  | string s => some s
  | _ => none

/-- An integer of either width. -/
def integer? : Datum → Option Int
  | int32 n => some n.toInt
  | int64 n => some n.toInt
  | _ => none

/-- A number of any kind as a double; 32 bits fit exactly. -/
def numeric? : Datum → Option Float
  | int32 n => some (Float.ofInt n.toInt)
  | int64 n => some n.toFloat
  | double x => some x
  | _ => none

/-- The outermost layer, for reading records.  A point in time is a document
with a single reserved field, and so is a value of a further kind. -/
def view : Datum → View Datum
  | int32 n => .integer n.toInt
  | int64 n => .integer n.toInt
  | double x => .float x
  | string s => .text s
  | boolean b => .boolean b
  | null => .null
  | dateTime ms => .mapping [("$date", int64 ms)]
  | array items => .sequence items
  | document fs => .mapping fs
  | other kind text => .mapping [(kind, string text)]

/-- The words for document values in complaints about their shape. -/
def wording : Wording := ⟨"unit value", Decimal.pointed.write⟩

end Datum

namespace Document

/-- Looks a value up along a path of field names. -/
def along? : Document → List String → Option Datum
  | _, [] => none
  | d, [k] => Assoc.find? d k
  | d, k :: ks =>
      match Assoc.find? d k with
      | some (.document fs) => along? fs ks
      | _ => none

/-- Looks a value up along a dotted path. -/
def path? (d : Document) (path : String) : Option Datum := along? d (FieldPath.segments path)

/-- The fields named, in the order of the names, each once. -/
def restrict (d : Document) (names : List String) : Document :=
  names.foldl (fun acc k => match Assoc.find? d k with
    | some v => Assoc.insert acc k v
    | none => acc) []

/-- A path of one segment is a field. -/
theorem path?_of_segments {d : Document} {path k : String}
    (h : FieldPath.segments path = [k]) : d.path? path = Assoc.find? d k := by
  simp [path?, h, along?]

end Document

end DataAccess
