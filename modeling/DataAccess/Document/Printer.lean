/-
  DataAccess.Document.Printer — the text form of documents.

  Fields stand between braces with blanks inside, items between brackets
  without.  Strings are put in quotes as they are, doubles are written
  without an exponent.
-/
import DataAccess.Document.Basic
import DataAccess.Document.Timestamp

namespace DataAccess.Datum

/-- A text in quotes, as it is. -/
def writeString (s : String) : List Char := '"' :: (s.toList ++ ['"'])

mutual
/-- The text of a value. -/
def write : Datum → List Char
  | int32 n => (toString n.toInt).toList
  | int64 n => (toString n.toInt).toList
  | double x => (Decimal.plain.write x).toList
  | string s => writeString s
  | boolean b => if b then ['t', 'r', 'u', 'e'] else ['f', 'a', 'l', 's', 'e']
  | null => ['n', 'u', 'l', 'l']
  | dateTime ms => ("DateTime(\"" ++ Timestamp.render ms.toInt ++ "\")").toList
  | array items => '[' :: (writeItems items ++ [']'])
  | document [] => ['\x7b', '\x7d']
  | document (f :: fs) => '\x7b' :: ' ' :: (writeFields (f :: fs) ++ [' ', '\x7d'])
  | other _ text => text.toList

/-- Values with commas between them. -/
def writeItems : List Datum → List Char
  | [] => []
  | [a] => write a
  | a :: as => write a ++ ',' :: ' ' :: writeItems as

/-- Fields with commas between them. -/
def writeFields : List (String × Datum) → List Char
  | [] => []
  | [(k, a)] => writeString k ++ ':' :: ' ' :: write a
  | (k, a) :: fs => writeString k ++ ':' :: ' ' :: write a ++ ',' :: ' ' :: writeFields fs
end

/-- The text of a value. -/
def render (d : Datum) : String := String.ofList d.write

end DataAccess.Datum

namespace DataAccess

/-- The text of a document. -/
def Document.render (d : Document) : String := (Datum.document d).render

end DataAccess
