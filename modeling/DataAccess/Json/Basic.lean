/-
  DataAccess.Json.Basic — JSON values and their equality.

  Numbers keep apart integers and doubles.  The members of an object stand
  in the order in which they were given, one for each key; two objects are
  equal if they hold equal values under the same keys, in any order.

  The reader of texts says in its own words what is malformed and where a
  value does not fit.  These words are left open.
-/
import DataAccess.Assoc
import DataAccess.Decimal.Layout
import DataAccess.Shape

namespace DataAccess

/-- A JSON number: an integer, or a double where the text has a fraction, an
exponent or too many digits. -/
inductive Number where
  | integer (n : Int)
  | float (x : Float)
  deriving DecidableEq

/-- Equality of numbers tells integers from doubles. -/
def Number.same : Number → Number → Bool
  | integer a, integer b => a == b
  | float a, float b => a == b
  | _, _ => false

/-- A JSON value. -/
inductive Json where
  | null
  | boolean (b : Bool)
  | number (n : Number)
  | string (s : String)
  | array (items : List Json)
  | object (members : List (String × Json))

instance : Inhabited Json := ⟨.null⟩

namespace Json

mutual
/-- Equality of values; the order of the members of an object has no meaning. -/
def same : Json → Json → Bool
  | null, null => true
  | boolean a, boolean b => a == b
  | number a, number b => a.same b
  | string a, string b => a == b
  | array as, array bs => sameItems as bs
  | object ms, object ns => ms.length == ns.length && sameMembers ms ns
  | _, _ => false

/-- Lists of equal values in the same order. -/
def sameItems : List Json → List Json → Bool
  | [], [] => true
  | a :: as, b :: bs => same a b && sameItems as bs
  | _, _ => false

/-- Every member has an equal value under its key in the other object. -/
def sameMembers : List (String × Json) → List (String × Json) → Bool
  | [], _ => true
  | (k, a) :: ms, ns =>
      (match Assoc.find? ns k with
        | some b => same a b
        | none => false) && sameMembers ms ns
end

/-- The value of a member, none if there is no such member or no object. -/
def member? (j : Json) (key : String) : Option Json :=
  match j with
  | object ms => Assoc.find? ms key
  | _ => none

/-- The text of a string value. -/
def string? : Json → Option String
  | string s => some s
  | _ => none

/-- The outermost layer, for reading records. -/
@[simp] def view : Json → View Json
  | null => .null
  | boolean b => .boolean b
  | number (.integer n) => .integer n
  | number (.float x) => .float x
  | string s => .text s
  | array items => .sequence items
  | object ms => .mapping ms

/-- The words for JSON values in complaints about their shape. -/
def wording : Wording := ⟨"null", Decimal.json.write⟩

end Json

/-- Why a JSON text or value is refused. -/
inductive JsonError where
  /-- The text is not JSON; the words are those of its reader. -/
  | malformed (words : String)
  /-- The text is JSON of another shape than expected, noticed at a place. -/
  | misfit (e : ShapeError) (place : String)
  /-- The value has another shape than expected. -/
  | shape (e : ShapeError)
  deriving DecidableEq

/-- The message of a refusal. -/
def JsonError.message : JsonError → String
  | malformed words => words
  | misfit e place => e.message Json.wording ++ place
  | shape e => e.message Json.wording

namespace Json

/-- What is left open about the reader of texts: its words, for a type with
that name and a text that is no value of it. -/
class Complaints where
  /-- The words in which a malformed text is refused. -/
  malformed (type text : String) : String
  /-- The words for the place where the text stops to fit. -/
  place (type text : String) : String

/-- What keeps the tokens of a text from being a value. -/
inductive Fault where
  | malformed
  | shape (e : ShapeError)
  deriving DecidableEq

/-- The refusal of a text, in the words of its reader. -/
def Fault.inText [Complaints] (type text : String) : Fault → JsonError
  | malformed => .malformed (Complaints.malformed type text)
  | shape e => .misfit e (Complaints.place type text)

end Json

end DataAccess
