/-
  DataAccess.Document.Matching — documents against filters.

  A filter pairs fields with what is expected of them.  A document whose
  keys all start with a dollar sign lists operators, and all of them have to
  hold; anything else has to be equal to the value of the field.  A filter is
  evaluated from the left and stops at the first field that does not hold, so
  what stands behind it is not looked at.

  The first match is looked for in three ways: to return it, to write over it
  while its place is at hand, and to remove it once its place is known.
-/
import DataAccess.Document.Order
import DataAccess.Document.Printer
import DataAccess.Pattern.Reader

namespace DataAccess

/-! ## §1. Errors. -/

/-- Why a value cannot be written into a document. -/
inductive EncodeError where
  /-- Integers of documents have a sign and 64 bits. -/
  | unsignedTooLarge (n : Nat)
  /-- A complaint of the type that is written, in its own words. -/
  | custom (text : String)
  deriving DecidableEq

/-- The message of a value that cannot be written. -/
def EncodeError.message : EncodeError → String
  | unsignedTooLarge n =>
      "BSON does not support unsigned integers.\n                 An attempt to serialize the value: "
        ++ toString n ++ " in a signed type failed due to the value's size."
  | custom text => text

/-- Why a request to a document store fails. -/
inductive DocumentError where
  /-- No document matches. -/
  | noDocuments
  | unsupportedOperator (text : String)
  /-- A pattern that the engine refuses, in its words. -/
  | badPattern (text : String)
  | encoding (e : EncodeError)
  | decoding (e : ShapeError)
  | connection (text : String)
  deriving DecidableEq

namespace DocumentError

/-- The message of a failed request. -/
def message : DocumentError → String
  | noDocuments => "no matching document"
  | unsupportedOperator text => "unsupported operator `" ++ text ++ "`"
  | badPattern text => "bad pattern :: " ++ text
  | encoding e => "serialization error :: " ++ e.message
  | decoding e => "deserialization error :: " ++ e.message Datum.wording
  | connection text => "connection error :: " ++ text

/-- Nothing was found, which is no failure of the store. -/
def isNotFound : DocumentError → Bool
  | noDocuments => true
  | _ => false

end DocumentError

/-! ## §2. Operators. -/

namespace Document

/-- The document lists operators. -/
def isOperators (fs : Document) : Bool :=
  !fs.isEmpty && fs.all fun f => f.1.toList.head? == some '$'

/-- The options that stand beside a pattern: the letters of a string, none
if there is none. -/
def patternOptions (ops : Document) : Pattern.Options :=
  let letters := match Assoc.find? ops "$options" with
    | some (.string s) => s.toList
    | _ => []
  ⟨letters.contains 'i', letters.contains 'm'⟩

/-- The operand is not of the kind that the operator takes. -/
def badOperand (op : String) (operand : Datum) : DocumentError :=
  .unsupportedOperator (op ++ " on " ++ operand.render)

section

variable [Pattern.Engine]

/-- An operator holds of a value, or of the lack of one. -/
def operatorHolds (options : Pattern.Options) (x : Option Datum) (op : String)
    (operand : Datum) : Except DocumentError Bool :=
  let order := x.bind fun x => x.compare? operand
  match op with
  | "$eq" => .ok (x.any (·.equals operand))
  | "$in" =>
      match operand with
      | .array items => .ok (x.any fun x => items.any x.equals)
      | _ => .error (badOperand op operand)
  | "$gt" => .ok (order == some .gt)
  | "$gte" => .ok (order == some .gt || order == some .eq)
  | "$lt" => .ok (order == some .lt)
  | "$lte" => .ok (order == some .lt || order == some .eq)
  | "$regex" =>
      match operand with
      | .string pattern =>
          match Pattern.compile options pattern with
          | .ok p => .ok ((x.bind (·.string?)).any p.occursIn)
          | .error text => .error (.badPattern text)
      | _ => .error (badOperand op operand)
  | "$options" => .ok true
  | _ => .error (.unsupportedOperator op)

/-- All operators of a list hold, from the left up to the first that does
not. -/
def operatorsHold (options : Pattern.Options) (x : Option Datum) :
    Document → Except DocumentError Bool
  | [] => .ok true
  | (op, operand) :: ops =>
      match operatorHolds options x op operand with
      | .ok true => operatorsHold options x ops
      | r => r

/-! ## §3. Filters. -/

/-- A value, or the lack of one, is as expected. -/
def isAsExpected (x : Option Datum) (expected : Datum) : Except DocumentError Bool :=
  match expected with
  | .document ops =>
      if isOperators ops then operatorsHold (patternOptions ops) x ops
      else .ok (x.any (·.equals expected))
  | _ => .ok (x.any (·.equals expected))

/-- A document matches a filter. -/
def meets (d : Document) : Document → Except DocumentError Bool
  | [] => .ok true
  | (field, expected) :: rest =>
      match isAsExpected (d.path? field) expected with
      | .ok true => d.meets rest
      | r => r

/-- The documents that match a filter, in order. -/
def matching (filter : Document) : List Document → Except DocumentError (List Document)
  | [] => .ok []
  | d :: ds => do
      let m ← d.meets filter
      let rest ← matching filter ds
      return if m then d :: rest else rest

/-- The first document that matches a filter. -/
def first (filter : Document) : List Document → Except DocumentError Document
  | [] => .error .noDocuments
  | d :: ds => do
      if ← d.meets filter then return d
      first filter ds

/-- Writes fields into the first document that matches a filter: what comes of
it, and the documents as they are left. -/
def updateFirst (filter changes : Document) :
    List Document → Except DocumentError Unit × List Document
  | [] => (.error .noDocuments, [])
  | d :: ds =>
      match d.meets filter with
      | .error e => (.error e, d :: ds)
      | .ok true => (.ok (), Assoc.insertAll d changes :: ds)
      | .ok false =>
          let (r, ds) := updateFirst filter changes ds
          (r, d :: ds)

/-- The place of the first document that matches a filter. -/
def position (filter : Document) : List Document → Except DocumentError Nat
  | [] => .error .noDocuments
  | d :: ds => do
      if ← d.meets filter then return 0
      return (← position filter ds) + 1

/-- Removes the first document that matches a filter, after its place was
found: what comes of it, and the documents as they are left. -/
def deleteFirst (filter : Document) (docs : List Document) :
    Except DocumentError Unit × List Document :=
  match position filter docs with
  | .error e => (.error e, docs)
  | .ok i => (.ok (), docs.eraseIdx i)

end

end Document

end DataAccess
