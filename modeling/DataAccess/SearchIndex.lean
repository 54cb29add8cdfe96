/-
  DataAccess.SearchIndex — an in-memory search index.

  Documents are JSON values under ids, listed in the order of their ids.  A
  query asks for all documents, for those with one of some words in a field,
  or for those with a given value in a field; it may limit the number of
  hits.  Words are found within other words, in any case.

  Main statement:
    * `hits_words_iff`  — what it takes to be hit by words.
-/
import DataAccess.Assoc
import DataAccess.Json.Printer
import DataAccess.Scalar
import DataAccess.StoreError
import DataAccess.Text.Blank
import DataAccess.Text.LowerCase
import DataAccess.Text.Suffixes

namespace DataAccess

/-! ## §1. Queries. -/

/-- What a query asks of a document. -/
inductive SearchClause where
  | all
  /-- A text with one of the words, which are in lower case. -/
  | words (field : String) (words : List String)
  /-- Exactly this value. -/
  | term (field : String) (value : Json)

namespace SearchClause

/-- The first member of an object. -/
def firstMember? : Json → Option (String × Json)
  | .object (m :: _) => some m
  | _ => none

/-- The words of a text, in lower case. -/
def wordsOf (text : String) : List String := (Text.words text).map Text.lowercase

/-- Reads what stands under "query".  Only the first member of the query, and
of what it asks, is looked at. -/
def ofJson? (inner : Json) : Option SearchClause := do
  let (kind, body) ← firstMember? inner
  match kind with
  | "match_all" => return all
  | "match" =>
      let (field, text) ← firstMember? body
      return words field (wordsOf (← text.string?))
  | "term" =>
      let (field, value) ← firstMember? body
      return term field value
  | _ => none

/-- Reads a query; without "query" it asks for all documents. -/
def read (query : Json) : Except StoreError SearchClause :=
  match query.member? "query" with
  | none => .ok all
  | some inner =>
      match ofJson? inner with
      | some clause => .ok clause
      | none => .error (.unsupportedQuery inner.render)

/-- A document is as asked. -/
def hits (clause : SearchClause) (doc : Json) : Bool :=
  match clause with
  | all => true
  | words field ws =>
      match (doc.member? field).bind (·.string?) with
      | some text => ws.any fun w => Text.occurs w.toList (Text.lowercase text).toList
      | none => false
  | term field value =>
      match doc.member? field with
      | some v => v.same value
      | none => false

/-- Words hit a document whose field is a text that has one of them within
its lower-case form. -/
theorem hits_words_iff {field : String} {ws : List String} {doc : Json} :
    (words field ws).hits doc = true
      ↔ ∃ text, doc.member? field = some (.string text)
        ∧ ∃ w ∈ ws, ∃ first last, (Text.lowercase text).toList = first ++ w.toList ++ last := by
  simp only [hits]
  cases hm : doc.member? field with
  | none => simp
  | some v => cases v <;> simp [Json.string?, Text.occurs_iff]

end SearchClause

/-- The number of hits that a query asks for: an integer that is not
negative; anything else is no limit. -/
def searchSize? (query : Json) : Option Nat :=
  match query.member? "size" with
  | some (.number (.integer n)) => if 0 ≤ n then some n.toNat else none
  | _ => none

/-! ## §2. Indices. -/

/-- Documents by index and id, the ids of an index in ascending order. -/
structure SearchIndex where
  indices : Assoc String (Assoc String Json)

namespace SearchIndex

/-- No documents. -/
def empty : SearchIndex := ⟨[]⟩

/-- The order of ids. -/
def idBefore (a b : String) : Bool := orderText a b == .lt

/-- The documents of an index under their ids. -/
def documents (s : SearchIndex) (index : String) : Assoc String Json :=
  (Assoc.find? s.indices index).getD []

/-- Puts a document into an index, in place of one with the same id. -/
def insert (s : SearchIndex) (index id : String) (doc : Json) : Except StoreError SearchIndex := do
  checkKey id
  return ⟨Assoc.insert s.indices index
    (Assoc.insertSorted idBefore (s.documents index) id doc)⟩

/-- Takes a document out of an index, if it is there. -/
def delete (s : SearchIndex) (index id : String) : SearchIndex :=
  match Assoc.find? s.indices index with
  | some docs => ⟨Assoc.insert s.indices index (Assoc.erase docs id)⟩
  | none => s

/-- The documents of an index that a query asks for. -/
def search (s : SearchIndex) (index : String) (query : Json) : Except StoreError (List Json) := do
  let clause ← SearchClause.read query
  let found := (Assoc.values (s.documents index)).filter clause.hits
  return match searchSize? query with
    | some n => found.take n
    | none => found

end SearchIndex

end DataAccess
