/-
  DataAccess.Persistence.Documents — records in a document store.

  Each operation is one request to the store.  A query is checked before a
  record is turned into a document, and both before the store is asked.
-/
import DataAccess.Document.Store
import DataAccess.Persistence.Report

namespace DataAccess

/-- A type whose values are kept as documents of a collection. -/
structure DocumentType (α : Type) where
  collection : String
  /-- A value, and likewise a document, may be refused for any reason that the
  store may have. -/
  toDocument : α → Except DocumentError Document
  ofDocument : Document → Except DocumentError α

namespace DocumentType

variable {α : Type}

/-- An operation on the collection. -/
def context (D : DocumentType α) (operation : String) : LogContext :=
  ⟨operation, D.collection, none⟩

/-- Adds a record. -/
def insert (D : DocumentType α) (s : DocumentStore) (a : α) : Report Unit × DocumentStore :=
  Report.changed (D.context "insert") .document "document inserted" s (do
    let d ← D.toDocument a
    s.insert D.collection d)

section

variable [Pattern.Engine]

/-- The first record that meets the conditions of a query; its order and its
window do not count. -/
def findOne (D : DocumentType α) (s : DocumentStore) (q : Query) : Report α :=
  match FindRequest.translate q with
  | .error e => .refused e
  | .ok r =>
      .ofExcept (D.context "find_one") .document "document retrieved" (do
        let d ← s.findOne D.collection r.filter
        D.ofDocument d)

/-- The records that a query asks for; none if the sorter panics. -/
def find [Sorter] (D : DocumentType α) (s : DocumentStore) (q : Query) :
    Option (Report (List α)) :=
  match FindRequest.translate q with
  | .error e => some (.refused e)
  | .ok r => (s.find D.collection r).map fun found =>
      .ofExcept (D.context "find") .document "documents retrieved" (do
        let ds ← found
        ds.mapM D.ofDocument)

/-- Sets the fields of the first record that meets the conditions of a query
to those of another. -/
def update (D : DocumentType α) (s : DocumentStore) (q : Query) (a : α) :
    Report Unit × DocumentStore :=
  match FindRequest.translate q with
  | .error e => (.refused e, s)
  | .ok r =>
      Report.changed (D.context "update") .document "document updated" s (do
        let changes ← D.toDocument a
        s.update D.collection r.filter changes)

/-- Removes the first record that meets the conditions of a query. -/
def delete (D : DocumentType α) (s : DocumentStore) (q : Query) : Report Unit × DocumentStore :=
  match FindRequest.translate q with
  | .error e => (.refused e, s)
  | .ok r =>
      Report.changed (D.context "delete") .document "document deleted" s
        (s.delete D.collection r.filter)

end

end DocumentType

end DataAccess
