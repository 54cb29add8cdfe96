/-
  DataAccess.Document.Store — an in-memory document store.

  Collections are lists of documents in the order in which they came.  A
  store that is unavailable refuses every request.  Updates and deletions work
  in place, on the first document that matches.

  Main statement:
    * `collection_insert` — a new document goes to the end of its collection.
-/
import DataAccess.Document.Find
import DataAccess.Document.Matching

namespace DataAccess

/-- Collections of documents by name. -/
structure DocumentStore where
  collections : Assoc String (List Document)
  unavailable : Bool

namespace DocumentStore

/-- A store without documents. -/
def empty : DocumentStore := ⟨[], false⟩

/-- The documents of a collection, none if there is no such collection. -/
def collection (s : DocumentStore) (name : String) : List Document :=
  (Assoc.find? s.collections name).getD []

/-- Puts documents in place of those of a collection. -/
def setCollection (s : DocumentStore) (name : String) (docs : List Document) : DocumentStore :=
  { s with collections := Assoc.insert s.collections name docs }

/-- Refuses a request if the store is unavailable. -/
def ready (s : DocumentStore) : Except DocumentError Unit :=
  if s.unavailable then .error (.connection "document store unavailable") else .ok ()

/-- Adds a document to a collection. -/
def insert (s : DocumentStore) (name : String) (d : Document) :
    Except DocumentError DocumentStore := do
  s.ready
  return s.setCollection name (s.collection name ++ [d])

/-- The first document that matches. -/
def findOne [Pattern.Engine] (s : DocumentStore) (name : String) (filter : Document) :
    Except DocumentError Document := do
  s.ready
  Document.first filter (s.collection name)

/-- The part of the answers that a request asks for: a negative limit is no
limit. -/
def window (r : FindRequest) (docs : List Document) : List Document :=
  let rest := docs.drop (r.skip.getD 0)
  match r.limit with
  | some n => if n.toInt < 0 then rest else rest.take n.toInt.toNat
  | none => rest

/-- The documents of a collection that match. -/
def matching [Pattern.Engine] (s : DocumentStore) (name : String) (filter : Document) :
    Except DocumentError (List Document) := do
  s.ready
  Document.matching filter (s.collection name)

/-- Documents in the order that a request asks for, or as they stood; none if
the sorter panics. -/
def ordered [Sorter] (r : FindRequest) (docs : List Document) : Option (List Document) :=
  if r.sort.isEmpty then some docs else Document.sortBy r.sort docs

/-- A document with the fields that a request wants. -/
def shape (r : FindRequest) (d : Document) : Document :=
  match r.projection with
  | some p => d.restrict (Assoc.keys p)
  | none => d

/-- What a request makes of the documents that match: they are sorted, cut and
restricted as asked.  None if the sorter panics. -/
def arrange [Sorter] (r : FindRequest) (found : List Document) : Option (List Document) :=
  (ordered r found).map fun docs => (window r docs).map (shape r)

/-- The documents that a request finds; none if the sorter panics. -/
def find [Pattern.Engine] [Sorter] (s : DocumentStore) (name : String) (r : FindRequest) :
    Option (Except DocumentError (List Document)) :=
  match s.matching name r.filter with
  | .error e => some (.error e)
  | .ok found => (arrange r found).map .ok

/-- Works on the documents of a collection in place: what comes of it, and the
store as it is left.  A collection that is not there is not made. -/
def inPlace (s : DocumentStore) (name : String)
    (work : List Document → Except DocumentError Unit × List Document) :
    Except DocumentError Unit × DocumentStore :=
  match s.ready with
  | .error e => (.error e, s)
  | .ok () =>
      match Assoc.find? s.collections name with
      | none => (.error .noDocuments, s)
      | some docs =>
          let (r, docs) := work docs
          (r, s.setCollection name docs)

/-- Writes the given fields into the first document that matches, in place. -/
def updateInPlace [Pattern.Engine] (s : DocumentStore) (name : String) (filter changes : Document) :
    Except DocumentError Unit × DocumentStore :=
  s.inPlace name (Document.updateFirst filter changes)

/-- Removes the first document that matches, in place. -/
def deleteInPlace [Pattern.Engine] (s : DocumentStore) (name : String) (filter : Document) :
    Except DocumentError Unit × DocumentStore :=
  s.inPlace name (Document.deleteFirst filter)

/-- The store that a request leaves, if nothing goes wrong. -/
def left (r : Except DocumentError Unit × DocumentStore) : Except DocumentError DocumentStore :=
  r.1.map fun _ => r.2

/-- Sets the given fields of the first document that matches. -/
def update [Pattern.Engine] (s : DocumentStore) (name : String) (filter changes : Document) :
    Except DocumentError DocumentStore :=
  left (s.updateInPlace name filter changes)

/-- Removes the first document that matches. -/
def delete [Pattern.Engine] (s : DocumentStore) (name : String) (filter : Document) :
    Except DocumentError DocumentStore :=
  left (s.deleteInPlace name filter)

/-! ## Laws. -/

theorem ready_of_available {s : DocumentStore} (h : s.unavailable = false) : s.ready = .ok () := by
  unfold ready
  rw [h]
  rfl

@[simp] theorem collection_setCollection (s : DocumentStore) (name other : String)
    (docs : List Document) :
    (s.setCollection name docs).collection other
      = if name = other then docs else s.collection other := by
  unfold collection setCollection
  simp only [Assoc.find?_insert]
  split <;> rfl

/-- A new document goes to the end of its collection. -/
theorem collection_insert {s t : DocumentStore} {name : String} {d : Document}
    (h : s.insert name d = .ok t) (other : String) :
    t.collection other
      = if name = other then s.collection name ++ [d] else s.collection other := by
  unfold insert at h
  cases hr : s.ready with
  | error e => simp [hr] at h
  | ok u =>
    simp only [hr, ok_bind, pure_eq_ok, Except.ok.injEq] at h
    rw [← h, collection_setCollection]

end DocumentStore

end DataAccess
