/-
  DataAccess.Sample.Documents — record types that are kept as documents.

  Fields that no record type knows are passed over when a document is read.
  A field that may be empty is written as null, and is empty if it is null
  or missing.

  Main statement:
    * `Person.ofDocument_toDocument`  — a person is read back from its document.
-/
import DataAccess.Persistence.Documents

namespace DataAccess.Sample

/-- Records of a collection whose values and documents are refused only for their shape. -/
def shapedType {α : Type} (collection : String) (toDocument : α → Except EncodeError Document)
    (ofDocument : Document → Except ShapeError α) : DocumentType α :=
  ⟨collection, fun a => (toDocument a).mapError .encoding,
    fun d => (ofDocument d).mapError .decoding⟩

/-- A text in a document. -/
def readText (d : Datum) : Except ShapeError String := d.view.readText

/-- A text that may be empty. -/
def readTextOption (d : Datum) : Except ShapeError (Option String) :=
  d.view.readOptional View.readText

/-- A person. -/
structure Person where
  name : String
  status : String
  age : Int64
  deriving DecidableEq, Inhabited

namespace Person

/-- The fields of a person. -/
def shape : RecordShape Datum where
  name := "Person"
  fields := [
    ⟨"name", .refused, checking readText⟩,
    ⟨"status", .refused, checking readText⟩,
    ⟨"age", .refused, checking fun d => d.view.readInt64⟩]
  strict := false
  exact := false

/-- The document of a person. -/
def toDocument (p : Person) : Except EncodeError Document :=
  .ok [("name", .string p.name), ("status", .string p.status), ("age", .int64 p.age)]

/-- The person of a document. -/
def ofDocument (d : Document) : Except ShapeError Person := do
  let entries ← shape.entries (.mapping d)
  let name ← readEntry entries "name" "" readText
  let status ← readEntry entries "status" "" readText
  let age ← readEntry entries "age" 0 fun d => d.view.readInt64
  return ⟨name, status, age⟩

/-- Persons as documents. -/
def documentType : DocumentType Person := shapedType "people" toDocument ofDocument

end Person

/-- The author of a note. -/
structure Author where
  name : String
  city : Option String
  deriving DecidableEq, Inhabited

namespace Author

/-- The fields of an author. -/
def shape : RecordShape Datum where
  name := "Author"
  fields := [
    ⟨"name", .refused, checking readText⟩,
    ⟨"city", .allowed, checking readTextOption⟩]
  strict := false
  exact := false

/-- A text that may be empty, as a value. -/
def textDatum (s : Option String) : Datum := (s.map .string).getD .null

/-- The value of an author. -/
def toDatum (a : Author) : Datum := .document [("name", .string a.name), ("city", textDatum a.city)]

/-- The author of a value. -/
def ofDatum (d : Datum) : Except ShapeError Author := do
  let entries ← shape.entries d.view
  let name ← readEntry entries "name" "" readText
  let city ← readEntry entries "city" none readTextOption
  return ⟨name, city⟩

end Author

/-- A note. -/
structure Note where
  title : String
  tags : List String
  stars : Option Int32
  author : Author
  deriving DecidableEq, Inhabited

namespace Note

/-- A list of texts. -/
def readTexts (d : Datum) : Except ShapeError (List String) := d.view.readList readText

/-- A number of stars, if it was given. -/
def readStars (d : Datum) : Except ShapeError (Option Int32) :=
  d.view.readOptional View.readInt32

/-- The fields of a note. -/
def shape : RecordShape Datum where
  name := "Note"
  fields := [
    ⟨"title", .refused, checking readText⟩,
    ⟨"tags", .refused, checking readTexts⟩,
    ⟨"stars", .allowed, checking readStars⟩,
    ⟨"author", .refused, checking Author.ofDatum⟩]
  strict := false
  exact := false

/-- The document of a note. -/
def toDocument (n : Note) : Except EncodeError Document :=
  .ok [("title", .string n.title), ("tags", .array (n.tags.map .string)),
    ("stars", (n.stars.map .int32).getD .null), ("author", n.author.toDatum)]

/-- The note of a document. -/
def ofDocument (d : Document) : Except ShapeError Note := do
  let entries ← shape.entries (.mapping d)
  let title ← readEntry entries "title" "" readText
  let tags ← readEntry entries "tags" [] readTexts
  let stars ← readEntry entries "stars" none readStars
  let author ← readEntry entries "author" default Author.ofDatum
  return ⟨title, tags, stars, author⟩

/-- Notes as documents. -/
def documentType : DocumentType Note := shapedType "notes" toDocument ofDocument

end Note

/-- A count without a sign. -/
structure Counter where
  n : UInt64
  deriving DecidableEq, Inhabited

namespace Counter

/-- The field of a counter. -/
def shape : RecordShape Datum where
  name := "Counter"
  fields := [⟨"n", .refused, checking fun d => d.view.readUInt64⟩]
  strict := false
  exact := false

/-- The document of a counter, if its count fits into an integer with a sign. -/
def toDocument (c : Counter) : Except EncodeError Document :=
  if c.n ≤ Int64.maxValue.toUInt64 then .ok [("n", .int64 (Int64.ofNat c.n.toNat))]
  else .error (.unsignedTooLarge c.n.toNat)

/-- The counter of a document. -/
def ofDocument (d : Document) : Except ShapeError Counter := do
  let entries ← shape.entries (.mapping d)
  let n ← readEntry entries "n" 0 fun d => d.view.readUInt64
  return ⟨n⟩

/-- Counters as documents. -/
def documentType : DocumentType Counter := shapedType "counters" toDocument ofDocument

end Counter

/-- A person is read back from its document. -/
theorem Person.ofDocument_toDocument (p : Person) {d : Document} (h : p.toDocument = .ok d) :
    Person.ofDocument d = .ok p := by
  simp only [Person.toDocument, Except.ok.injEq] at h
  subst h
  simp [Person.ofDocument, Person.shape, RecordShape.entries, RecordShape.checkEntries,
    RecordShape.checkEntry, RecordShape.missing?, readEntry, checking, readText, Datum.view]

end DataAccess.Sample
