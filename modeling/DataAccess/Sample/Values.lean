/-
  DataAccess.Sample.Values — types whose values are kept as JSON.
-/
import DataAccess.Json.Stream
import DataAccess.Persistence.Values

namespace DataAccess.Sample

open DataAccess.Json

/-- A text in JSON. -/
def readJsonText (j : Json) : Except ShapeError String := j.view.readText

/-- A list of texts in JSON. -/
def readJsonTexts (j : Json) : Except ShapeError (List String) := j.view.readList readJsonText

/-- Texts as JSON. -/
def textsJson (texts : List String) : Json := .array (texts.map .string)

/-- Reads a value in a text, first as JSON of its type and then as the value. -/
def ofTextVia [Complaints] {α : Type} (type : String) (read : Reading)
    (ofJson : Json → Except ShapeError α) (text : String) : Except JsonError α := do
  let j ← readWhole type read text
  (ofJson j).mapError fun e => (Fault.shape e).inText type text

/-- Any JSON value. -/
def anyType [Complaints] : JsonType Json := ⟨.ok, parse, .ok⟩

/-- Unsigned 32-bit integers. -/
def uint32Type [Complaints] : JsonType UInt32 :=
  let ofJson := fun (j : Json) =>
    (fun n => UInt32.ofNat n.toNat) <$> j.view.integerIn 0 (UInt32.size - 1) "u32"
  ⟨fun n => .ok (.number (.integer n.toNat)),
    ofTextVia "u32" (integerValue 0 (UInt32.size - 1) "u32") ofJson,
    ofJson⟩

/-- A double as JSON, null if it is not a finite number. -/
def floatJson (x : Float) : Json := if x.isFinite then .number (.float x) else .null

/-- A double in JSON. -/
def readJsonFloat (j : Json) : Except ShapeError Float :=
  match j.view with
  | .float x => .ok x
  | .integer n =>
      .ok (if n < 0 then (Int64.ofInt n).toFloat else (UInt64.ofNat n.toNat).toFloat)
  | v => v.mismatch "f64"

/-- Doubles. -/
def floatType [Complaints] : JsonType Float :=
  ⟨.ok ∘ floatJson, ofTextVia "f64" floatValue readJsonFloat, readJsonFloat⟩

/-- What is kept about a user who is logged in. -/
structure LoginSession where
  user : Int64
  roles : List String
  deriving DecidableEq, Inhabited

namespace LoginSession

/-- The members of a session. -/
def shape : RecordShape Json where
  name := "Session"
  fields := [
    ⟨"user", .refused, checking fun j => j.view.readInt64⟩,
    ⟨"roles", .refused, checking readJsonTexts⟩]
  strict := false
  exact := true

/-- The members of a session in a text. -/
def reading : Reading :=
  recordValue "Session"
    [("user", integerValue Int64.minValue.toInt Int64.maxValue.toInt "i64"),
      ("roles", listValue textValue)]

/-- The session of a JSON value. -/
def ofJson (j : Json) : Except ShapeError LoginSession := do
  let entries ← shape.entries j.view
  let user ← readEntry entries "user" 0 fun j => j.view.readInt64
  let roles ← readEntry entries "roles" [] readJsonTexts
  return ⟨user, roles⟩

/-- Sessions. -/
def jsonType [Complaints] : JsonType LoginSession :=
  ⟨fun s => .ok (.object [("user", .number (.integer s.user.toInt)), ("roles", textsJson s.roles)]),
    ofTextVia "Session" reading ofJson, ofJson⟩

end LoginSession

/-- A post to be searched for. -/
structure Post where
  title : String
  tags : List String
  deriving DecidableEq, Inhabited

namespace Post

/-- The members of a post. -/
def shape : RecordShape Json where
  name := "Post"
  fields := [
    ⟨"title", .refused, checking readJsonText⟩,
    ⟨"tags", .refused, checking readJsonTexts⟩]
  strict := false
  exact := true

/-- The members of a post in a text. -/
def reading : Reading :=
  recordValue "Post" [("title", textValue), ("tags", listValue textValue)]

/-- The post of a JSON value. -/
def ofJson (j : Json) : Except ShapeError Post := do
  let entries ← shape.entries j.view
  let title ← readEntry entries "title" "" readJsonText
  let tags ← readEntry entries "tags" [] readJsonTexts
  return ⟨title, tags⟩

/-- Posts. -/
def jsonType [Complaints] : JsonType Post :=
  ⟨fun p => .ok (.object [("title", .string p.title), ("tags", textsJson p.tags)]),
    ofTextVia "Post" reading ofJson, ofJson⟩

end Post

/-- A map from something that is no text, which JSON has no form for. -/
def unwritableType : JsonType Unit :=
  ⟨fun _ => .error .keyNotText, fun _ => .ok (), fun _ => .ok ()⟩

end DataAccess.Sample
