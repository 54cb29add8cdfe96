/-
  DataAccess.Persistence.Values — values in a cache and in a search index.

  Values are kept as JSON.  A cache may have a time to live for the values
  that are set without one.  A miss in a cache and a search without hits are
  successes.
-/
import DataAccess.Cache
import DataAccess.Persistence.Report
import DataAccess.SearchIndex

namespace DataAccess

/-- A type whose values are kept as JSON. -/
structure JsonType (α : Type) where
  encode : α → Except JsonEncodeError Json
  /-- Reads a value from a text. -/
  ofText : String → Except JsonError α
  /-- Reads a value from JSON. -/
  ofJson : Json → Except ShapeError α

/-! ## §1. Caches. -/

namespace Cache

variable {α : Type}

/-- An operation on a key. -/
def context (operation key : String) : LogContext := ⟨operation, key, none⟩

/-- Keeps a value, for the given time to live or else for the default one;
none if the clock ends before it expires. -/
def setValue (T : JsonType α) (default : Option Nat) (c : Cache) (now : Nat) (key : String)
    (a : α) (ttl : Option Nat) : Option (Report Unit × Cache) :=
  let context := context "set_cache" key
  match T.encode a with
  | .error e => some (.failed context (.other (.encoding e)), c)
  | .ok j =>
      match c.set now key j.render (ttl.or default) with
      | .error e => some (.failed context (.other e), c)
      | .ok (some d) => some (.done context "value cached" (), d)
      | .ok none => none

/-- The value of a key, none on a miss. -/
def getValue (T : JsonType α) (c : Cache) (now : Nat) (key : String) :
    Report (Option α) × Cache :=
  let context := context "get_cache" key
  match c.get now key with
  | .error e => (.failed context (.other e), c)
  | .ok (none, c) => (.done context "cache miss" none, c)
  | .ok (some text, c) =>
      (.ofExcept context (StoreFailure.other ∘ .decoding) "cache hit" (some <$> T.ofText text), c)

/-- Takes the value of a key out. -/
def deleteValue (c : Cache) (key : String) : Report Unit × Cache :=
  Report.changed (context "delete_cache" key) .other "value evicted" c (c.delete key)

/-- A key has a value. -/
def hasValue (c : Cache) (now : Nat) (key : String) : Report Bool × Cache :=
  let context := context "exists_cache" key
  match c.exists? now key with
  | .error e => (.failed context (.other e), c)
  | .ok (found, c) => (.done context "existence checked" found, c)

end Cache

/-! ## §2. Search indices. -/

namespace SearchIndex

variable {α : Type}

/-- Puts a value into an index. -/
def insertValue (T : JsonType α) (s : SearchIndex) (index id : String) (a : α) :
    Report Unit × SearchIndex :=
  Report.changed ⟨"index", index, some id⟩ .other "document indexed" s (do
    let j ← (T.encode a).mapError .encoding
    s.insert index id j)

/-- The values of an index that a query asks for. -/
def searchValues (T : JsonType α) (s : SearchIndex) (index : String) (query : Json) :
    Report (List α) :=
  .ofExcept ⟨"search_index", index, none⟩ .other "search executed" (do
    let found ← s.search index query
    (found.mapM T.ofJson).mapError (StoreError.decoding ∘ .shape))

/-- Takes a value out of an index. -/
def deleteValue (s : SearchIndex) (index id : String) : Report Unit × SearchIndex :=
  (.done ⟨"unindex", index, some id⟩ "document removed" (), s.delete index id)

end SearchIndex

end DataAccess
