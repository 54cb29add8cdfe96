/-
  DataAccess.StoreError — why requests to a cache or a search index fail.

  Main statement:
    * `checkKey_ok_iff` — every key but the empty one is accepted.
-/
import DataAccess.Json.Basic

namespace DataAccess

/-- Why a value cannot be written as JSON. -/
inductive JsonEncodeError where
  /-- Members of objects have texts for keys. -/
  | keyNotText
  /-- A complaint of the type that is written, in its own words. -/
  | custom (text : String)
  deriving Repr, DecidableEq

/-- The message of a value that cannot be written. -/
def JsonEncodeError.message : JsonEncodeError → String
  | keyNotText => "key must be a string"
  | custom text => text

/-- Why a request to a cache or to a search index fails. -/
inductive StoreError where
  | connection (text : String)
  | encoding (e : JsonEncodeError)
  | decoding (e : JsonError)
  | unsupportedQuery (text : String)
  | invalidKey (key : String)
  deriving DecidableEq

/-- The message of a failed request. -/
def StoreError.message : StoreError → String
  | connection text => "connection error :: " ++ text
  | encoding e => "serialization error :: " ++ e.message
  | decoding e => "serialization error :: " ++ e.message
  | unsupportedQuery text => "unsupported search query :: " ++ text
  | invalidKey key => "invalid key `" ++ key ++ "`"

/-- Refuses the empty key. -/
def checkKey (key : String) : Except StoreError Unit :=
  if key.isEmpty then .error (.invalidKey key) else .ok ()

/-- Every key but the empty one is accepted. -/
@[simp] theorem checkKey_ok_iff {key : String} : checkKey key = .ok () ↔ key ≠ "" := by
  unfold checkKey
  split <;> simp_all [String.isEmpty_iff]

end DataAccess
