/-
  DataAccess.Settings — settings read from named variables.

  A variable whose value is blank counts as unset.  Connection texts are
  taken as they are; numbers are trimmed, may carry a plus sign, and have to
  fit their width.  A life span of zero means that entries are kept forever.
-/
import DataAccess.Text.Blank

namespace DataAccess

/-- Why settings are refused: a variable with a value that is no number in
its range. -/
structure SettingsError where
  variableName : String
  value : String
  deriving Repr, DecidableEq

/-- The message of a refusal. -/
def SettingsError.message (e : SettingsError) : String :=
  "invalid value `" ++ e.value ++ "` for " ++ e.variableName

/-- Where the stores are, and how they are used. -/
structure Settings where
  sqlDsn : Option String
  documentUri : Option String
  cacheUri : Option String
  searchUri : Option String
  sqlMaxConnections : Nat
  /-- Seconds for which cache entries live that are stored without a life
  span of their own. -/
  cacheDefaultTtl : Option Nat
  deriving Repr, DecidableEq

namespace Settings

/-! ## §1. The variables. -/

/-- The relational store. -/
def sqlDsnName : String := "POLYSTORE_SQL_DSN"

/-- The document store. -/
def documentUriName : String := "POLYSTORE_DOCUMENT_URI"

/-- The cache. -/
def cacheUriName : String := "POLYSTORE_CACHE_URI"

/-- The search index. -/
def searchUriName : String := "POLYSTORE_SEARCH_URI"

/-- How many connections to the relational store may be open. -/
def sqlMaxConnectionsName : String := "POLYSTORE_SQL_MAX_CONNECTIONS"

/-- Seconds for which cache entries live by default. -/
def cacheTtlName : String := "POLYSTORE_CACHE_TTL_SECS"

/-- The settings without any variable. -/
def default : Settings := ⟨none, none, none, none, 10, none⟩

/-! ## §2. Reading. -/

/-- The number of a run of ASCII digits that is not empty. -/
def digitsNumber? (cs : List Char) : Option Nat :=
  if cs.isEmpty || !cs.all Char.isDigit then none
  else some (cs.foldl (fun n c => 10 * n + (c.toNat - '0'.toNat)) 0)

/-- A number below a bound: digits after an optional plus sign, blanks
around them aside. -/
def readNumber? (bound : Nat) (value : String) : Option Nat :=
  let digits := match Text.trimChars value.toList with
    | '+' :: cs => cs
    | cs => cs
  (digitsNumber? digits).filter fun n => decide (n < bound)

/-- A variable that is set to more than blanks. -/
def lookupSet (lookup : String → Option String) (name : String) : Option String :=
  (lookup name).filter fun v => !(Text.trimChars v.toList).isEmpty

/-- The number of connections, which may not be zero. -/
def readConnections (value : String) : Except SettingsError Nat :=
  match readNumber? UInt32.size value with
  | some (n + 1) => .ok (n + 1)
  | _ => .error ⟨sqlMaxConnectionsName, value⟩

/-- The default life span; zero stands for none. -/
def readTtl (value : String) : Except SettingsError (Option Nat) :=
  match readNumber? UInt64.size value with
  | some 0 => .ok none
  | some (n + 1) => .ok (some (n + 1))
  | none => .error ⟨cacheTtlName, value⟩

/-- Reads all settings through a look-up of variables.  The number of
connections is checked before the life span. -/
def load (lookup : String → Option String) : Except SettingsError Settings := do
  let connections ← match lookupSet lookup sqlMaxConnectionsName with
    | some v => readConnections v
    | none => .ok default.sqlMaxConnections
  let ttl ← match lookupSet lookup cacheTtlName with
    | some v => readTtl v
    | none => .ok default.cacheDefaultTtl
  return {
    sqlDsn := lookupSet lookup sqlDsnName
    documentUri := lookupSet lookup documentUriName
    cacheUri := lookupSet lookup cacheUriName
    searchUri := lookupSet lookup searchUriName
    sqlMaxConnections := connections
    cacheDefaultTtl := ttl }

end Settings

end DataAccess
