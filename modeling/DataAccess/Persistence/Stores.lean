/-
  DataAccess.Persistence.Stores — one store of each family.
-/
import DataAccess.Persistence.Documents
import DataAccess.Persistence.Records
import DataAccess.Persistence.Values

namespace DataAccess

/-- One store of each family. -/
structure Stores where
  relational : RelationalStore
  documents : DocumentStore
  cache : Cache
  search : SearchIndex
  /-- How long values stay in the cache if nothing is said about it. -/
  defaultTtl : Option Nat

/-- Empty in-memory stores. -/
def Stores.empty (defaultTtl : Option Nat) : Stores := ⟨.empty, .empty, .empty, .empty, defaultTtl⟩

end DataAccess
