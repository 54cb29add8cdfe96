/-
  DataAccess.Persistence.Report — what comes of an operation on records.

  Whatever store stands behind an operation, its caller only has to tell
  apart that the query makes no sense, that there is no such data, and that
  the store failed.  Beside its result, an operation reports what is told
  about it: one entry that says what came of it, unless the query was
  refused, and sometimes one more for a failure beside it.
-/
import DataAccess.Document.Matching
import DataAccess.Log
import DataAccess.Relational.Basic
import DataAccess.StoreError

namespace DataAccess

/-! ## §1. Errors. -/

/-- The failure of a store. -/
inductive StoreFailure where
  | relational (e : RelationalError)
  | document (e : DocumentError)
  /-- Of a cache or of a search index. -/
  | other (e : StoreError)
  deriving DecidableEq

namespace StoreFailure

/-- The message of the store. -/
def message : StoreFailure → String
  | relational e => e.message
  | document e => e.message
  | other e => e.message

/-- The store says that there is no such data.  Caches and search indices
never do: a miss is no failure. -/
def isNotFound : StoreFailure → Bool
  | relational e => e.isNotFound
  | document e => e.isNotFound
  | other _ => false

end StoreFailure

/-- Why an operation fails. -/
inductive PersistenceError where
  | validation (e : QueryError)
  | notFound (cause : StoreFailure)
  | backend (cause : StoreFailure)
  deriving DecidableEq

namespace PersistenceError

/-- The message of what lies behind an error. -/
def source : PersistenceError → String
  | validation e => e.message
  | notFound cause => cause.message
  | backend cause => cause.message

/-- The message of an error. -/
def message (e : PersistenceError) : String :=
  match e with
  | validation _ => "validation error :: " ++ e.source
  | notFound _ => "unable to find data :: " ++ e.source
  | backend _ => "backend error :: " ++ e.source

/-- The error that the failure of a store comes to. -/
def ofFailure (f : StoreFailure) : PersistenceError :=
  if f.isNotFound then notFound f else backend f

end PersistenceError

/-- What is told of the failure of a store. -/
def LogEntry.ofFailure (context : LogContext) (f : StoreFailure) : LogEntry :=
  if f.isNotFound then notFound context else failure context f.message

/-! ## §2. Reports. -/

/-- The result of an operation, and what is told about it. -/
structure Report (α : Type) where
  result : Except PersistenceError α
  entries : List LogEntry
  /-- Lines that are told before the entries. -/
  lines : List LogLine

namespace Report

variable {α ε : Type}

/-- The operation succeeded. -/
def done (context : LogContext) (message : String) (a : α) : Report α :=
  ⟨.ok a, [.success context message], []⟩

/-- The store failed. -/
def failed (context : LogContext) (f : StoreFailure) : Report α :=
  ⟨.error (.ofFailure f), [.ofFailure context f], []⟩

/-- The query makes no sense; nothing is told. -/
def refused (e : QueryError) : Report α := ⟨.error (.validation e), [], []⟩

/-- The operation came out as a store says. -/
def ofExcept (context : LogContext) (failure : ε → StoreFailure) (message : String) :
    Except ε α → Report α
  | .ok a => done context message a
  | .error e => failed context (failure e)

/-- The state that a change leaves behind: the new one if it succeeded. -/
def changed (context : LogContext) (failure : ε → StoreFailure) (message : String) (s : α) :
    Except ε α → Report Unit × α
  | .ok t => (done context message (), t)
  | .error e => (failed context (failure e), s)

end Report

end DataAccess
