/-
  DataAccess.Relational.Basic — tables, and why requests to them fail.

  A table lists its rows in ascending order of their integer keys.  A store
  keeps, beside its tables, the faults that are set on it to try out failures,
  how every transaction ended, and the clauses that it was asked to select by.

  It is kept in memory.  Of a store behind a connection there are only the
  statements that it is sent (`Sql.Statement`).

  Main statement:
    * `Tables.get_put`  — a table that is put reads back, others stay.
-/
import DataAccess.Query.Validation
import DataAccess.Row
import DataAccess.Sql.Clause

namespace DataAccess

/-! ## §1. Errors. -/

/-- Where a transaction stands. -/
inductive TransactionState where
  | active
  | committed
  | rolledBack
  deriving Repr, DecidableEq

/-- The words for where a transaction stands. -/
def TransactionState.text : TransactionState → String
  | active => "active"
  | committed => "committed"
  | rolledBack => "rolled back"

/-- What a database engine reports. -/
inductive EngineError where
  | noRow
  | poolClosed
  deriving Repr, DecidableEq

/-- The message of an engine. -/
def EngineError.message : EngineError → String
  | noRow => "no rows returned by a query that expected to return at least one row"
  | poolClosed => "attempted to acquire a connection on a closed pool"

/-- Why a request to a relational store fails. -/
inductive RelationalError where
  | engine (e : EngineError)
  | notFound
  | constraint (text : String)
  | connection (text : String)
  | query (e : QueryError)
  | unsupported (text : String)
  /-- The transaction has ended. -/
  | closed (state : TransactionState)
  | cell (e : CellError)
  deriving DecidableEq

namespace RelationalError

/-- The message of a failed request. -/
def message : RelationalError → String
  | engine e => "sql error :: " ++ e.message
  | notFound => "no matching record"
  | constraint text => "constraint violation :: " ++ text
  | connection text => "connection error :: " ++ text
  | query e => "query error :: " ++ e.message
  | unsupported text => "unsupported query :: " ++ text
  | closed state => "transaction already " ++ state.text
  | cell e => e.message

/-- Nothing was found, which is no failure of the store. -/
def isNotFound : RelationalError → Bool
  | notFound => true
  | engine .noRow => true
  | _ => false

end RelationalError

/-! ## §2. Tables. -/

/-- Rows by their keys, in ascending order of the keys. -/
abbrev Table := Assoc Int64 Row

/-- Tables by their names. -/
abbrev Tables := Assoc String Table

/-- The order of keys. -/
def keyBefore (a b : Int64) : Bool := decide (a.toInt < b.toInt)

namespace Table

/-- Puts a row under a key, in place of one that has it. -/
def put (t : Table) (id : Int64) (r : Row) : Table := Assoc.insertSorted keyBefore t id r

/-- A row that is put reads back, others stay. -/
@[simp] theorem find?_put (t : Table) (id other : Int64) (r : Row) :
    Assoc.find? (t.put id r) other = if id = other then some r else Assoc.find? t other :=
  Assoc.find?_insertSorted keyBefore t id other r

end Table

namespace Tables

/-- The table of a name, without rows if there is none. -/
def get (ts : Tables) (name : String) : Table := (Assoc.find? ts name).getD []

/-- Puts a table in place of the one of its name. -/
def put (ts : Tables) (name : String) (t : Table) : Tables := Assoc.insert ts name t

/-- A table that is put reads back, others stay. -/
@[simp] theorem get_put (ts : Tables) (name other : String) (t : Table) :
    (ts.put name t).get other = if name = other then t else ts.get other := by
  unfold get put
  rw [Assoc.find?_insert]
  split <;> rfl

end Tables

/-! ## §3. Stores. -/

/-- A point at which a store can be made to fail. -/
inductive Fault where
  | begin
  | write
  | commit
  | rollback
  | read
  deriving Repr, DecidableEq

/-- The name of a fault. -/
def Fault.name : Fault → String
  | begin => "Begin"
  | write => "Write"
  | commit => "Commit"
  | rollback => "Rollback"
  | read => "Read"

/-- How a transaction ended. -/
inductive Outcome where
  | committed
  | rolledBack
  /-- It was given up without a commit or a rollback. -/
  | dropped
  deriving Repr, DecidableEq

/-- An in-memory relational store. -/
structure RelationalStore where
  tables : Tables
  faults : List Fault
  /-- How the transactions ended, in order. -/
  outcomes : List Outcome
  /-- The tables and clauses that were selected by, in order. -/
  statements : List (String × Sql.Clause)

namespace RelationalStore

/-- A store without tables and faults. -/
def empty : RelationalStore := ⟨[], [], [], []⟩

/-- The rows of a table, in ascending order of their keys. -/
def rows (s : RelationalStore) (table : String) : List Row := Assoc.values (s.tables.get table)

/-- Sets a fault. -/
def inject (s : RelationalStore) (f : Fault) : RelationalStore :=
  { s with faults := f :: s.faults }

/-- Takes all faults away. -/
def clearFaults (s : RelationalStore) : RelationalStore := { s with faults := [] }

/-- Fails if the fault is set. -/
def pass (s : RelationalStore) (f : Fault) : Except RelationalError Unit :=
  if f ∈ s.faults then .error (.connection ("injected " ++ f.name ++ " failure")) else .ok ()

/-- Puts a row into a table outside of any transaction; a row without an
integer key is left out. -/
def seed (s : RelationalStore) (table key : String) (r : Row) : RelationalStore :=
  match r.integer key with
  | .ok id => { s with tables := s.tables.put table ((s.tables.get table).put id r) }
  | .error _ => s

/-- Notes how a transaction ended. -/
def finish (s : RelationalStore) (o : Outcome) : RelationalStore :=
  { s with outcomes := s.outcomes ++ [o] }

@[simp] theorem pass_ok_iff {s : RelationalStore} {f : Fault} :
    s.pass f = .ok () ↔ f ∉ s.faults := by
  unfold pass
  split <;> simp [*]

end RelationalStore

end DataAccess
