/-
  DataAccess.Persistence.Records — records in a relational store.

  Every change of a record runs in a transaction of its own: begin, one
  write, commit.  The transaction is rolled back on every way out, which does
  nothing after a commit.  Reading goes straight to the store.

  Main statements:
    * `read_of_missing`    — a record that is not there is not found;
    * `write_of_begin`     — a transaction that does not begin changes nothing.
-/
import DataAccess.Persistence.Report
import DataAccess.Relational.Read
import DataAccess.Relational.Transaction

namespace DataAccess

/-- A type whose values are kept as rows of a table. -/
structure RowType (α : Type) where
  table : String
  /-- The column of the key, which holds integers. -/
  key : String
  columns : List Column
  id : α → Int64
  toRow : α → Row
  /-- A row may be refused for any reason that the store may have. -/
  ofRow : Row → Except RelationalError α

namespace RowType

variable {α : Type}

/-- An operation on one record. -/
def context (R : RowType α) (operation : String) (id : Int64) : LogContext :=
  ⟨operation, R.table, some (toString id.toInt)⟩

/-! ## §1. Changes. -/

/-- Asks a transaction for a write and commits it: the result, what is told
of a failure, and where the transaction is left. -/
def applyAndCommit (R : RowType α) (context : LogContext) (w : Write) (t : Transaction)
    (s : RelationalStore) :
    Except PersistenceError Unit × List LogEntry × Transaction × RelationalStore :=
  match t.apply s R.table R.key w with
  | .error e =>
      (.error (.ofFailure (.relational e)), [.ofFailure context (.relational e)], t, s)
  | .ok t =>
      match t.commit s with
      | (.ok (), t, s) => (.ok (), [], t, s)
      | (.error e, t, s) =>
          (.error (.backend (.relational e)), [.failure context e.message], t, s)

/-- Runs a write in a transaction of its own. -/
def write (R : RowType α) (s : RelationalStore) (context : LogContext) (w : Write)
    (message : String) : Report Unit × RelationalStore :=
  match Transaction.begin s with
  | .error e =>
      (⟨.error (.backend (.relational e)), [.failure context e.message], []⟩, s)
  | .ok t =>
      let (result, entries, t, s) := R.applyAndCommit context w t s
      let (released, t, s) := t.rollback s
      let (lines, s) := t.drop s
      let suppressed := match released with
        | .ok () => []
        | .error e => [.suppressed context e.message]
      let success := match result with
        | .ok () => [.success context message]
        | .error _ => []
      (⟨result, entries ++ suppressed ++ success, lines⟩, s)

/-- Adds a record. -/
def create (R : RowType α) (s : RelationalStore) (a : α) : Report Unit × RelationalStore :=
  R.write s (R.context "create" (R.id a)) (.insert (R.toRow a)) "record created"

/-- Sets the cells of a record that is there. -/
def update (R : RowType α) (s : RelationalStore) (a : α) : Report Unit × RelationalStore :=
  R.write s (R.context "update" (R.id a)) (.update (R.id a) (R.toRow a)) "record updated"

/-- Removes a record. -/
def delete (R : RowType α) (s : RelationalStore) (id : Int64) : Report Unit × RelationalStore :=
  R.write s (R.context "delete" id) (.delete id) "record deleted"

/-! ## §2. Reading. -/

/-- The record of a key. -/
def read (R : RowType α) (s : RelationalStore) (id : Int64) : Report α :=
  .ofExcept (R.context "read" id) .relational "record retrieved" (do
    let row ← s.findByKey R.table id R.columns
    R.ofRow row)

/-- The columns that a query asks for, all of them if it has no projection. -/
def projected (R : RowType α) (q : Query) : Except QueryError (List Column) :=
  if q.projection.isEmpty then .ok R.columns
  else q.projection.mapM fun field =>
    match R.columns.find? (·.name == field) with
    | some c => .ok c
    | none => .error (.unknownColumn R.table field)

/-- What is told of the rows that were selected for a search. -/
def searched (R : RowType α) (q : Query) (selected : Except RelationalError (List Row)) :
    Report (List α) :=
  let context : LogContext := ⟨"search", R.table, none⟩
  let line : LogLine :=
    ⟨.trace, context.text ++ " " ++ toString q.conditions.toList.length ++ " conditions"⟩
  { Report.ofExcept context .relational "search executed" (do
      let rows ← selected
      rows.mapM R.ofRow) with lines := [line] }

/-- The records that a query asks for; none if the sorter panics. -/
def search [Pattern.Engine] [Sorter] (R : RowType α) (s : RelationalStore) (q : Query) :
    Option (Report (List α)) × RelationalStore :=
  match q.validate with
  | .error e => (some (.refused e), s)
  | .ok () =>
      match R.projected q with
      | .error e => (some (.refused e), s)
      | .ok columns =>
          let (selected, s) := s.select R.table columns q
          (selected.map (R.searched q), s)

/-! ## Laws. -/

/-- A record that is not there is not found. -/
theorem read_of_missing (R : RowType α) {s : RelationalStore} {id : Int64}
    (hf : Fault.read ∉ s.faults) (h : Assoc.find? (s.tables.get R.table) id = none) :
    (R.read s id).result = .error (.notFound (.relational .notFound)) := by
  have hp : s.pass .read = .ok () := RelationalStore.pass_ok_iff.mpr hf
  simp [read, RelationalStore.findByKey, hp, h, Report.ofExcept, Report.failed,
    PersistenceError.ofFailure, StoreFailure.isNotFound, RelationalError.isNotFound]

/-- A transaction that does not begin changes nothing and is told of once. -/
theorem write_of_begin (R : RowType α) {s : RelationalStore} {e : RelationalError}
    (h : Transaction.begin s = .error e) (context : LogContext) (w : Write) (message : String) :
    R.write s context w message
      = (⟨.error (.backend (.relational e)), [.failure context e.message], []⟩, s) := by
  simp [write, h]

end RowType

end DataAccess
