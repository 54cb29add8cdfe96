/-
  DataAccess.Sql.Statement — whole statements on one table.

  Reading statements list the columns to return, or all of them if none is
  named.  Writing statements bind the cells of a row; the key column of an
  update is never assigned.

  Main statements:
    * `foldl_assign`        — assignments are numbered by their places;
    * `update?_eq_none_iff` — an update is empty exactly if the row has no
                              column but the key.
-/
import DataAccess.Row
import DataAccess.Sql.Clause

namespace DataAccess.Sql

/-- The columns to return, or all of them. -/
def columnList (fields : List String) : String :=
  if fields.isEmpty then "*" else ", ".intercalate fields

/-- Reads fields of the rows that a clause asks for. -/
def selectFields (table : String) (fields : List String) (c : Clause) : String :=
  "SELECT " ++ columnList fields ++ " FROM " ++ table
    ++ (if c.isEmpty then "" else " " ++ c.text)

/-- Reads columns of the rows that a clause asks for. -/
def select (table : String) (columns : List Column) (c : Clause) : String :=
  selectFields table (columns.map (·.name)) c

/-- Reads columns of the row with a key. -/
def selectByKey (table key : String) (columns : List Column) : String :=
  "SELECT " ++ columnList (columns.map (·.name)) ++ " FROM " ++ table
    ++ " WHERE " ++ key ++ " = $1"

/-- Asks whether there is a row with a key. -/
def probe (table key : String) : String :=
  "SELECT 1 FROM " ++ table ++ " WHERE " ++ key ++ " = $1"

/-- Adds a row. -/
def insert (table : String) (row : Row) : Clause :=
  let columns := row.cells.map (·.1)
  let places := (List.range row.cells.length).map fun i => placeholder (i + 1)
  ⟨"INSERT INTO " ++ table ++ " (" ++ ", ".intercalate columns ++ ") VALUES ("
      ++ ", ".intercalate places ++ ")",
    row.cells.map (·.2)⟩

/-- The cells that an update assigns: all but the key. -/
def assigned (key : String) (row : Row) : List (String × Scalar) :=
  row.cells.filter fun c => c.1 ≠ key

/-- Assignments with the values that they have bound. -/
structure Assignments where
  texts : List String
  values : List Scalar

/-- Assigns one more cell.  Its value is bound first, and the number of values
is then that of its placeholder. -/
def Assignments.assign (a : Assignments) (cell : String × Scalar) : Assignments :=
  let values := a.values ++ [cell.2]
  ⟨a.texts ++ [cell.1 ++ " = " ++ placeholder values.length], values⟩

/-- Overwrites the cells of the row with a key; none if nothing is assigned. -/
def update? (table key : String) (id : Int64) (row : Row) : Option Clause :=
  let a := (assigned key row).foldl Assignments.assign ⟨[], []⟩
  if a.texts.isEmpty then none
  else
    let values := a.values ++ [.integer id]
    some ⟨"UPDATE " ++ table ++ " SET " ++ ", ".intercalate a.texts ++ " WHERE " ++ key
        ++ " = " ++ placeholder values.length,
      values⟩

/-- Removes the row with a key. -/
def delete (table key : String) (id : Int64) : Clause :=
  ⟨"DELETE FROM " ++ table ++ " WHERE " ++ key ++ " = $1", [.integer id]⟩

/-! ## Laws. -/

/-- **Assignments are numbered by their places**, behind the values that are
bound already. -/
theorem foldl_assign (cells : List (String × Scalar)) (a : Assignments) :
    cells.foldl Assignments.assign a
      = ⟨a.texts ++ cells.mapIdx fun i c => c.1 ++ " = " ++ placeholder (a.values.length + i + 1),
        a.values ++ cells.map (·.2)⟩ := by
  induction cells generalizing a with
  | nil => simp
  | cons c cells ih =>
    rw [List.foldl_cons, ih]
    simp [Assignments.assign, List.mapIdx_cons, Nat.add_assoc, Nat.add_comm, Nat.add_left_comm]

/-- An update in terms of the places of its assignments. -/
theorem update?_eq_mapIdx (table key : String) (id : Int64) (row : Row) :
    update? table key id row
      = if (assigned key row).isEmpty then none
        else some ⟨"UPDATE " ++ table ++ " SET "
            ++ ", ".intercalate
              ((assigned key row).mapIdx fun i c => c.1 ++ " = " ++ placeholder (i + 1))
            ++ " WHERE " ++ key ++ " = " ++ placeholder ((assigned key row).length + 1),
          (assigned key row).map (·.2) ++ [.integer id]⟩ := by
  simp [update?, foldl_assign, List.isEmpty_iff]

/-- An update is empty exactly if the row has no column but the key. -/
theorem update?_eq_none_iff (table key : String) (id : Int64) (row : Row) :
    update? table key id row = none ↔ ∀ c ∈ row.cells, c.1 = key := by
  have h : (assigned key row).isEmpty = true ↔ ∀ c ∈ row.cells, c.1 = key := by
    simp [assigned]
  rw [← h, update?_eq_mapIdx]
  by_cases he : (assigned key row).isEmpty = true <;> simp [he]

end DataAccess.Sql
