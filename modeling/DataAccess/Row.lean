/-
  DataAccess.Row — rows of a table.

  A row is an ordered list of cells, each under the name of its column.
  Setting a cell replaces it in place or adds it at the end.  A projection
  lists cells by a list of columns, once for each time that a column occurs
  in it.

  Main statements:
    * `find?_set`          — a cell that is set reads back, other cells stay;
    * `integer_ok_iff`     — what it takes to read an integer;
    * `keys_project`       — a projection has the columns that the row has, as
                             often as they were asked for.
-/
import DataAccess.Assoc
import DataAccess.Fallible
import DataAccess.Scalar

namespace DataAccess

/-- A column of a table with the kind of its cells. -/
structure Column where
  name : String
  kind : Kind
  deriving Repr, DecidableEq

/-- Why a cell cannot be read. -/
inductive CellError where
  | missing (column : String)
  | wrongKind (column : String) (expected found : Kind)
  deriving Repr, DecidableEq

/-- The message of a cell that cannot be read. -/
def CellError.message : CellError → String
  | missing column => "missing column `" ++ column ++ "`"
  | wrongKind column expected found =>
      "column `" ++ column ++ "` holds " ++ found.name ++ ", expected " ++ expected.name

/-- Cells under the names of their columns, in order. -/
structure Row where
  cells : Assoc String Scalar
  deriving DecidableEq

namespace Row

/-- A row without cells. -/
def empty : Row := ⟨[]⟩

/-- Sets a cell, in place of an earlier one of the same column. -/
def set (r : Row) (column : String) (v : Scalar) : Row := ⟨Assoc.insert r.cells column v⟩

/-- The cell of a column. -/
def find? (r : Row) (column : String) : Option Scalar := Assoc.find? r.cells column

/-- The row with the given cells, set one by one. -/
def ofList (cells : List (String × Scalar)) : Row := ⟨Assoc.ofList cells⟩

/-- The cells of the given columns, in the order of the columns. -/
def project (r : Row) (columns : List Column) : Row :=
  ⟨columns.filterMap fun c => (r.find? c.name).map fun v => (c.name, v)⟩

/-- The cell of a column that has to be there. -/
def require (r : Row) (column : String) : Except CellError Scalar :=
  match r.find? column with
  | some v => .ok v
  | none => .error (.missing column)

/-- The integer in a column. -/
def integer (r : Row) (column : String) : Except CellError Int64 := do
  match ← r.require column with
  | .integer n => return n
  | v => throw (.wrongKind column .integer v.kind)

/-- The double in a column; an integer is read as the nearest double. -/
def float (r : Row) (column : String) : Except CellError Float := do
  match ← r.require column with
  | .float x => return x
  | .integer n => return n.toFloat
  | v => throw (.wrongKind column .float v.kind)

/-- The text in a column. -/
def text (r : Row) (column : String) : Except CellError String := do
  match ← r.require column with
  | .text s => return s
  | v => throw (.wrongKind column .text v.kind)

/-- The truth value in a column. -/
def boolean (r : Row) (column : String) : Except CellError Bool := do
  match ← r.require column with
  | .boolean b => return b
  | v => throw (.wrongKind column .boolean v.kind)

/-! ## Laws. -/

/-- A cell that is set reads back, and other cells stay. -/
@[simp] theorem find?_set (r : Row) (column other : String) (v : Scalar) :
    (r.set column v).find? other = if column = other then some v else r.find? other :=
  Assoc.find?_insert r.cells column other v

/-- An integer is read exactly from a cell that holds it. -/
@[simp] theorem integer_ok_iff {r : Row} {column : String} {n : Int64} :
    r.integer column = .ok n ↔ r.find? column = some (.integer n) := by
  unfold integer require
  cases h : r.find? column with
  | none => simp
  | some v => cases v <;> simp

/-- A projection has the columns that the row has, as often as asked for. -/
theorem keys_project (r : Row) (columns : List Column) :
    Assoc.keys (r.project columns).cells
      = (columns.map (·.name)).filter fun c => (r.find? c).isSome := by
  induction columns with
  | nil => rfl
  | cons c cs ih =>
    simp only [project, Assoc.keys] at ih
    cases h : r.find? c.name <;> simp [project, Assoc.keys, h, ih]

end Row

end DataAccess
