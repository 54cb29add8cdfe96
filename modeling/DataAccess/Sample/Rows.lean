/-
  DataAccess.Sample.Rows — record types that are kept as rows.

  Users have all their cells.  Gadgets leave out the cells of what is not
  known about them, so that a row of a gadget may have its key alone.

  Main statement:
    * `User.ofRow_project`  — a user is read back from its row.
-/
import DataAccess.Persistence.Records

namespace DataAccess.Sample

/-- A user. -/
structure User where
  id : Int64
  name : String
  status : String
  age : Int64
  deriving DecidableEq, Inhabited

namespace User

/-- The columns of users. -/
def columns : List Column :=
  [⟨"id", .integer⟩, ⟨"name", .text⟩, ⟨"status", .text⟩, ⟨"age", .integer⟩]

/-- The row of a user. -/
def toRow (u : User) : Row :=
  ⟨[("id", .integer u.id), ("name", .text u.name), ("status", .text u.status),
    ("age", .integer u.age)]⟩

/-- The user of a row. -/
def ofRow (r : Row) : Except CellError User := do
  let id ← r.integer "id"
  let name ← r.text "name"
  let status ← r.text "status"
  let age ← r.integer "age"
  return ⟨id, name, status, age⟩

/-- Users as rows. -/
def rowType : RowType User :=
  ⟨"users", "id", columns, User.id, toRow, fun r => (ofRow r).mapError .cell⟩

/-- A user is read back from its row. -/
theorem ofRow_project (u : User) : ofRow (u.toRow.project columns) = .ok u := by
  simp [ofRow, toRow, columns, Row.project, Row.find?, Row.integer, Row.text, Row.require,
    Assoc.find?]

end User

/-- A gadget. -/
structure Gadget where
  gid : Int64
  label : Option String
  price : Option Float
  active : Option Bool
  deriving Inhabited

namespace Gadget

/-- The columns of gadgets. -/
def columns : List Column :=
  [⟨"label", .text⟩, ⟨"gid", .integer⟩, ⟨"price", .float⟩, ⟨"active", .boolean⟩]

/-- A cell, if there is something to put into it. -/
def cell? {α : Type} (column : String) (scalar : α → Scalar) (a : Option α) :
    List (String × Scalar) :=
  (a.map fun a => (column, scalar a)).toList

/-- The row of a gadget. -/
def toRow (g : Gadget) : Row :=
  ⟨("gid", .integer g.gid) :: (cell? "label" .text g.label ++ cell? "price" .float g.price
    ++ cell? "active" .boolean g.active)⟩

/-- A cell that may be missing. -/
def optional {α : Type} (r : Row) (read : Row → String → Except CellError α) (column : String) :
    Except CellError (Option α) :=
  match r.find? column with
  | some _ => some <$> read r column
  | none => .ok none

/-- The gadget of a row. -/
def ofRow (r : Row) : Except CellError Gadget := do
  let gid ← r.integer "gid"
  let label ← optional r Row.text "label"
  let price ← optional r Row.float "price"
  let active ← optional r Row.boolean "active"
  return ⟨gid, label, price, active⟩

/-- Gadgets as rows. -/
def rowType : RowType Gadget :=
  ⟨"inv.gadgets", "gid", columns, Gadget.gid, toRow, fun r => (ofRow r).mapError .cell⟩

end Gadget

end DataAccess.Sample
