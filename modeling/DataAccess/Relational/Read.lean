/-
  DataAccess.Relational.Read — reading rows.

  Rows are put to a filter and sorted as the documents of their cells, so
  that a cell is only found under a name without dots.  The filter is that of
  documents, except that texts are matched by the patterns of the relational
  store.

  Main statements:
    * `select_ok_iff`   — which selections succeed, and what they return;
    * `tables_select`   — a selection changes no table, whatever comes of it.
-/
import DataAccess.Document.Find
import DataAccess.Document.Matching
import DataAccess.Relational.Basic
import DataAccess.Sql.Like

namespace DataAccess

/-- The document with the cells of a row. -/
def Row.toDocument (r : Row) : Document := Assoc.ofList (r.cells.map fun c => (c.1, .ofScalar c.2))

/-- The filter that rows are put to: patterns take the place that those of
documents have. -/
def rowFilter (cs : ConditionSet) : Document :=
  cs.toList.foldl (fun filter c => match c.2 with
    | .like pattern =>
        Assoc.insert filter c.1 (.document [("$regex", .string (Sql.likeText pattern))])
    | _ => filter) (FindRequest.filterDocument cs)

/-- The rows that match a filter, in order. -/
def Row.matching [Pattern.Engine] (filter : Document) : List Row → Except DocumentError (List Row)
  | [] => .ok []
  | r :: rs => do
      let m ← r.toDocument.meets filter
      let rest ← matching filter rs
      return if m then r :: rest else rest

/-- Rows in the order that sort keys ask for, those that are level as they
stood; none if the sorter panics. -/
def Row.sortBy [Sorter] (keys : List SortKey) (rows : List Row) : Option (List Row) :=
  let sort := FindRequest.sortDocument keys
  Sorter.sort (fun a b => Document.compareBy sort a.toDocument b.toDocument) rows

/-- The window of a query on its answers. -/
def Query.window {α : Type} (q : Query) (answers : List α) : List α :=
  let rest := answers.drop q.offset.toInt.toNat
  if 0 < q.limit.toInt then rest.take q.limit.toInt.toNat else rest

/-- What a query makes of the rows, given those that meet its conditions; none
if the sorter panics. -/
def Query.arrange [Sorter] (q : Query) (columns : List Column) (rows : List Row) :
    Option (List Row) :=
  (Row.sortBy q.sort rows).map fun sorted => (q.window sorted).map (·.project columns)

namespace RelationalStore

/-- The row of a key. -/
def findByKey (s : RelationalStore) (table : String) (id : Int64) (columns : List Column) :
    Except RelationalError Row := do
  s.pass .read
  match Assoc.find? (s.tables.get table) id with
  | some r => return r.project columns
  | none => throw .notFound

/-- The rows that a query selects; none if the sorter panics. -/
def selected [Pattern.Engine] [Sorter] (s : RelationalStore) (table : String)
    (columns : List Column) (q : Query) : Option (Except RelationalError (List Row)) :=
  match Row.matching (rowFilter q.conditions) (s.rows table) with
  | .ok rows => (q.arrange columns rows).map .ok
  | .error e => some (.error (.unsupported e.message))

/-- Notes a clause that a table is selected by. -/
def note (s : RelationalStore) (table : String) (clause : Sql.Clause) : RelationalStore :=
  { s with statements := s.statements ++ [(table, clause)] }

/-- Selects rows by a query.  The clause that it stands for is noted before
the rows are looked at, and stays if the sorter panics. -/
def select [Pattern.Engine] [Sorter] (s : RelationalStore) (table : String)
    (columns : List Column) (q : Query) :
    Option (Except RelationalError (List Row)) × RelationalStore :=
  match s.pass .read with
  | .error e => (some (.error e), s)
  | .ok () =>
      match Sql.translate q with
      | .error e => (some (.error (.query e)), s)
      | .ok clause => (s.selected table columns q, s.note table clause)

/-! ## Laws. -/

variable [Pattern.Engine] [Sorter]

/-- A selection that gets to look at the rows: reading is possible and the
query makes sense. -/
theorem select_eq {s : RelationalStore} {q : Query} (hread : Fault.read ∉ s.faults)
    (hq : q.validate = .ok ()) (table : String) (columns : List Column) :
    s.select table columns q
      = (s.selected table columns q, s.note table (Sql.clauseOf q)) := by
  rw [select, pass_ok_iff.mpr hread, Sql.translate_ok_iff.mpr ⟨hq, rfl⟩]

/-- A selection succeeds if reading is possible, the query makes sense, its
patterns can be matched and the sorter does not panic. -/
theorem select_ok_iff {s : RelationalStore} {table : String} {columns : List Column}
    {q : Query} {rows : List Row} :
    (s.select table columns q).1 = some (.ok rows)
      ↔ Fault.read ∉ s.faults ∧ q.validate = .ok ()
        ∧ s.selected table columns q = some (.ok rows) := by
  cases hp : s.pass .read with
  | error e =>
    have hn : ¬ Fault.read ∉ s.faults := fun h => by rw [pass_ok_iff.mpr h] at hp; cases hp
    simp only [select, hp, Option.some.injEq, reduceCtorEq, hn, false_and]
  | ok u =>
    have hf : Fault.read ∉ s.faults := pass_ok_iff.mp hp
    cases hq : Sql.translate q with
    | error e =>
      have hv : ¬ q.validate = .ok () := fun h => by
        rw [Sql.translate_ok_iff.mpr ⟨h, rfl⟩] at hq; cases hq
      simp only [select, hp, hq, Option.some.injEq, reduceCtorEq, hv, false_and, and_false]
    | ok c =>
      obtain ⟨hv, -⟩ := Sql.translate_ok_iff.mp hq
      rw [select_eq hf hv]
      exact ⟨fun h => ⟨hf, hv, h⟩, fun h => h.2.2⟩

/-- A selection changes no table, whatever comes of it. -/
@[simp] theorem tables_select (s : RelationalStore) (table : String) (columns : List Column)
    (q : Query) :
    (s.select table columns q).2.tables = s.tables := by
  unfold select
  cases s.pass .read with
  | error e => rfl
  | ok u =>
    cases Sql.translate q with
    | error e => rfl
    | ok c => rfl

end RelationalStore

end DataAccess
