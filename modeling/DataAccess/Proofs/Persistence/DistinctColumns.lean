/-
  DataAccess.Proofs.Persistence.DistinctColumns — which rows hold a column once.

  Setting a cell looks for its column first, so that it never adds a second cell
  of one column.  A projection lists the cells of the columns that it is given,
  and those of a column that is given twice twice:

      a row holds each column once if and only if the last projection on the
      way to it listed no column twice that the row then had.

  The projection of a query is a list of names, in which a name may be repeated
  as well, so that the rows that a query selects are told apart in the same way.

  Main statements:
    * `oneCellEach_iff`         — what it comes to that no column is there twice;
    * `nodup_keys_set_iff`, `nodup_keys_project_iff` — what one call does;
    * `oneCellEach_run_iff`     — what any calls do;
    * `oneCellEach_of_select_iff` — what a query does;
    * `rows_hold_columns_once`  — all of it;
    * `project_repeats_column`  — a row with a column that is there twice.
-/
import Mathlib.Data.List.Dedup
import Mathlib.Data.List.Induction
import DataAccess.Proofs.Persistence.Refusal
import DataAccess.Proofs.Relational.Select
import DataAccess.Sample.Rows

namespace DataAccess

/-! ## §1. Rows. -/

namespace Row

/-- A row holds one cell of each of its columns. -/
structure OneCellEach (r : Row) : Prop where
  distinct : (Assoc.keys r.cells).Nodup
  /-- There are as many cells as different columns. -/
  length : r.cells.length = (Assoc.keys r.cells).dedup.length
  /-- Every cell is the one that is read. -/
  seen : ∀ c ∈ r.cells, r.find? c.1 = some c.2
  /-- No cell of a column is left as it was when the column is set. -/
  overwritten : ∀ column v, ∀ c ∈ (r.set column v).cells, c.1 = column → c.2 = v

/-- No column that the row has is listed twice. -/
def ListsOnce (r : Row) (columns : List Column) : Prop :=
  ∀ c ∈ Assoc.keys r.cells, (columns.map (·.name)).count c ≤ 1

/-- **Each column has one cell if no column is there twice.** -/
theorem oneCellEach_iff {r : Row} : r.OneCellEach ↔ (Assoc.keys r.cells).Nodup := by
  constructor
  · intro h
    exact h.distinct
  · intro h
    refine ⟨h, ?_, fun c hc => (Assoc.find?_eq_some_iff h).mpr hc, fun column v c hc hcolumn => ?_⟩
    · rw [List.dedup_eq_self.mpr h, Assoc.keys, List.length_map]
    · -- the cell is the one that is read after the call, and what was set is read
      have hset : (Assoc.keys (r.set column v).cells).Nodup := Assoc.nodup_keys_insert h column v
      have hread : (r.set column v).find? c.1 = some c.2 := (Assoc.find?_eq_some_iff hset).mpr hc
      rw [find?_set, if_pos hcolumn.symm] at hread
      exact (Option.some.inj hread).symm

/-- **Setting a cell adds no second one of a column**, and takes none away. -/
theorem nodup_keys_set_iff (r : Row) (column : String) (v : Scalar) :
    (Assoc.keys (r.set column v).cells).Nodup ↔ (Assoc.keys r.cells).Nodup := by
  unfold set
  rw [Assoc.keys_insert]
  split
  · rfl
  · next hcolumn =>
    rw [← List.concat_eq_append, List.nodup_concat]
    exact and_iff_right hcolumn

/-- **A projection lists a column twice** if it is given one twice that the row
has. -/
theorem nodup_keys_project_iff (r : Row) (columns : List Column) :
    (Assoc.keys (r.project columns).cells).Nodup ↔ r.ListsOnce columns := by
  rw [keys_project, List.nodup_iff_count_le_one]
  unfold ListsOnce
  simp only [← Assoc.find?_isSome_iff]
  constructor
  · intro h c hc
    rw [← List.count_filter (p := fun c => (r.find? c).isSome) hc]
    exact h c
  · intro h c
    by_cases hc : (r.find? c).isSome = true
    · rw [List.count_filter (p := fun c => (r.find? c).isSome) hc]
      exact h c hc
    · -- a column that the row does not have is not in the projection at all
      have hnone : c ∉ (columns.map (·.name)).filter fun c => (r.find? c).isSome := by
        intro hmem
        exact hc (List.mem_filter.mp hmem).2
      rw [List.count_eq_zero_of_not_mem hnone]
      omega

/-- Only the columns of the projected row itself need to be looked at. -/
theorem listsOnce_iff_project (r : Row) (columns : List Column) :
    r.ListsOnce columns
      ↔ ∀ c ∈ Assoc.keys (r.project columns).cells, (columns.map (·.name)).count c ≤ 1 := by
  unfold ListsOnce
  simp only [keys_project, List.mem_filter, find?, Assoc.find?_isSome_iff]
  constructor
  · intro h c hc
    exact h c hc.2
  · intro h c hc
    by_cases hname : c ∈ columns.map (·.name)
    · exact h c ⟨hname, hc⟩
    · rw [List.count_eq_zero_of_not_mem hname]
      omega

end Row

/-! ## §2. Any calls. -/

/-- What a row is built by. -/
inductive RowCall where
  /-- Sets a cell, in place or handing the row on. -/
  | set (column : String) (v : Scalar)
  | project (columns : List Column)

namespace Row

/-- A row after a call. -/
def call (r : Row) : RowCall → Row
  | .set column v => r.set column v
  | .project columns => r.project columns

/-- The row after any calls on one that is empty. -/
def run (calls : List RowCall) : Row := calls.foldl call empty

/-- The last projection among the calls, and the calls before it: after it,
cells are set only. -/
def LastProjection (calls before : List RowCall) (columns : List Column) : Prop :=
  ∃ after, calls = before ++ .project columns :: after ∧ ∀ x ∈ after, ∃ column v, x = .set column v

theorem run_concat (calls : List RowCall) (x : RowCall) :
    run (calls ++ [x]) = (run calls).call x := by
  unfold run
  rw [List.foldl_append, List.foldl_cons, List.foldl_nil]

theorem not_lastProjection_nil {before : List RowCall} {columns : List Column} :
    ¬ LastProjection [] before columns := by
  intro h
  obtain ⟨after, hcalls, -⟩ := h
  exact absurd hcalls (by simp)

/-- One more call is the last projection itself, or sets a cell after it. -/
theorem lastProjection_concat_iff {calls before : List RowCall} {x : RowCall}
    {columns : List Column} :
    LastProjection (calls ++ [x]) before columns
      ↔ before = calls ∧ x = .project columns
        ∨ (∃ column v, x = .set column v) ∧ LastProjection calls before columns := by
  constructor
  · intro h
    obtain ⟨after, hcalls, hafter⟩ := h
    rcases concat_eq_split_iff.mp hcalls with ⟨hbefore, hx, -⟩ | ⟨rest, rfl, hrest⟩
    · exact .inl ⟨hbefore, hx⟩
    · obtain ⟨hsets, hx⟩ := List.forall_mem_append.mp hafter
      exact .inr ⟨hx x (List.mem_singleton_self x), rest, hrest, hsets⟩
  · intro h
    rcases h with ⟨rfl, rfl⟩ | ⟨hx, after, rfl, hafter⟩
    · exact ⟨[], rfl, List.forall_mem_nil _⟩
    · refine ⟨after ++ [x], concat_eq_split_iff.mpr (.inr ⟨after, rfl, rfl⟩), ?_⟩
      exact List.forall_mem_append.mpr ⟨hafter, List.forall_mem_singleton.mpr hx⟩

/-- **Which rows hold each column once**: those whose last projection listed no
column twice that the row then had. -/
theorem oneCellEach_run_iff (calls : List RowCall) :
    (run calls).OneCellEach
      ↔ ∀ before columns, LastProjection calls before columns →
          (run before).ListsOnce columns := by
  rw [oneCellEach_iff]
  induction calls using List.reverseRecOn with
  | nil =>
    refine iff_of_true List.nodup_nil fun before columns h => ?_
    exact absurd h not_lastProjection_nil
  | append_singleton calls x ih =>
    rw [run_concat]
    cases x with
    | set column v =>
      have hlast : ∀ before columns, LastProjection (calls ++ [.set column v]) before columns
          ↔ LastProjection calls before columns := by
        simp [lastProjection_concat_iff]
      simp only [call, nodup_keys_set_iff, ih, hlast]
    | project listed =>
      -- whatever the row was before, the projection settles it
      have hlast : ∀ before columns, LastProjection (calls ++ [.project listed]) before columns
          ↔ before = calls ∧ listed = columns := by
        simp [lastProjection_concat_iff]
      simp only [call, nodup_keys_project_iff, hlast]
      constructor
      · intro h before columns hthis
        obtain ⟨rfl, rfl⟩ := hthis
        exact h
      · intro h
        exact h calls listed ⟨rfl, rfl⟩

end Row

/-! ## §3. The rows of a query. -/

namespace RowType

variable {α : Type} {R : RowType α} {q : Query}

/-- The names of the columns that a query asks for. -/
def asked (R : RowType α) (q : Query) : List String :=
  if q.projection.isEmpty then R.columns.map (·.name) else q.projection

theorem name_of_column {field : String} {c : Column} (h : R.column field = .ok c) :
    c.name = field := by
  unfold column at h
  cases hfound : R.columns.find? (·.name == field) with
  | none =>
    rw [hfound] at h
    cases h
  | some c' =>
    rw [hfound] at h
    cases h
    have hname : (c.name == field) = true :=
      List.find?_some (p := fun c : Column => c.name == field) hfound
    exact beq_iff_eq.mp hname

/-- The columns that are looked up for a projection have the names asked for. -/
theorem names_of_projected {columns : List Column} (h : R.projected q = .ok columns) :
    columns.map (·.name) = R.asked q := by
  rw [projected_eq] at h
  unfold asked
  split at h
  · next hempty =>
    cases h
    rw [if_pos hempty]
  · next hsome =>
    rw [if_neg hsome]
    -- one by one, in the order of the names
    have hnames : List.Forall₂ (fun field c => c.name = field) q.projection columns :=
      (mapM_ok_iff.mp h).imp fun _ _ hc => name_of_column hc
    rw [← List.forall₂_eq_eq_eq, List.forall₂_map_left_iff]
    exact hnames.flip

end RowType

namespace RelationalStore

variable [Pattern.Engine] [Sorter] {s : RelationalStore} {table : String} {columns : List Column}
  {q : Query} {rows : List Row} {row : Row}

/-- The rows that a query selects are projections. -/
theorem exists_of_mem_select (h : (s.select table columns q).1 = some (.ok rows))
    (hrow : row ∈ rows) : ∃ stored : Row, row = stored.project columns := by
  obtain ⟨-, -, hselected⟩ := select_ok_iff.mp h
  unfold selected at hselected
  split at hselected
  · next found _ =>
    obtain ⟨answers, harrange, hanswers⟩ := Option.map_eq_some_iff.mp hselected
    obtain rfl := Except.ok.inj hanswers
    obtain ⟨sorted, -, rfl⟩ := Option.map_eq_some_iff.mp harrange
    obtain ⟨stored, -, hstored⟩ := List.mem_map.mp hrow
    exact ⟨stored, hstored.symm⟩
  · cases hselected

/-- **A selected row holds each column once** if none of its columns was asked
for twice. -/
theorem oneCellEach_of_select_iff {α : Type} {R : RowType α}
    (hcolumns : R.projected q = .ok columns) (h : (s.select table columns q).1 = some (.ok rows))
    (hrow : row ∈ rows) :
    row.OneCellEach ↔ ∀ c ∈ Assoc.keys row.cells, (R.asked q).count c ≤ 1 := by
  obtain ⟨stored, rfl⟩ := exists_of_mem_select h hrow
  rw [Row.oneCellEach_iff, Row.nodup_keys_project_iff, Row.listsOnce_iff_project,
    RowType.names_of_projected hcolumns]

/-- A query that has nothing but a projection selects all rows. -/
theorem select_projection {names : List String} (hread : Fault.read ∉ s.faults)
    (hnames : (Query.empty.select names).validate = .ok ()) (table : String)
    (columns : List Column) :
    (s.select table columns (Query.empty.select names)).1
      = some (.ok ((s.rows table).map (·.project columns))) := by
  have hfits : (Query.empty.select names).Fits := fun c hc => absurd hc List.not_mem_nil
  have hall : ∀ d : Document,
      d.holdsAll Sql.like (Query.empty.select names).conditions = true := fun _ => rfl
  have hsort : (Query.empty.select names).sort = [] := rfl
  rw [select_eq hread hnames, selected_eq hfits, Query.arrange, hsort, Row.sortBy_nil]
  simp only [hall, List.filter_true, Option.map_some,
    Query.window_all (q := Query.empty.select names) rfl rfl]

end RelationalStore

namespace Row

/-- **ROWS HOLD COLUMNS ONCE, IF THEY ARE PROJECTED ONTO EACH ONCE.**

  * A row that was made by setting cells and by projections, in any order, holds
    each column once if and only if the last projection listed no column twice
    that the row then had.  All is well again after the next one that did not.
  * A row that a query selects, whatever the projection of the query, holds each
    column once if and only if none of its columns was asked for twice. -/
theorem rows_hold_columns_once [Pattern.Engine] [Sorter] {α : Type} (R : RowType α)
    (calls : List RowCall) :
    ((run calls).OneCellEach
        ↔ ∀ before columns, LastProjection calls before columns →
            (run before).ListsOnce columns)
      ∧ ∀ (s : RelationalStore) (table : String) (q : Query) (columns : List Column)
          (rows : List Row),
          R.projected q = .ok columns → (s.select table columns q).1 = some (.ok rows) →
            ∀ row ∈ rows, row.OneCellEach
              ↔ ∀ c ∈ Assoc.keys row.cells, (R.asked q).count c ≤ 1 := by
  refine ⟨oneCellEach_run_iff calls, ?_⟩
  intro s table q columns rows hcolumns hrows row hrow
  exact RelationalStore.oneCellEach_of_select_iff hcolumns hrows hrow

/-- One user, and nothing else. -/
def userStore : RelationalStore :=
  { RelationalStore.empty with
    tables := [("users", [(1, Sample.User.toRow ⟨1, "ada", "active", 30⟩)])] }

/-- A row that was projected onto its key twice, and then once. -/
def keyCalls : List RowCall :=
  [.set "id" (.integer 1), .project [⟨"id", .integer⟩, ⟨"id", .integer⟩],
    .project [⟨"id", .integer⟩]]

open DataAccess.Sample in
/-- Projected once again, the row is as it should be, and so is that of a user
who is asked for by name and key. -/
theorem rows_hold_columns_once_user :
    (run keyCalls).OneCellEach
      ∧ Sample.User.rowType.projected (Query.empty.select ["name", "id"])
          = .ok [⟨"name", .text⟩, ⟨"id", .integer⟩]
      ∧ (userStore.select "users" [⟨"name", .text⟩, ⟨"id", .integer⟩]
            (Query.empty.select ["name", "id"])).1
          = some (.ok [⟨[("name", .text "ada"), ("id", .integer 1)]⟩])
      ∧ OneCellEach ⟨[("name", .text "ada"), ("id", .integer 1)]⟩ := by
  obtain ⟨hcalls, hselect⟩ := rows_hold_columns_once Sample.User.rowType keyCalls
  have hcolumns : Sample.User.rowType.projected (Query.empty.select ["name", "id"])
      = .ok [⟨"name", .text⟩, ⟨"id", .integer⟩] := rfl
  have hrows : (userStore.select "users" [⟨"name", .text⟩, ⟨"id", .integer⟩]
        (Query.empty.select ["name", "id"])).1
      = some (.ok [⟨[("name", .text "ada"), ("id", .integer 1)]⟩]) :=
    RelationalStore.select_projection (by decide) (by decide) _ _
  refine ⟨hcalls.mpr ?_, hcolumns, hrows, ?_⟩
  · intro before columns hlast
    have hconcat : LastProjection (keyCalls.dropLast ++ [.project [⟨"id", .integer⟩]])
        before columns := hlast
    rcases lastProjection_concat_iff.mp hconcat with ⟨rfl, hx⟩ | ⟨⟨column, v, hx⟩, -⟩
    · cases hx
      unfold ListsOnce
      decide
    · cases hx
  · exact (hselect _ _ _ _ _ hcolumns hrows _ (List.mem_singleton_self _)).mpr (by decide)

open DataAccess.Sample in
/-- A row that is projected onto one column twice has two cells of it, of which
only the first is set from then on.  A query may ask for such a row. -/
theorem project_repeats_column :
    ¬ (run [.set "id" (.integer 1), .project [⟨"id", .integer⟩, ⟨"id", .integer⟩]]).OneCellEach
      ∧ (run [.set "id" (.integer 1), .project [⟨"id", .integer⟩, ⟨"id", .integer⟩],
            .set "id" (.integer 2)]).cells
          = [("id", .integer 2), ("id", .integer 1)]
      ∧ Sample.User.rowType.projected (Query.empty.select ["id", "id"])
          = .ok [⟨"id", .integer⟩, ⟨"id", .integer⟩]
      ∧ (userStore.select "users" [⟨"id", .integer⟩, ⟨"id", .integer⟩]
            (Query.empty.select ["id", "id"])).1
          = some (.ok [⟨[("id", .integer 1), ("id", .integer 1)]⟩])
      ∧ ¬ OneCellEach ⟨[("id", .integer 1), ("id", .integer 1)]⟩ := by
  have hrows : (userStore.select "users" [⟨"id", .integer⟩, ⟨"id", .integer⟩]
        (Query.empty.select ["id", "id"])).1
      = some (.ok [⟨[("id", .integer 1), ("id", .integer 1)]⟩]) :=
    RelationalStore.select_projection (by decide) (by decide) _ _
  refine ⟨?_, by decide, rfl, hrows, ?_⟩
  · rw [oneCellEach_iff]
    decide
  · rw [oneCellEach_iff]
    decide

end Row

end DataAccess
