/-
  DataAccess.Proofs.Relational.Statements — writing statements and what they
  write.

  A statement that adds a row or overwrites one lists columns, placeholders and
  values in three places, and nothing but their order says which belong together:

      the k-th placeholder is numbered k, and the k-th value is that of the
      k-th column.

  A table in memory is updated without any statement.  That the two do the same
  is said by reading the assignments off the statement again and setting them
  one by one in the row that is stored: this is the row that a committed update
  leaves, wherever the key column stands in the given row, and also if it does
  not stand there or stands there alone.

  Main statements:
    * `binds_cells`           — cells of a row, taken apart, are in step;
    * `insert_eq`, `update?_eq` — the statements of a row in these terms;
    * `find?_of_commit_update` — the row that a committed update leaves;
    * `statements_line_up`    — statements are in step and write what is stored.
-/
import DataAccess.Proofs.Relational.OwnKey
import DataAccess.Proofs.Sql.Numbering
import DataAccess.Sql.Statement

namespace DataAccess

/-! ## §1. Columns, placeholders and values in step. -/

namespace Sql

/-- Columns, placeholders and values that stand for the same cells of a row: the
k-th placeholder is numbered k, and the k-th value is that of the k-th column. -/
structure Binds (row : Row) (columns places : List String) (values : List Scalar) : Prop where
  places : places = (List.range' 1 columns.length).map placeholder
  values : values.map some = columns.map row.find?

/-- An assignment of an update. -/
def assignment (column place : String) : String := column ++ " = " ++ place

/-- **Cells of a row, taken apart, are in step**, as long as the row lists no
column twice. -/
theorem binds_cells {row : Row} (h : row.Distinct) {cells : List (String × Scalar)}
    (hcells : cells ⊆ row.cells) :
    Binds row (cells.map (·.1)) ((List.range' 1 cells.length).map placeholder)
      (cells.map (·.2)) where
  places := by rw [List.length_map]
  values := by
    rw [List.map_map, List.map_map]
    refine List.map_congr_left fun c hc => ?_
    exact ((Assoc.find?_eq_some_iff h).mpr (hcells hc)).symm

variable (table key : String) (id : Int64) (row : Row)

/-- The statement that adds a row. -/
theorem insert_eq :
    insert table row
      = ⟨"INSERT INTO " ++ table ++ " (" ++ ", ".intercalate (Assoc.keys row.cells) ++ ") VALUES ("
          ++ ", ".intercalate ((List.range' 1 row.cells.length).map placeholder) ++ ")",
        Assoc.values row.cells⟩ := by
  have hplaces : ((List.range row.cells.length).map fun i => placeholder (i + 1))
      = (List.range' 1 row.cells.length).map placeholder := by
    rw [← map_placeholder_range]
    simp only [Nat.add_comm]
  unfold insert
  rw [hplaces]
  rfl

/-- Assignments are numbered by their places. -/
theorem mapIdx_assignment (cells : List (String × Scalar)) :
    (cells.mapIdx fun i c => c.1 ++ " = " ++ placeholder (i + 1))
      = List.zipWith assignment (cells.map (·.1))
        ((List.range' 1 cells.length).map placeholder) := by
  refine List.ext_getElem (by simp) fun i hi _ => ?_
  simp [assignment, Nat.add_comm]

/-- The columns that an update assigns. -/
theorem map_fst_assigned :
    (assigned key row).map (·.1) = (Assoc.keys row.cells).filter (· ≠ key) := by
  unfold assigned Assoc.keys
  rw [List.filter_map]
  rfl

/-- The statement that overwrites a row. -/
theorem update?_eq (h : assigned key row ≠ []) :
    update? table key id row
      = some ⟨"UPDATE " ++ table ++ " SET "
          ++ ", ".intercalate (List.zipWith assignment ((assigned key row).map (·.1))
            ((List.range' 1 (assigned key row).length).map placeholder))
          ++ " WHERE " ++ key ++ " = " ++ placeholder ((assigned key row).length + 1),
        (assigned key row).map (·.2) ++ [.integer id]⟩ := by
  have hempty : ¬ (assigned key row).isEmpty = true := by rwa [List.isEmpty_iff]
  rw [update?_eq_mapIdx, if_neg hempty, mapIdx_assignment]

end Sql

/-! ## §2. Updates that are committed. -/

namespace RelationalStore

/-- What is in the tables after a commit that succeeded. -/
theorem replay_of_commit {s t : RelationalStore} {c : Connection}
    (h : s.commit c = (.ok (), t)) : s.tables.replay c.writes = .ok t.tables := by
  have htables := commit_tables s c
  rw [h] at htables
  exact htables

end RelationalStore

/-- An update of a row that is there. -/
theorem Tables.write_update {ts : Tables} {table key : String} {id : Int64} {row old : Row}
    (h : Assoc.find? (ts.get table) id = some old) :
    ts.write ⟨table, key, id, .update row⟩
      = .ok (ts.put table ((ts.get table).put id (old.overwrite row key))) := by
  unfold Tables.write Table.write
  simp only [h, map_ok, Row.merge_eq_overwrite]

variable {s : RelationalStore} {table key : String} {id : Int64} {row old : Row}

/-- **The row that a committed update leaves** is the one that was there after
the earlier writes of the transaction, with the cells of the given row set. -/
theorem RelationalStore.find?_of_commit_update {t : RelationalStore} {c d : Connection}
    {ts : Tables} (hearlier : s.tables.replay c.writes = .ok ts)
    (hold : Assoc.find? (ts.get table) id = some old)
    (hlater : d.writes = c.writes ++ [⟨table, key, id, .update row⟩])
    (h : s.commit d = (.ok (), t)) :
    Assoc.find? (t.tables.get table) id = some (old.overwrite row key) := by
  have hreplay := replay_of_commit h
  rw [hlater, Tables.replay_append, hearlier] at hreplay
  have hwrite : ts.put table ((ts.get table).put id (old.overwrite row key)) = t.tables := by
    simpa [Tables.replay, Tables.write_update hold] using hreplay
  rw [← hwrite, Tables.get_put, if_pos rfl, Table.find?_put, if_pos rfl]

/-- Asked for an update, a transaction stages it behind its earlier writes. -/
theorem Connection.writes_of_update {c d : Connection}
    (h : c.write s table key (.update id row) = .ok d) :
    d.writes = c.writes ++ [⟨table, key, id, .update row⟩] := by
  obtain ⟨ws, hws, rfl⟩ := write_ok_iff.mp h
  exact (RelationalStore.stage_ok_iff.mp hws).2.2

/-- Without faults an update of a row that is there is accepted and committed. -/
theorem RelationalStore.commit_update (hold : Assoc.find? (s.tables.get table) id = some old)
    (hbegin : Fault.begin ∉ s.faults) (hwrite : Fault.write ∉ s.faults)
    (hcommit : Fault.commit ∉ s.faults) :
    ∃ c d t, s.begin = .ok c ∧ c.write s table key (.update id row) = .ok d
      ∧ s.commit d = (.ok (), t) := by
  have htable : (s.tables.get table).write ⟨table, key, id, .update row⟩
      = .ok ((s.tables.get table).put id (old.merge row key)) := by
    unfold Table.write
    simp only [hold]
  have hbegun : s.begin = .ok ⟨[], false⟩ := by
    unfold RelationalStore.begin
    rw [pass_ok_iff.mpr hbegin]
    rfl
  have hstaged : s.write [] table key (.update id row) = .ok [⟨table, key, id, .update row⟩] :=
    stage_ok_iff.mpr ⟨hwrite, ⟨_, htable⟩, rfl⟩
  have hreplay : s.tables.replay [⟨table, key, id, .update row⟩]
      = .ok (s.tables.put table ((s.tables.get table).put id (old.overwrite row key))) := by
    simp only [Tables.replay, Tables.write_update hold]
  exact ⟨_, _, _, hbegun, Connection.write_ok_iff.mpr ⟨_, hstaged, rfl⟩,
    commit_of_replay (replay_ok_iff.mpr ⟨hcommit, _, hreplay, rfl⟩)⟩

/-! ## §3. Statements write what is stored. -/

namespace Sql

/-- **STATEMENTS ARE IN STEP WITH THEIR VALUES, AND WITH UPDATES IN MEMORY.**
Take any table, any key column, any key and any row without a repeated column.

  * The statement that adds the row lists all its columns in order, with the
    placeholders from one on and the values of the columns.
  * The statement that overwrites a row is missing exactly if the given row has
    no column but the key column.  Otherwise it assigns the other columns in
    their order, with the placeholders from one on and the values of the
    columns, and ends with the next placeholder, bound to the key.
  * Setting these assignments one by one in the row that is stored under the key
    gives the row that is there after a committed update with the same key
    column and the same row; the row that is stored may itself come from earlier
    writes of the transaction.  Without assignments the row stays as it is.
  * Unless a fault is set, such an update of a stored row is accepted and
    committed. -/
theorem statements_line_up (table key : String) (id : Int64) {row : Row} (h : row.Distinct) :
    (∃ places values, Binds row (Assoc.keys row.cells) places values
        ∧ insert table row
          = ⟨"INSERT INTO " ++ table ++ " (" ++ ", ".intercalate (Assoc.keys row.cells)
            ++ ") VALUES (" ++ ", ".intercalate places ++ ")", values⟩)
      ∧ (update? table key id row = none ↔ ∀ column ∈ Assoc.keys row.cells, column = key)
      ∧ (∃ columns places values, columns = (Assoc.keys row.cells).filter (· ≠ key)
        ∧ Binds row columns places values
        ∧ (columns ≠ [] → update? table key id row
          = some ⟨"UPDATE " ++ table ++ " SET "
              ++ ", ".intercalate (List.zipWith assignment columns places)
              ++ " WHERE " ++ key ++ " = " ++ placeholder (columns.length + 1),
            values ++ [.integer id]⟩)
        ∧ ∀ (s s' t : RelationalStore) (c d : Connection) (ts : Tables) (old : Row),
          s.tables.replay c.writes = .ok ts → Assoc.find? (ts.get table) id = some old →
          c.write s' table key (.update id row) = .ok d → s.commit d = (.ok (), t) →
          Assoc.find? (t.tables.get table) id
            = some ((columns.zip values).foldl (fun r c => r.set c.1 c.2) old))
      ∧ ∀ (s : RelationalStore) (old : Row), Assoc.find? (s.tables.get table) id = some old →
        Fault.begin ∉ s.faults → Fault.write ∉ s.faults → Fault.commit ∉ s.faults →
        ∃ c d t, s.begin = .ok c ∧ c.write s table key (.update id row) = .ok d
          ∧ s.commit d = (.ok (), t) := by
  refine ⟨?_, ?_, ?_, fun s old hold => RelationalStore.commit_update hold⟩
  · refine ⟨_, _, ?_, insert_eq table row⟩
    exact binds_cells h (List.Subset.refl _)
  · rw [update?_eq_none_iff]
    unfold Assoc.keys
    rw [List.forall_mem_map]
  · have hcells : assigned key row ⊆ row.cells := List.filter_subset_self _
    refine ⟨_, _, _, map_fst_assigned key row, binds_cells h hcells, fun hne => ?_,
      fun s s' t c d ts old hearlier hold hwrite hcommit => ?_⟩
    · have hassigned : assigned key row ≠ [] := fun hnil => hne (by rw [hnil]; rfl)
      rw [List.length_map]
      exact update?_eq table key id row hassigned
    · -- taken apart and put together again, the cells are what the update sets
      have hzip : ((assigned key row).map (·.1)).zip ((assigned key row).map (·.2))
          = assigned key row := by
        rw [List.zip_map', List.map_id']
      rw [hzip, RelationalStore.find?_of_commit_update hearlier hold
        (Connection.writes_of_update hwrite) hcommit]
      rfl

/-- A row as it is stored. -/
def storedUser : Row :=
  Row.ofList [("id", .integer 3), ("name", .text "bob"), ("city", .text "Turin")]

/-- A row with the key column in the middle, and another key in it. -/
def changedUser : Row :=
  Row.ofList [("name", .text "ada"), ("id", .integer 9), ("age", .integer 36)]

/-- A store with the stored row. -/
def oneUser : RelationalStore := RelationalStore.empty.seed "users" "id" storedUser

/-- The name is overwritten in its place, the age is added at the end, and the
key stays. -/
theorem statements_line_up_users :
    changedUser.Distinct
      ∧ update? "users" "id" 3 changedUser
        = some ⟨"UPDATE users SET name = $1, age = $2 WHERE id = $3",
          [.text "ada", .integer 36, .integer 3]⟩
      ∧ ∃ c d t, oneUser.begin = .ok c
        ∧ c.write oneUser "users" "id" (.update 3 changedUser) = .ok d
        ∧ oneUser.commit d = (.ok (), t)
        ∧ Assoc.find? (t.tables.get "users") 3
          = some (Row.ofList [("id", .integer 3), ("name", .text "ada"), ("city", .text "Turin"),
            ("age", .integer 36)]) := by
  have hdistinct : changedUser.Distinct := by decide
  have hstored : Assoc.find? (oneUser.tables.get "users") 3 = some storedUser := by decide
  obtain ⟨-, -, ⟨columns, places, values, rfl, hbinds, hupdate, hrow⟩, hcommits⟩ :=
    statements_line_up "users" "id" 3 hdistinct
  obtain rfl := hbinds.places
  obtain rfl : values = [.text "ada", .integer 36] :=
    List.map_injective_iff.mpr (fun _ _ => Option.some.inj) hbinds.values
  obtain ⟨c, d, t, hbegin, hwrite, hcommit⟩ :=
    hcommits oneUser storedUser hstored (by decide) (by decide) (by decide)
  have hnone : oneUser.tables.replay c.writes = .ok oneUser.tables := by
    rw [RelationalStore.eq_of_begin hbegin]
    rfl
  exact ⟨hdistinct, hupdate (by decide), c, d, t, hbegin, hwrite, hcommit,
    hrow oneUser oneUser t c d _ storedUser hnone hstored hwrite hcommit⟩

end Sql

end DataAccess
