/-
  DataAccess.Proofs.Persistence.RecordMap — records in a table are a map from
  ids to records.

  A change of a record merges the cells of its row into those that are
  stored, column by column, and reading projects the row that is stored and
  decodes it.  So what is read is the record last put there only because all
  rows of a table have the same columns.  The rows need not list their cells
  in the order in which the record does.

  Main statements:
    * `Shows.overwrite`       — a row that is merged shows the new record;
    * `Row.holds_iff`         — whether a row meets a condition is up to its cells;
    * `represents_change`     — a change that succeeds is one of the map;
    * `Represents.mapM_ofRow` — stored rows are decoded as the records of the map;
    * `run_keeps_map`         — so a table is a map of records after every run.
-/
import DataAccess.Proofs.Persistence.AllOrNothing
import DataAccess.Proofs.Relational.Locality
import DataAccess.Proofs.Relational.Ordering
import DataAccess.Sample.Engines
import DataAccess.Sample.Rows
import Mathlib.Data.Option.Basic

namespace DataAccess

/-! ## §1. Rows that show records. -/

/-- Hooks of a record type that fit together: its columns are distinct and one
of them is that of the key; rows of records have exactly these columns, each
once; the key is the id; and a record is read back from its row. -/
structure RowType.Lawful {α : Type} (R : RowType α) : Prop where
  columns : (R.columns.map Column.name).Nodup
  key : R.key ∈ R.columns.map Column.name
  nodup : ∀ a, (Assoc.keys (R.toRow a).cells).Nodup
  cells : ∀ a column, column ∈ Assoc.keys (R.toRow a).cells ↔ column ∈ R.columns.map Column.name
  id : ∀ a, (R.toRow a).find? R.key = some (.integer (R.id a))
  ofRow : ∀ a, R.ofRow ((R.toRow a).project R.columns) = .ok a

namespace RowType

variable {α : Type} (R : RowType α)

/-- A row shows a record: it has the cells of its row, in whatever order. -/
structure Shows (r : Row) (a : α) : Prop where
  nodup : (Assoc.keys r.cells).Nodup
  find? : ∀ column, r.find? column = (R.toRow a).find? column

variable {R}

theorem shows_toRow (hR : R.Lawful) (a : α) : R.Shows (R.toRow a) a := ⟨hR.nodup a, fun _ => rfl⟩

/-- The record is decoded from the row. -/
theorem Shows.ofRow {r : Row} {a : α} (h : R.Shows r a) (hR : R.Lawful) :
    R.ofRow (r.project R.columns) = .ok a := by
  have hproject : r.project R.columns = (R.toRow a).project R.columns := by
    unfold Row.project
    simp only [h.find?]
  rw [hproject, hR.ofRow]

/-- **Merging the row of a record into one of the same id shows the record.** -/
theorem Shows.overwrite {old : Row} {a b : α} (h : R.Shows old b) (hR : R.Lawful)
    (hid : R.id b = R.id a) : R.Shows (old.overwrite (R.toRow a) R.key) a where
  nodup := by
    rw [Row.cells_overwrite]
    exact Assoc.nodup_keys_insertAll h.nodup _
  find? := by
    intro column
    rw [Row.find?_overwrite old (hR.nodup a), h.find?]
    by_cases hkey : R.key = column
    · -- the key stays, and it is the same for both records
      rw [if_pos hkey, Option.none_or, ← hkey, hR.id, hR.id, hid]
    · rw [if_neg hkey]
      cases ha : (R.toRow a).find? column with
      | some v => rfl
      | none =>
        -- a column that the one record lacks is no column of the type
        have hno : column ∉ Assoc.keys (R.toRow b).cells := by
          rw [hR.cells b, ← hR.cells a, ← Assoc.find?_isSome_iff]
          show ¬ ((R.toRow a).find? column).isSome = true
          simp [ha]
        rw [← Assoc.find?_isSome_iff, Bool.not_eq_true, Option.isSome_eq_false_iff,
          Option.isNone_iff_eq_none] at hno
        exact hno

end RowType

/-! ## §2. Rows that meet conditions. -/

/-- The cell is as asked; patterns are those of LIKE. -/
def Predicate.AsksCell (v : Scalar) : Predicate → Prop
  | .equals w => (Datum.ofScalar v).Ranks w .eq
  | .oneOf ws => ∃ w ∈ ws, (Datum.ofScalar v).Ranks w .eq
  | .like pattern => ∃ t, v = .text t ∧ Sql.LikeMatches pattern.toList t.toList
  | .between low high =>
      (∃ o, (Datum.ofScalar v).Ranks low o ∧ o ≠ .lt)
        ∧ ∃ o, (Datum.ofScalar v).Ranks high o ∧ o ≠ .gt

/-- A row meets a condition: it has a cell under the name, which is no path,
and the cell is as asked. -/
def Row.Meets (r : Row) (c : Condition) : Prop :=
  '.' ∉ c.1.toList ∧ ∃ v, r.find? c.1 = some v ∧ c.2.AsksCell v

theorem Predicate.holds_ofScalar_iff {p : Predicate} {v : Scalar} :
    p.holds Sql.like (Datum.ofScalar v) = true ↔ p.AsksCell v := by
  cases p with
  | equals w => simp only [holds, AsksCell, beq_iff_eq, Datum.compare?_ofScalar_iff]
  | oneOf ws =>
    simp only [holds, AsksCell, List.any_eq_true, beq_iff_eq, Datum.compare?_ofScalar_iff]
  | like pattern =>
    -- only the value of a text is a string
    cases v <;> simp [holds, AsksCell, Datum.ofScalar, Sql.like, Sql.likeChars_iff]
  | between low high =>
    rw [holds, Bool.and_eq_true]
    exact and_congr isAbove_iff isBelow_iff

namespace Row

/-- **Whether a row meets a condition is up to its cells.** -/
theorem holds_iff {r : Row} (h : (Assoc.keys r.cells).Nodup) (c : Condition) :
    r.toDocument.holds Sql.like c = true ↔ r.Meets c := by
  unfold Document.holds Meets
  by_cases hdots : '.' ∈ c.1.toList
  · simp [path?_of_dot r hdots, hdots]
  · rw [path?_toDocument r hdots, last?_eq_find? h]
    cases r.find? c.1 with
    | none => simp
    | some v => simpa [hdots] using Predicate.holds_ofScalar_iff

/-- Where a path leads is up to the cells as well. -/
theorem path?_congr {r r' : Row} (h : (Assoc.keys r.cells).Nodup) (h' : (Assoc.keys r'.cells).Nodup)
    (hfind : ∀ column, r.find? column = r'.find? column) (path : String) :
    r.toDocument.path? path = r'.toDocument.path? path := by
  by_cases hdots : '.' ∈ path.toList
  · rw [path?_of_dot r hdots, path?_of_dot r' hdots]
  · rw [path?_toDocument r hdots, path?_toDocument r' hdots, last?_eq_find? h, last?_eq_find? h',
      hfind]

end Row

/-- And so is how documents compare. -/
theorem Document.compareBy_congr (sort : Document) {a a' b b' : Document}
    (ha : ∀ path, a.path? path = a'.path? path) (hb : ∀ path, b.path? path = b'.path? path) :
    compareBy sort a b = compareBy sort a' b' := by
  induction sort with
  | nil => rfl
  | cons k rest ih =>
    obtain ⟨field, direction⟩ := k
    unfold compareBy
    rw [ha, hb, ih]

/-- A row that shows a record meets the conditions that its own row does. -/
theorem RowType.Shows.holdsAll_iff {α : Type} {R : RowType α} {r : Row} {a : α} (h : R.Shows r a)
    (cs : ConditionSet) :
    r.toDocument.holdsAll Sql.like cs = true ↔ ∀ c ∈ cs.toList, (R.toRow a).Meets c := by
  -- condition by condition, each of which is up to the cells
  rw [Document.holdsAll, List.all_eq_true]
  refine forall₂_congr fun c _ => ?_
  rw [Row.holds_iff h.nodup, Row.Meets, Row.Meets, h.find?]

/-! ## §3. Tables that represent maps. -/

namespace RowType

variable {α : Type} (R : RowType α)

/-- What a change makes of a map of records. -/
def settle (m : Int64 → Option α) : RecordChange α → Int64 → Option α
  | .create a => fun id => if R.id a = id then some a else m id
  | .update a => fun id => if R.id a = id then some a else m id
  | .delete gone => fun id => if gone = id then none else m id

/-- A map admits a change: a new record needs a free id, a change of a record
one that is taken. -/
def Admits (m : Int64 → Option α) : RecordChange α → Prop
  | .create a => m (R.id a) = none
  | .update a => (m (R.id a)).isSome = true
  | .delete id => (m id).isSome = true

/-- The table of a record type represents a map: under each id it has a row
that shows the record of the map, or none if there is none. -/
structure Represents (s : RelationalStore) (m : Int64 → Option α) : Prop where
  ascending : s.tables.Ascending
  rows : ∀ id, Option.Rel (fun r a => R.id a = id ∧ R.Shows r a)
    (s.tables.contents R.table id) (m id)

variable {R} {s t : RelationalStore} {m : Int64 → Option α}

/-- What is stored otherwise makes no difference. -/
theorem Represents.of_tables_eq (h : R.Represents s m) (ht : t.tables = s.tables) :
    R.Represents t m where
  ascending := ht ▸ h.ascending
  rows := ht ▸ h.rows

/-- There is a row exactly if there is a record. -/
theorem Represents.isSome_eq (h : R.Represents s m) (id : Int64) :
    (s.tables.contents R.table id).isSome = (m id).isSome := by
  have hrel := h.rows id
  generalize s.tables.contents R.table id = r at hrel
  generalize m id = x at hrel
  cases hrel with
  | some _ => rfl
  | none => rfl

/-- A row that is stored shows the record of its id. -/
theorem Represents.exists_of_row (h : R.Represents s m) {id : Int64} {r : Row}
    (hr : s.tables.contents R.table id = some r) :
    ∃ a, m id = some a ∧ R.id a = id ∧ R.Shows r a := by
  have hrel := h.rows id
  rw [hr] at hrel
  generalize m id = x at hrel
  cases hrel with
  | some ha => exact ⟨_, rfl, ha⟩

/-- Setting a row and a record under one id keeps what is represented. -/
theorem Represents.set (h : R.Represents s m) (ht : t.tables.Ascending) {id : Int64}
    {r : Option Row} {x : Option α}
    (hcontents : t.tables.contents = s.tables.contents.set R.table id r)
    (hx : Option.Rel (fun r a => R.id a = id ∧ R.Shows r a) r x) :
    R.Represents t fun other => if id = other then x else m other where
  ascending := ht
  rows := by
    intro other
    rw [hcontents]
    by_cases hid : id = other
    · obtain rfl := hid
      rw [Contents.set_self, if_pos rfl]
      exact hx
    · rw [Contents.set_of_ne _ _ fun he => hid (Prod.mk.inj he).2, if_neg hid]
      exact h.rows other

/-- A change is applicable to a table exactly if the map admits it. -/
theorem Represents.applicable_iff (h : R.Represents s m) (hR : R.Lawful) (ch : RecordChange α) :
    R.Applicable s ch ↔ R.Admits m ch := by
  cases ch with
  | create a =>
    have hid : (R.toRow a).integer R.key = .ok (R.id a) := Row.integer_ok_iff.mpr (hR.id a)
    have hfree : s.tables.contents R.table (R.id a) = none ↔ m (R.id a) = none := by
      rw [← Option.isNone_iff_eq_none, ← Option.isNone_iff_eq_none, ← Option.not_isSome,
        ← Option.not_isSome, h.isSome_eq]
    show (∃ id, (R.toRow a).integer R.key = .ok id ∧ _) ↔ m (R.id a) = none
    rw [← hfree, hid]
    constructor
    · rintro ⟨id, hok, hnone⟩
      obtain rfl : R.id a = id := Except.ok.inj hok
      exact hnone
    · exact fun hnone => ⟨R.id a, rfl, hnone⟩
  | update a =>
    show (s.tables.contents R.table (R.id a)).isSome = true ↔ (m (R.id a)).isSome = true
    rw [h.isSome_eq]
  | delete id =>
    show (s.tables.contents R.table id).isSome = true ↔ (m id).isSome = true
    rw [h.isSome_eq]

/-- **A write that is executed changes the map as its change does.** -/
theorem Represents.execute (h : R.Represents s m) (hR : R.Lawful) (ht : t.tables.Ascending)
    {ch : RecordChange α}
    (hw : s.tables.contents.execute ⟨R.table, R.key, R.writeOf ch⟩ = some t.tables.contents) :
    R.Represents t (R.settle m ch) := by
  cases ch with
  | create a =>
    have hid : (R.toRow a).integer R.key = .ok (R.id a) := Row.integer_ok_iff.mpr (hR.id a)
    simp only [writeOf, Contents.execute, hid] at hw
    split at hw
    · exact h.set ht (Option.some.inj hw).symm (.some ⟨rfl, shows_toRow hR a⟩)
    · cases hw
  | update a =>
    simp only [writeOf, Contents.execute] at hw
    split at hw
    · cases hw
    · next old hold =>
      -- the row that is there shows the record that the update replaces
      obtain ⟨b, -, hid, hb⟩ := h.exists_of_row hold
      exact h.set ht (Option.some.inj hw).symm (.some ⟨rfl, hb.overwrite hR hid⟩)
  | delete id =>
    simp only [writeOf, Contents.execute] at hw
    split at hw
    · cases hw
    · exact h.set ht (Option.some.inj hw).symm .none

/-- **What a change makes of a table**: it succeeds exactly if no fault speaks
against it and the map admits it, and then it is that change of the map.
Otherwise the map stays. -/
theorem represents_change (hR : R.Lawful) (h : R.Represents s m) (ch : RecordChange α) :
    ((R.change s ch).1.result = .ok ()
        ↔ Fault.begin ∉ s.faults ∧ Fault.write ∉ s.faults ∧ Fault.commit ∉ s.faults
          ∧ R.Admits m ch)
      ∧ R.Represents (R.change s ch).2
          (match (R.change s ch).1.result with
            | .ok () => R.settle m ch
            | .error _ => m) := by
  rw [← h.applicable_iff hR, ← R.firstFailure?_eq_none_iff ch]
  have hdecided := R.change_decided s ch
  cases hf : R.firstFailure? s ch with
  | none =>
    rw [hf] at hdecided
    rw [hdecided.result]
    exact ⟨by simp, h.execute hR (hdecided.ascending h.ascending) hdecided.contents⟩
  | some p =>
    rw [hf] at hdecided
    rw [hdecided.result]
    exact ⟨by simp, h.of_tables_eq hdecided.tables⟩

/-! ## §4. Reading and searching. -/

/-- What is read is the record of the map, and nothing is found where there is
none. -/
theorem Represents.read (h : R.Represents s m) (hR : R.Lawful) (hread : Fault.read ∉ s.faults)
    (id : Int64) :
    (R.read s id).result = match m id with
      | some a => .ok a
      | none => .error (.notFound (.relational .notFound)) := by
  have hrow : s.tables.contents R.table id = Assoc.find? (s.tables.get R.table) id := rfl
  cases hr : s.tables.contents R.table id with
  | none =>
    have hm : m id = none := by
      rw [← Option.isNone_iff_eq_none, ← Option.not_isSome, ← h.isSome_eq, hr]
      rfl
    rw [R.read_of_missing hread (hrow ▸ hr), hm]
  | some r =>
    obtain ⟨a, hm, -, hshows⟩ := h.exists_of_row hr
    have hfind : s.findByKey R.table id R.columns = .ok (r.project R.columns) := by
      unfold RelationalStore.findByKey
      rw [RelationalStore.pass_ok_iff.mpr hread, ← hrow, hr]
      rfl
    unfold RowType.read
    rw [hfind, hm]
    show (Report.ofExcept _ _ _ (R.ofRow (r.project R.columns))).result = .ok a
    rw [hshows.ofRow hR]
    rfl

/-- An entry of the table has the record of its key. -/
theorem Represents.exists_of_mem (h : R.Represents s m) {e : Int64 × Row}
    (he : e ∈ s.tables.get R.table) : ∃ a, m e.1 = some a ∧ R.id a = e.1 ∧ R.Shows e.2 a :=
  h.exists_of_row ((Table.mem_iff_find? (h.ascending R.table)).mp he)

/-- **Entries of the table are decoded as the records of the map.** -/
theorem Represents.mapM_ofRow (h : R.Represents s m) (hR : R.Lawful) {found : Table}
    (hfound : ∀ e ∈ found, e ∈ s.tables.get R.table) :
    ((Assoc.values found).map (·.project R.columns)).mapM R.ofRow
        = .ok (found.filterMap fun e => m e.1)
      ∧ (found.filterMap fun e => m e.1).map R.id = Assoc.keys found := by
  induction found with
  | nil => exact ⟨rfl, rfl⟩
  | cons e found ih =>
    obtain ⟨hrest, hids⟩ := ih fun e' he' => hfound e' (List.mem_cons_of_mem _ he')
    obtain ⟨a, hm, hid, hshows⟩ := h.exists_of_mem (hfound e List.mem_cons_self)
    have hcons : (e :: found).filterMap (fun e => m e.1) = a :: found.filterMap fun e => m e.1 :=
      List.filterMap_cons_some hm
    rw [hcons]
    constructor
    · show (e.2.project R.columns :: (Assoc.values found).map (·.project R.columns)).mapM R.ofRow
        = _
      rw [List.mapM_cons, hshows.ofRow hR, hrest]
      rfl
    · rw [List.map_cons, hids, hid]
      rfl

/-- Entries of the table have different keys. -/
theorem Represents.nodup_keys (h : R.Represents s m) :
    (Assoc.keys (s.tables.get R.table)).Nodup := by
  refine List.pairwise_map.mpr ((h.ascending R.table).imp fun {e f} hlt he => ?_)
  rw [he] at hlt
  exact Int.lt_irrefl _ hlt

/-- A record of a map is one that a query asks for. -/
def Wanted (R : RowType α) (m : Int64 → Option α) (q : Query) (a : α) : Prop :=
  m (R.id a) = some a ∧ ∀ c ∈ q.conditions.toList, (R.toRow a).Meets c

/-- The sort keys of a query put the records that it asks for in an order. -/
def Sortable (R : RowType α) (m : Int64 → Option α) (q : Query) : Prop :=
  ∀ as : List α, (∀ a ∈ as, R.Wanted m q a) → q.Orders (as.map R.toRow)

/-- An entry whose row meets the conditions has a record that is asked for. -/
theorem Represents.wanted_of_mem (h : R.Represents s m) {q : Query} {e : Int64 × Row}
    (he : e ∈ s.entries R.table q) : ∃ a, R.Wanted m q a ∧ R.id a = e.1 ∧ R.Shows e.2 a := by
  obtain ⟨hin, hholds⟩ := List.mem_filter.mp he
  obtain ⟨a, hm, hid, hshows⟩ := h.exists_of_mem hin
  refine ⟨a, ⟨?_, (hshows.holdsAll_iff _).mp hholds⟩, hid, hshows⟩
  rw [hid, hm]

/-- Then they put the stored rows in an order as well. -/
theorem Represents.orders_entries (h : R.Represents s m) (hR : R.Lawful) {q : Query}
    (horders : R.Sortable m q) : q.Orders (Assoc.values (s.entries R.table q)) := by
  let as := (s.entries R.table q).filterMap fun e => m e.1
  have has : ∀ a ∈ as, R.Wanted m q a := by
    intro a ha
    obtain ⟨e, he, hm⟩ := List.mem_filterMap.mp ha
    obtain ⟨b, hb, hid, -⟩ := h.wanted_of_mem he
    obtain rfl : b = a := by
      rw [← hid, hb.1] at hm
      exact Option.some.inj hm
    exact hb
  -- a stored row leads every path where the row of its record does
  refine ConsistentOn.of_rel (horders as has)
    (r := fun r r' => ∀ path, r.toDocument.path? path = r'.toDocument.path? path) ?_
    fun a a' b b' ha hb => Document.compareBy_congr _ ha hb
  intro r hr
  obtain ⟨e, he, rfl⟩ := List.mem_map.mp hr
  obtain ⟨a, ha, hid, hshows⟩ := h.wanted_of_mem he
  have hmem : a ∈ as := by
    refine List.mem_filterMap.mpr ⟨e, he, ?_⟩
    rw [← hid, ha.1]
  exact ⟨R.toRow a, List.mem_map_of_mem hmem,
    Row.path?_congr hshows.nodup (hR.nodup a) hshows.find?⟩

section Searching

variable [Pattern.Engine] [Sorter]

/-- A search for all columns reports on the rows that are selected. -/
theorem search_eq (R : RowType α) (s : RelationalStore) {q : Query} (hq : q.validate = .ok ())
    (hprojection : q.projection = []) :
    (R.search s q).1 = (s.select R.table R.columns q).1.map (R.searched q) := by
  have hcolumns : R.projected q = .ok R.columns := if_pos (by rw [hprojection]; rfl)
  unfold RowType.search
  rw [hq, hcolumns]

/-- **A search that makes sense gets an answer** if its patterns fit into the
machine and its sort keys put the records that it asks for in an order.
Nothing being cut, the answer lists these records, each once. -/
theorem Represents.search (h : R.Represents s m) (hR : R.Lawful) (hread : Fault.read ∉ s.faults)
    {q : Query} (hq : q.validate = .ok ()) (hprojection : q.projection = []) (hfits : q.Fits)
    (horders : R.Sortable m q) :
    ∃ as, (R.search s q).1.map Report.result = some (.ok as)
      ∧ (q.limit = 0 → q.offset = 0 → (as.map R.id).Nodup ∧ ∀ a, a ∈ as ↔ R.Wanted m q a) := by
  have hselect := RelationalStore.select_entries hread hq hfits (h.orders_entries hR horders)
    R.columns
  have hperm : (Table.sortBy q.sort (s.entries R.table q)).Perm (s.entries R.table q) :=
    List.mergeSort_perm _ _
  generalize Table.sortBy q.sort (s.entries R.table q) = sorted at hselect hperm
  have hmem : ∀ e ∈ q.window sorted, e ∈ s.tables.get R.table := fun e he =>
    List.mem_of_mem_filter (hperm.mem_iff.mp (Query.mem_of_mem_window he))
  obtain ⟨hdecoded, hids⟩ := h.mapM_ofRow hR hmem
  refine ⟨(q.window sorted).filterMap fun e => m e.1, ?_, fun hlimit hoffset => ⟨?_, fun a => ?_⟩⟩
  · rw [R.search_eq s hq hprojection, hselect]
    show some (Report.ofExcept _ _ _ (List.mapM R.ofRow _)).result = _
    rw [hdecoded]
    rfl
  · -- each once: the ids are the keys of the entries
    rw [hids, Query.window_all hlimit hoffset]
    have hkeys : (Assoc.keys (s.entries R.table q)).Nodup :=
      Assoc.nodup_keys_filter h.nodup_keys _
    exact ((hperm.map _).nodup_iff).mpr hkeys
  · rw [Query.window_all hlimit hoffset, List.mem_filterMap]
    constructor
    · -- what is listed is a record of the map
      rintro ⟨e, he, hm⟩
      obtain ⟨b, hb, hid, -⟩ := h.wanted_of_mem (hperm.mem_iff.mp he)
      obtain rfl : b = a := by
        rw [← hid, hb.1] at hm
        exact Option.some.inj hm
      exact hb
    · -- a record of the map has a row, which is listed
      rintro ⟨hm, hmeets⟩
      obtain ⟨r, hr⟩ : ∃ r, s.tables.contents R.table (R.id a) = some r := by
        rw [← Option.isSome_iff_exists, h.isSome_eq, hm]
        rfl
      obtain ⟨b, hb, -, hshows⟩ := h.exists_of_row hr
      obtain rfl : a = b := Option.some.inj (hm.symm.trans hb)
      refine ⟨(R.id a, r), hperm.mem_iff.mpr (List.mem_filter.mpr ⟨?_, ?_⟩), hm⟩
      · exact (Table.mem_iff_find? (h.ascending R.table)).mpr hr
      · exact (hshows.holdsAll_iff _).mpr hmeets

end Searching

end RowType

/-! ## §5. Runs. -/

/-- A call on the records of a type, or on the faults of their store. -/
inductive RecordCall (α : Type) where
  | change (ch : RecordChange α)
  | read (id : Int64)
  | search (q : Query)
  | inject (f : Fault)
  | clearFaults

/-- A store, and the map of records that the calls on it have left. -/
structure Ledger (α : Type) where
  store : RelationalStore
  records : Int64 → Option α

namespace RowType

section Runs

variable [Pattern.Engine] [Sorter] {α : Type} (R : RowType α)

/-- Makes one call.  The map changes only if the call is a change that
succeeds. -/
def call (l : Ledger α) : RecordCall α → Ledger α
  | .change ch =>
      ⟨(R.change l.store ch).2, match (R.change l.store ch).1.result with
        | .ok () => R.settle l.records ch
        | .error _ => l.records⟩
  | .read _ => l
  | .search q => ⟨(R.search l.store q).2, l.records⟩
  | .inject f => ⟨l.store.inject f, l.records⟩
  | .clearFaults => ⟨l.store.clearFaults, l.records⟩

/-- Makes calls one after the other, where there are no records yet. -/
def run (s : RelationalStore) (calls : List (RecordCall α)) : Ledger α :=
  calls.foldl R.call ⟨s, fun _ => none⟩

variable {R}

/-- A search changes no table. -/
theorem tables_search (s : RelationalStore) (q : Query) : (R.search s q).2.tables = s.tables := by
  unfold search
  cases q.validate with
  | error e => rfl
  | ok u =>
    cases R.projected q with
    | error e => rfl
    | ok columns =>
      exact s.tables_select R.table columns q

/-- **Every call keeps a table the representation of the map.** -/
theorem represents_call (hR : R.Lawful) {l : Ledger α} (h : R.Represents l.store l.records)
    (c : RecordCall α) : R.Represents (R.call l c).store (R.call l c).records := by
  cases c with
  | change ch => exact (represents_change hR h ch).2
  | read id => exact h
  | search q => exact h.of_tables_eq (tables_search l.store q)
  | inject f => exact h.of_tables_eq rfl
  | clearFaults => exact h.of_tables_eq rfl

theorem represents_run (hR : R.Lawful) {s : RelationalStore} (htables : s.tables.Ascending)
    (hempty : s.tables.get R.table = []) (calls : List (RecordCall α)) :
    R.Represents (R.run s calls).store (R.run s calls).records := by
  have hstart : R.Represents s fun _ => none := by
    refine ⟨htables, fun id => ?_⟩
    show Option.Rel _ (Assoc.find? (s.tables.get R.table) id) none
    rw [hempty]
    exact .none
  exact List.foldlRecOn (motive := fun l : Ledger α => R.Represents l.store l.records)
    calls R.call hstart fun _ h c _ => represents_call hR h c

end Runs

end RowType

namespace Sample.User

/-- The hooks of users fit together. -/
theorem lawful : rowType.Lawful where
  columns := by decide
  key := by decide
  nodup := fun _ => show ["id", "name", "status", "age"].Nodup by decide
  cells := fun _ _ => Iff.rfl
  id := fun _ => rfl
  ofRow := by
    intro u
    show (ofRow (u.toRow.project columns)).mapError RelationalError.cell = _
    rw [ofRow_project]
    rfl

/-- Users that come and go; one change fails for a fault. -/
def calls : List (RecordCall User) :=
  [.change (.create ⟨1, "ada", "active", 30⟩), .change (.create ⟨2, "bob", "active", 17⟩),
    .inject .commit, .change (.delete 1), .clearFaults, .change (.update ⟨1, "ada", "away", 31⟩),
    .read 1, .change (.create ⟨2, "cy", "active", 40⟩)]

/-- Those who are of age. -/
def adults : Query := Query.empty.filter "age" (.between (.integer 18) (.integer 99))

end Sample.User

/-! ## §6. Searches without an answer. -/

namespace Sql

/-- A pattern is no longer than the text that it is put as. -/
theorem length_le_length_likeText (pattern : String) :
    pattern.length ≤ (likeText pattern).length := by
  have hpieces : ∀ cs : List Char, cs.length ≤ (cs.flatMap likePiece).length := by
    intro cs
    induction cs with
    | nil => exact Nat.le_refl 0
    | cons c cs ih =>
      have hpiece : 0 < (likePiece c).length := by
        unfold likePiece Pattern.literal
        repeat' split
        all_goals exact Nat.succ_pos _
      rw [List.flatMap_cons, List.length_append, List.length_cons]
      omega
  have hall := hpieces pattern.toList
  rw [likeText, String.length_ofList, List.length_append, List.length_append,
    ← String.length_toList]
  omega

open DataAccess.Sample in
/-- A pattern that is too long does not fit. -/
theorem not_fits_of_length {pattern : String} (h : Sample.maxPatternLength < pattern.length) :
    ¬ Fits pattern := by
  intro hfits
  have hlength := length_le_length_likeText pattern
  have hle : (likeText pattern).length ≤ Sample.maxPatternLength := of_decide_eq_true hfits
  omega

end Sql

section Refused

variable [Pattern.Engine]

/-- A pattern that does not fit is refused, whatever it is put to. -/
theorem isAsExpected_of_not_fits {pattern : String} (h : ¬ Sql.Fits pattern) (x : Option Datum) :
    Document.isAsExpected x (rowDatum (.like pattern)) = .error (.badPattern Pattern.tooLarge) := by
  have hops : Document.isOperators [("$regex", .string (Sql.likeText pattern))] = true := by
    simp [Document.isOperators]
  have hoptions : Document.patternOptions [("$regex", .string (Sql.likeText pattern))]
      = ⟨false, false⟩ := by
    simp [Document.patternOptions, Assoc.find?]
  have hunread : Pattern.compile ⟨false, false⟩ (Sql.likeText pattern)
      = .error Pattern.tooLarge := by
    rw [Sql.compile_likeText, if_neg h]
  simp only [rowDatum, Document.isAsExpected, hops, if_true, hoptions, Document.operatorsHold,
    Document.operatorHolds_regex, hunread]
  rfl

/-- A selection by such a pattern alone has no answer if there is a row. -/
theorem RelationalStore.selected_of_not_fits [Sorter] {s : RelationalStore} {q : Query}
    {table field pattern : String} (h : ¬ Sql.Fits pattern)
    (hconditions : q.conditions.toList = [(field, .like pattern)]) (hrows : s.rows table ≠ [])
    (columns : List Column) :
    s.selected table columns q
      = some (.error (.unsupported (DocumentError.badPattern Pattern.tooLarge).message)) := by
  obtain ⟨r, rs, hr⟩ := List.exists_cons_of_ne_nil hrows
  have hmeets : r.toDocument.meets (rowFilter q.conditions)
      = .error (.badPattern Pattern.tooLarge) := by
    rw [rowFilter_eq, hconditions]
    simp only [List.map_cons, Document.meets, isAsExpected_of_not_fits h]
  unfold selected
  rw [hr, Row.matching, hmeets]
  rfl

end Refused

namespace Sample.User

/-- A user, and a pattern of very many characters to search for. -/
def single : RelationalStore :=
  (rowType.run .empty [.change (.create ⟨1, "ada", "active", 30⟩)]).store

/-- Names that are a hundred thousand characters long. -/
def longNames : Query :=
  Query.empty.filter "name" (.like (String.ofList (List.replicate 100000 '_')))

end Sample.User

end DataAccess
