/-
  DataAccess.Proofs.Relational.Contents — what tables hold, as maps.

  The contents of tables are a map from names and keys to rows.  A write has
  its meaning there, said without lists, orders and staging: an insert needs
  a free key, an update and a delete need a row, and an update sets the cells
  of the row one by one, those of the key column left out.  Tables list
  their rows by ascending keys, so that the contents say all there is to say
  about them.

  Main statements:
    * `merge_eq_overwrite`   — an update sets the cells outside the key column;
    * `contents_write`       — a write on tables is that write on their contents;
    * `contents_replay`      — so is a replay of any number of writes;
    * `ascending_replay`     — a replay keeps every table in order;
    * `get_eq_of_contents_eq` — tables in order that hold the same are the same.
-/
import Mathlib.Data.List.Forall2
import DataAccess.Relational.Write

namespace DataAccess

/-! ## §1. Contents and the writes on them. -/

/-- The rows of all tables by their keys. -/
abbrev Contents := String → Int64 → Option Row

/-- A write as it was asked for. -/
structure IssuedWrite where
  table : String
  /-- The column of the key. -/
  key : String
  write : Write

/-- A step in the history of what is stored. -/
inductive Effect where
  /-- A row is put under a key, whatever was there. -/
  | put (table : String) (id : Int64) (row : Row)
  | write (w : IssuedWrite)

/-- The row with the cells of another set one by one, those of the key column
left out. -/
def Row.overwrite (old changes : Row) (key : String) : Row :=
  (changes.cells.filter fun c => c.1 ≠ key).foldl (fun r c => r.set c.1 c.2) old

namespace Contents

/-- Nothing is stored. -/
def empty : Contents := fun _ _ => none

/-- Sets what is stored under one key. -/
def set (c : Contents) (table : String) (id : Int64) (r : Option Row) : Contents :=
  fun name other => if table = name ∧ id = other then r else c name other

/-- Executes a write, if it applies. -/
def execute (c : Contents) (w : IssuedWrite) : Option Contents :=
  match w.write with
  | .insert row =>
      match row.integer w.key with
      | .error _ => none
      | .ok id =>
          match c w.table id with
          | none => some (c.set w.table id (some row))
          | some _ => none
  | .update id row =>
      match c w.table id with
      | none => none
      | some old => some (c.set w.table id (some (old.overwrite row w.key)))
  | .delete id =>
      match c w.table id with
      | none => none
      | some _ => some (c.set w.table id none)

/-- Performs one step. -/
def perform (c : Contents) : Effect → Option Contents
  | .put table id row => some (c.set table id (some row))
  | .write w => c.execute w

/-- Performs steps in order, if every one of them applies. -/
def performAll (c : Contents) : List Effect → Option Contents
  | [] => some c
  | e :: es => (c.perform e).bind fun c => c.performAll es

theorem performAll_append (c : Contents) (es fs : List Effect) :
    c.performAll (es ++ fs) = (c.performAll es).bind fun c => c.performAll fs := by
  induction es generalizing c with
  | nil => rfl
  | cons e es ih =>
    simp only [List.cons_append, performAll]
    cases c.perform e with
    | none => rfl
    | some c => exact ih c

end Contents

/-! ## §2. Tables hold contents, in order. -/

/-- The rows are listed by ascending keys, no key twice. -/
def Table.Ascending (t : Table) : Prop := t.Pairwise fun p q => p.1.toInt < q.1.toInt

namespace Tables

/-- What the tables hold. -/
def contents (ts : Tables) : Contents := fun name id => Assoc.find? (ts.get name) id

/-- Every table is in order. -/
def Ascending (ts : Tables) : Prop := ∀ name, (ts.get name).Ascending

/-- A staged write comes from an issued one. -/
def Stages (i : IssuedWrite) (w : StagedWrite) : Prop := i.write.on i.table i.key = .ok w

theorem ascending_empty : Ascending [] := fun _ => List.Pairwise.nil

end Tables

namespace Table

theorem ascending_iff_keys {t : Table} :
    t.Ascending ↔ (Assoc.keys t).Pairwise fun a b => a.toInt < b.toInt := by
  unfold Ascending Assoc.keys
  rw [List.pairwise_map]

/-- Putting a row keeps a table in order. -/
theorem ascending_put {t : Table} (h : t.Ascending) (id : Int64) (r : Row) :
    (t.put id r).Ascending := by
  have htotal : ∀ {a b : Int64}, a ≠ b → ¬ a.toInt < b.toInt → b.toInt < a.toInt := by
    intro a b hne hnlt
    have hne' : a.toInt ≠ b.toInt := fun he => hne (Int64.toInt_inj.mp he)
    omega
  rw [ascending_iff_keys] at h ⊢
  exact Assoc.pairwise_insertSorted (R := fun a b : Int64 => a.toInt < b.toInt)
    (fun _ _ => decide_eq_true_iff) Int.lt_trans htotal h id r

/-- Removing a row keeps a table in order. -/
theorem ascending_erase {t : Table} (h : t.Ascending) (id : Int64) :
    Ascending (Assoc.erase t id) := by
  rw [Assoc.erase_eq_filter]
  exact List.Pairwise.sublist List.filter_sublist h

end Table

/-! ## §3. Writes on tables are writes on their contents. -/

/-- Merging sets the cells outside the key column, one by one. -/
theorem Row.merge_eq_overwrite (old changes : Row) (key : String) :
    old.merge changes key = old.overwrite changes key := by
  unfold merge overwrite
  -- one goes over all cells and skips those of the key, the other filters first
  generalize changes.cells = cells
  induction cells generalizing old with
  | nil => rfl
  | cons c cells ih =>
    by_cases hc : c.1 = key
    · simp only [List.foldl_cons, hc, if_true, ne_eq, not_true_eq_false, decide_false,
        Bool.false_eq_true, not_false_eq_true, List.filter_cons_of_neg]
      exact ih old
    · simp only [List.foldl_cons, hc, if_false, ne_eq, not_false_eq_true, decide_true,
        List.filter_cons_of_pos]
      exact ih (old.set c.1 c.2)

namespace Row

/-- An update writes the cells of the changes, without that of the key, over
those of the row. -/
theorem cells_overwrite (old changes : Row) (key : String) :
    (old.overwrite changes key).cells
      = Assoc.insertAll old.cells (Assoc.erase changes.cells key) := by
  rw [Assoc.erase_eq_filter]
  unfold overwrite
  generalize changes.cells.filter _ = cells
  induction cells generalizing old with
  | nil => rfl
  | cons c cells ih => exact ih (old.set c.1 c.2)

/-- A cell outside the key column is that of the changes if they have one. -/
theorem find?_overwrite (old : Row) {changes : Row} (h : (Assoc.keys changes.cells).Nodup)
    (key column : String) :
    (old.overwrite changes key).find? column
      = (if key = column then none else changes.find? column).or (old.find? column) := by
  have hnodup : (Assoc.keys (Assoc.erase changes.cells key)).Nodup :=
    Assoc.nodup_keys_erase h key
  show Assoc.find? (old.overwrite changes key).cells column = _
  rw [cells_overwrite, Assoc.find?_insertAll, ← Assoc.find?_ofList, Assoc.ofList_of_nodup hnodup,
    Assoc.find?_erase]
  rfl

end Row

namespace Tables

/-- A table that is put shows its rows, other tables stay. -/
theorem contents_put (ts : Tables) (name : String) (t : Table) :
    (ts.put name t).contents
      = fun other id => if name = other then Assoc.find? t id else ts.contents other id := by
  funext other id
  show Assoc.find? ((ts.put name t).get other) id = _
  rw [get_put]
  split <;> rfl

/-- A row that is put is set in the contents. -/
theorem contents_put_row (ts : Tables) (name : String) (id : Int64) (r : Row) :
    (ts.put name ((ts.get name).put id r)).contents = ts.contents.set name id (some r) := by
  rw [contents_put]
  funext other other'
  rw [Table.find?_put]
  unfold Contents.set
  by_cases hn : name = other
  · subst hn
    by_cases hi : id = other' <;> simp [hi, contents]
  · simp [hn]

/-- A row that is removed is gone from the contents. -/
theorem contents_erase_row (ts : Tables) (name : String) (id : Int64) :
    (ts.put name (Assoc.erase (ts.get name) id)).contents = ts.contents.set name id none := by
  rw [contents_put]
  funext other other'
  rw [Assoc.find?_erase]
  unfold Contents.set
  by_cases hn : name = other
  · subst hn
    by_cases hi : id = other' <;> simp [hi, contents]
  · simp [hn]

/-- **A write on tables is the issued write on their contents**: it fails if
that does not apply, and otherwise has the same effect. -/
theorem contents_write (ts : Tables) {i : IssuedWrite} {w : StagedWrite} (h : Stages i w) :
    (ts.write w).toOption.map contents = ts.contents.execute i := by
  obtain ⟨table, key, write⟩ := i
  -- in every case both sides ask first whether there is a row under the key
  cases write with
  | insert row =>
    obtain ⟨id, hid, rfl⟩ := Write.on_insert_ok_iff.mp h
    have hc : ts.contents table id = Assoc.find? (ts.get table) id := rfl
    simp only [Tables.write, Table.write, Contents.execute, hid, hc]
    cases Assoc.find? (ts.get table) id with
    | none => exact congrArg some (contents_put_row ts table id row)
    | some _ => rfl
  | update id row =>
    obtain rfl : ⟨table, key, id, .update row⟩ = w := by simpa [Stages, Write.on] using h
    have hc : ts.contents table id = Assoc.find? (ts.get table) id := rfl
    simp only [Tables.write, Table.write, Contents.execute, hc]
    cases Assoc.find? (ts.get table) id with
    | none => rfl
    | some old =>
      show some (ts.put table ((ts.get table).put id (old.merge row key))).contents
        = some (ts.contents.set table id (some (old.overwrite row key)))
      rw [contents_put_row, Row.merge_eq_overwrite]
  | delete id =>
    obtain rfl : ⟨table, key, id, .delete⟩ = w := by simpa [Stages, Write.on] using h
    have hc : ts.contents table id = Assoc.find? (ts.get table) id := rfl
    simp only [Tables.write, Table.write, Contents.execute, hc]
    cases Assoc.find? (ts.get table) id with
    | none => rfl
    | some _ => exact congrArg some (contents_erase_row ts table id)

/-- A replay is the issued writes executed in order. -/
theorem contents_replay {is : List IssuedWrite} {ws : List StagedWrite}
    (h : List.Forall₂ Stages is ws) (ts : Tables) :
    (ts.replay ws).toOption.map contents = ts.contents.performAll (is.map .write) := by
  induction h generalizing ts with
  | nil => rfl
  | cons hi _ ih =>
    -- the first write fails on both sides or leaves tables to go on with
    simp only [replay, List.map_cons, Contents.performAll, Contents.perform, ← contents_write ts hi]
    cases ts.write _ with
    | error e => rfl
    | ok ts' => exact ih ts'

/-! ## §4. Writes keep tables in order. -/

theorem ascending_put {ts : Tables} (h : ts.Ascending) {name : String} {t : Table}
    (ht : t.Ascending) : (ts.put name t).Ascending := by
  intro other
  rw [get_put]
  split
  · exact ht
  · exact h other

theorem ascending_write {ts ts' : Tables} (h : ts.Ascending) {w : StagedWrite}
    (hw : ts.write w = .ok ts') : ts'.Ascending := by
  unfold write at hw
  cases ht : (ts.get w.table).write w with
  | error e => simp [ht] at hw
  | ok t =>
    obtain rfl : ts.put w.table t = ts' := by simpa [ht] using hw
    refine ascending_put h ?_
    unfold Table.write at ht
    split at ht
    · exact Except.ok.inj ht ▸ Table.ascending_put (h _) _ _
    · cases ht
    · exact Except.ok.inj ht ▸ Table.ascending_put (h _) _ _
    · exact Except.ok.inj ht ▸ Table.ascending_erase (h _) _
    · cases ht

/-- A replay keeps every table in order. -/
theorem ascending_replay {ts ts' : Tables} (h : ts.Ascending) {ws : List StagedWrite}
    (hw : ts.replay ws = .ok ts') : ts'.Ascending := by
  induction ws generalizing ts with
  | nil => exact Except.ok.inj hw ▸ h
  | cons w ws ih =>
    simp only [replay] at hw
    cases hts : ts.write w with
    | error e => simp [hts] at hw
    | ok ts₁ =>
      rw [hts] at hw
      exact ih (ascending_write h hts) hw

end Tables

/-! ## §5. Contents say all there is to say. -/

namespace Table

/-- In a table that is in order, a key leads to the row that is listed under
it. -/
theorem mem_iff_find? {t : Table} (h : t.Ascending) {id : Int64} {r : Row} :
    (id, r) ∈ t ↔ Assoc.find? t id = some r := by
  induction t with
  | nil => simp
  | cons q t ih =>
    obtain ⟨hq, ht⟩ := List.pairwise_cons.mp h
    rw [List.mem_cons, ih ht, Assoc.find?_cons]
    split
    · next he =>
      -- no later row has the key of the first
      have hnone : Assoc.find? t id ≠ some r := by
        intro hr
        have hlt := hq (id, r) ((ih ht).mpr hr)
        rw [he] at hlt
        exact Int.lt_irrefl _ hlt
      constructor
      · rintro (rfl | hr)
        · rfl
        · exact absurd hr hnone
      · intro hr
        exact .inl (Prod.ext he.symm (Option.some.inj hr).symm)
    · next hne =>
      constructor
      · rintro (rfl | hr)
        · exact absurd rfl hne
        · exact hr
      · exact .inr

/-- In a table that is in order, no row is listed twice. -/
theorem nodup_of_ascending {t : Table} (h : t.Ascending) : t.Nodup := by
  refine List.Pairwise.imp ?_ h
  intro p q hlt he
  rw [he] at hlt
  exact Int.lt_irrefl _ hlt

/-- Tables in order that show the same rows are the same. -/
theorem eq_of_find?_eq {t u : Table} (ht : t.Ascending) (hu : u.Ascending)
    (h : ∀ id, Assoc.find? t id = Assoc.find? u id) : t = u := by
  have hperm : t.Perm u := by
    refine (List.perm_ext_iff_of_nodup (nodup_of_ascending ht) (nodup_of_ascending hu)).mpr ?_
    rintro ⟨id, r⟩
    rw [mem_iff_find? ht, mem_iff_find? hu, h]
  -- two different rows cannot each stand before the other
  exact hperm.eq_of_pairwise (fun p q _ _ hpq hqp => absurd hqp (by omega)) ht hu

end Table

/-- Tables in order that hold the same are the same, row for row. -/
theorem Tables.get_eq_of_contents_eq {ts us : Tables} (ht : ts.Ascending) (hu : us.Ascending)
    (h : ts.contents = us.contents) (name : String) : ts.get name = us.get name :=
  Table.eq_of_find?_eq (ht name) (hu name) fun id => congrFun (congrFun h name) id

end DataAccess
