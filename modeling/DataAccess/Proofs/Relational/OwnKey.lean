/-
  DataAccess.Proofs.Relational.OwnKey — stored rows carry their own keys.

  The key of a row is kept twice: the table lists the row under it, and the
  row has a cell for it.  Nothing in the store compares the two.  They agree
  because every way into a table keeps them together: a row that is seeded or
  inserted is listed under the key that is read off its cell, an update leaves
  out the cell of the key column, whatever its row holds there, and a
  transaction replays nothing but such writes.  This needs that all calls on
  the table name the same key column and give rows without repeated columns.

  Main statements:
    * `Row.Carries.merge`    — an update leaves the key of its row alone;
    * `holds_perform`        — which writes a transaction holds after a call;
    * `tables_perform`       — what a call can do to the tables;
    * `KeepsKeys.perform`    — a call keeps the two keys of every row together;
    * `Table.filter_key`     — in a table in order, one row at most has a key;
    * `stored_rows_own_keys` — reading by key and selecting by the key column
                               therefore agree.
-/
import DataAccess.Proofs.Document.Comparator
import DataAccess.Proofs.Relational.Conflict
import DataAccess.Proofs.Relational.LifeCycle

namespace DataAccess

/-! ## §1. Rows and writes that carry a key. -/

namespace Row

/-- No column is listed twice. -/
def Distinct (r : Row) : Prop := (Assoc.keys r.cells).Nodup

instance (r : Row) : Decidable r.Distinct := inferInstanceAs (Decidable (Assoc.keys r.cells).Nodup)

/-- A row carries a key: no column is listed twice, and the key column holds
the key. -/
structure Carries (r : Row) (key : String) (id : Int64) : Prop where
  distinct : r.Distinct
  key : r.find? key = some (.integer id)

variable {key : String} {id : Int64}

theorem carries_of_integer {r : Row} (hdistinct : r.Distinct) (h : r.integer key = .ok id) :
    r.Carries key id :=
  ⟨hdistinct, integer_ok_iff.mp h⟩

/-- **An update leaves the key of its row alone**, whatever its own row holds
in that column. -/
theorem Carries.merge {old changes : Row} (h : old.Carries key id) (hchanges : changes.Distinct) :
    (old.merge changes key).Carries key id where
  distinct := by
    rw [merge_eq_overwrite, Distinct, cells_overwrite]
    exact Assoc.nodup_keys_insertAll h.distinct _
  key := by
    rw [merge_eq_overwrite, find?_overwrite old hchanges, if_pos rfl, Option.none_or]
    exact h.key

end Row

/-- The row that is given to a write, if one is. -/
def Write.row? : Write → Option Row
  | insert row => some row
  | update _ row => some row
  | delete _ => none

/-- Staged for a table, a write names its key column; a new row carries its
key, and other rows have distinct columns. -/
def StagedWrite.KeepsKey (w : StagedWrite) (table key : String) : Prop :=
  w.table = table → w.key = key ∧
    match w.change with
    | .insert row => row.Carries key w.id
    | .update row => row.Distinct
    | .delete => True

section Writes

variable {table key : String}

/-- A write that names the key column, with a row of distinct columns, is staged so. -/
theorem Tables.Stages.keepsKey {i : IssuedWrite} {v : StagedWrite} (h : Stages i v)
    (hi : i.table = table → i.key = key ∧ ∀ row ∈ i.write.row?, row.Distinct) :
    v.KeepsKey table key := by
  obtain ⟨name, k, w⟩ := i
  intro ht
  cases w with
  | insert row =>
    -- an insert is staged under the key that is read off its row
    obtain ⟨id, hid, rfl⟩ := Write.on_insert_ok_iff.mp h
    obtain ⟨rfl, hrow⟩ := hi ht
    exact ⟨rfl, Row.carries_of_integer (hrow row rfl) hid⟩
  | update id row =>
    obtain rfl : ⟨name, k, id, .update row⟩ = v := Except.ok.inj h
    obtain ⟨rfl, hrow⟩ := hi ht
    exact ⟨rfl, hrow row rfl⟩
  | delete id =>
    obtain rfl : ⟨name, k, id, .delete⟩ = v := Except.ok.inj h
    exact ⟨(hi ht).1, trivial⟩

/-- A write leaves a row that carries its key, or none. -/
theorem StagedWrite.KeepsKey.onRow {w : StagedWrite} (h : w.KeepsKey table key)
    (ht : w.table = table) {old new : Option Row} (hold : ∀ row ∈ old, row.Carries key w.id)
    (hnew : w.onRow old = .ok new) : ∀ row ∈ new, row.Carries key w.id := by
  obtain ⟨name, k, id, change⟩ := w
  obtain ⟨rfl, hchange⟩ := h ht
  intro row hrow
  cases old with
  | none =>
    cases change with
    | insert r =>
      obtain rfl : some r = new := Except.ok.inj hnew
      obtain rfl : r = row := Option.some.inj hrow
      exact hchange
    | update r => cases hnew
    | delete => cases hnew
  | some r₀ =>
    cases change with
    | insert r => cases hnew
    | update r =>
      obtain rfl : some (r₀.merge r k) = new := Except.ok.inj hnew
      obtain rfl : r₀.merge r k = row := Option.some.inj hrow
      exact (hold r₀ rfl).merge hchange
    | delete =>
      obtain rfl : none = new := Except.ok.inj hnew
      cases hrow

namespace Contents

/-- Every row that is stored in a table carries the key that it is stored under. -/
def Keyed (c : Contents) (table key : String) : Prop :=
  ∀ id, ∀ row ∈ c table id, row.Carries key id

/-- Setting a row that carries its key, or none, keeps the others as they are. -/
theorem Keyed.set {c : Contents} (h : c.Keyed table key) {name : String} {id : Int64}
    {r : Option Row} (hr : name = table → ∀ row ∈ r, row.Carries key id) :
    (c.set name id r).Keyed table key := by
  intro other row hrow
  by_cases he : (name, id) = (table, other)
  · obtain ⟨rfl, rfl⟩ := Prod.mk.inj he
    rw [set_self] at hrow
    exact hr rfl row hrow
  · rw [set_of_ne c r he] at hrow
    exact h other row hrow

/-- **A replay keeps the keys**, write by write. -/
theorem Keyed.replay {c c' : Contents} {ws : List StagedWrite} (h : c.Keyed table key)
    (hws : ∀ w ∈ ws, w.KeepsKey table key) (hc : c.replay ws = .ok c') : c'.Keyed table key := by
  -- what is stored varies along the writes, which stay as they were staged
  induction ws generalizing c with
  | nil => exact Except.ok.inj hc ▸ h
  | cons w ws ih =>
    obtain ⟨hw, hrest⟩ := List.forall_mem_cons.mp hws
    obtain ⟨c₁, hc₁, hafter⟩ := replay_cons_eq_ok hc
    obtain ⟨r, hr, rfl⟩ := write_eq_ok hc₁
    refine ih (h.set ?_) hrest hafter
    intro ht
    refine hw.onRow ht (fun row hrow => ?_) hr
    rw [ht] at hrow
    exact h w.id row hrow

end Contents

end Writes

/-! ## §2. What a call can do. -/

/-- What a call names that puts a row into a table or changes one: the table,
the column of its keys, and the row that is given. -/
structure Naming where
  table : String
  key : String
  row : Option Row

/-- What is named by a write that is asked for. -/
def IssuedWrite.naming (i : IssuedWrite) : Naming := ⟨i.table, i.key, i.write.row?⟩

/-- What is named by a call, if it puts a row into a table or changes one. -/
def SessionCall.naming? : SessionCall → Option Naming
  | .bare (.seed table key row) => some ⟨table, key, some row⟩
  | .bare (.write _ table key w) => some ⟨table, key, w.row?⟩
  | .writeGuarded _ table key w => some ⟨table, key, w.row?⟩
  | _ => none

namespace Transaction

variable (t : Transaction) (s : RelationalStore)

/-- Which connection a transaction has after a call: the one that it had, or
one with a further write, which has been asked for. -/
theorem call_conn {c : TransactionCall} {d : Connection} (h : (t.call s c).2.1.conn = some d) :
    t.conn = some d ∨ ∃ table key w d₀, c = .apply table key w ∧ t.conn = some d₀
      ∧ s.write d₀.writes table key w = .ok d.writes := by
  obtain ⟨conn, state⟩ := t
  cases conn with
  | none => cases c <;> cases h
  | some d₀ =>
    cases c with
    | apply table key w =>
      simp only [call, apply] at h
      cases hw : d₀.write s table key w with
      | error e =>
        rw [hw] at h
        exact .inl h
      | ok d₁ =>
        rw [hw] at h
        obtain rfl : d₁ = d := Option.some.inj h
        obtain ⟨ws, hws, rfl⟩ := Connection.write_ok_iff.mp hw
        exact .inr ⟨table, key, w, d₀, rfl, rfl, hws⟩
    | commit =>
      -- whatever comes of it, a commit takes the connection away
      simp only [call, commit] at h
      rcases hc : s.commit d₀ with ⟨_ | u, s'⟩ <;> rw [hc] at h <;> cases h
    | rollback => cases h

/-- What a call on a transaction can do to the tables: nothing, or replay the
writes on its connection. -/
theorem tables_call (c : TransactionCall) :
    (t.call s c).2.2.tables = s.tables
      ∨ ∃ d, t.conn = some d ∧ s.tables.replay d.writes = .ok (t.call s c).2.2.tables := by
  obtain ⟨conn, state⟩ := t
  cases conn with
  | none => cases c <;> exact .inl rfl
  | some d =>
    cases c with
    | apply table key w =>
      simp only [call, apply]
      cases d.write s table key w <;> exact .inl rfl
    | commit =>
      have h := s.commit_tables d
      simp only [call, commit]
      rcases hc : s.commit d with ⟨_ | u, s'⟩
      · rw [hc] at h
        exact .inl h
      · rw [hc] at h
        exact .inr ⟨d, rfl, h⟩
    | rollback => exact .inl rfl

theorem tables_drop : (t.drop s).2.tables = s.tables := by
  obtain ⟨conn, state⟩ := t
  cases conn with
  | none => rfl
  | some d => exact s.tables_drop d

end Transaction

namespace Session

variable {s t : Session} {ws : List StagedWrite}

/-- Some transaction has a connection with these writes. -/
def Holds (s : Session) (ws : List StagedWrite) : Prop :=
  (∃ name d, Assoc.find? s.bare name = some d ∧ d.writes = ws)
    ∨ ∃ name t d, Assoc.find? s.guarded name = some t ∧ t.conn = some d ∧ d.writes = ws

/-- How writes that are held after a call have come to be so. -/
inductive Extends (s : Session) (c : SessionCall) (ws : List StagedWrite) : Prop where
  /-- They were held before. -/
  | held (h : s.Holds ws)
  /-- They are none, by a transaction that has begun. -/
  | begun (h : ws = [])
  /-- The call has asked for one more. -/
  | asked {i : IssuedWrite} {v : StagedWrite} {ws₀ : List StagedWrite}
      (hnaming : c.naming? = some i.naming) (hv : Tables.Stages i v) (hheld : s.Holds ws₀)
      (hws : ws = ws₀ ++ [v])

/-- A write that was accepted extends what was held. -/
theorem extends_of_write {c : SessionCall} {ws₀ : List StagedWrite} {table key : String}
    {w : Write} (hc : c.naming? = some ⟨table, key, w.row?⟩) (hheld : s.Holds ws₀)
    (hw : s.store.write ws₀ table key w = .ok ws) : s.Extends c ws := by
  obtain ⟨v, hv, hstaged⟩ := RelationalStore.exists_of_write_ok hw
  obtain ⟨-, -, hws⟩ := RelationalStore.stage_ok_iff.mp hstaged
  exact .asked (i := ⟨table, key, w⟩) hc hv hheld hws

section Calls

variable [Pattern.Engine] [Sorter]

/-- Calls on the store and on bare transactions leave the guarded ones alone. -/
theorem guarded_step (s : Session) (c : Call) : (s.step c).2.guarded = s.guarded := by
  have hfinish : ∀ name finishing, (s.finish name finishing).2.guarded = s.guarded := by
    intro name finishing
    unfold finish
    cases Assoc.find? s.bare name <;> rfl
  -- none of these calls has the name of a guarded transaction
  cases c with
  | seed table key row => rfl
  | inject f => rfl
  | clearFaults => rfl
  | begin name =>
    simp only [step, begin]
    cases s.store.begin <;> rfl
  | write name table key w =>
    simp only [step, write]
    cases Assoc.find? s.bare name with
    | none => rfl
    | some d =>
      simp only
      cases d.write s.store table key w <;> rfl
  | commit name => exact hfinish name _
  | rollback name => exact hfinish name _
  | drop name => exact hfinish name _
  | findByKey table id columns =>
    simp only [step]
    cases s.store.findByKey table id columns <;> rfl
  | select table columns q =>
    simp only [step]
    rcases s.store.select table columns q with ⟨_ | _ | _, store⟩ <;> rfl

/-- What is held after a call on the store or on a bare transaction. -/
theorem holds_bare {c : Call} (h : (s.perform (.bare c)).2.Holds ws) : s.Extends (.bare c) ws := by
  rcases h with ⟨name, d, hbare, rfl⟩ | ⟨name, u, d, hguarded, hd, rfl⟩
  · cases touches_step hbare with
    | begun hok hnew => exact .begun (congrArg Connection.writes hnew)
    | left hopen hrequests => exact .held (.inl ⟨name, d, hopen, rfl⟩)
    | @asked _ _ _ d₀ hopen hanswer hstaged =>
      rcases hstaged with hw | ⟨-, rfl⟩
      · obtain ⟨ws, hws, rfl⟩ := Connection.write_ok_iff.mp hw
        exact extends_of_write rfl (.inl ⟨name, d₀, hopen, rfl⟩) hws
      · exact .held (.inl ⟨name, d, hopen, rfl⟩)
  · have hsame : (s.perform (.bare c)).2.guarded = s.guarded := guarded_step s c
    rw [hsame] at hguarded
    exact .held (.inr ⟨name, u, d, hguarded, hd, rfl⟩)

omit [Pattern.Engine] [Sorter] in
/-- What is held after a guarded transaction was put in the place of one of its name. -/
theorem Holds.of_insert (h : t.Holds ws) (s : Session) (name : String) (u : Transaction)
    (hbare : t.bare = s.bare) (hguarded : t.guarded = Assoc.insert s.guarded name u) :
    s.Holds ws ∨ ∃ d, u.conn = some d ∧ d.writes = ws := by
  rcases h with ⟨other, d, hother, hws⟩ | ⟨other, v, d, hother, hd, hws⟩
  · exact .inl (.inl ⟨other, d, hbare ▸ hother, hws⟩)
  · rw [hguarded, Assoc.find?_insert] at hother
    split at hother
    · exact .inr ⟨d, Option.some.inj hother ▸ hd, hws⟩
    · exact .inl (.inr ⟨other, v, d, hother, hd, hws⟩)

omit [Pattern.Engine] [Sorter] in
/-- What is held after a guarded transaction was asked for something. -/
theorem holds_ask {name : String} (tc : TransactionCall) {c : SessionCall}
    (hc : ∀ table key w, tc = .apply table key w → c.naming? = some ⟨table, key, w.row?⟩)
    (h : (s.settleGuarded (s.ask name fun u => u.call s.store tc)).2.Holds ws) :
    s.Extends c ws := by
  unfold ask at h
  cases hu : Assoc.find? s.guarded name with
  | none =>
    rw [hu] at h
    exact .held h
  | some u =>
    rw [hu] at h
    rcases h.of_insert s name (u.call s.store tc).2.1 rfl rfl with hheld | hnew
    · exact .held hheld
    · obtain ⟨d, hd, rfl⟩ := hnew
      rcases u.call_conn s.store hd with hsame | ⟨table, key, w, d₀, htc, hd₀, hw⟩
      · exact .held (.inr ⟨name, u, d, hu, hsame, rfl⟩)
      · exact extends_of_write (hc table key w htc) (.inr ⟨name, u, d₀, hu, hd₀, rfl⟩) hw

/-- **Which writes are held after a call.** -/
theorem holds_perform {c : SessionCall} (h : (s.perform c).2.Holds ws) : s.Extends c ws := by
  cases c with
  | bare c => exact holds_bare h
  | beginGuarded name =>
    simp only [perform, beginGuarded] at h
    cases hb : Transaction.begin s.store with
    | error e =>
      rw [hb] at h
      exact .held h
    | ok u =>
      rw [hb] at h
      rcases h.of_insert s name u rfl rfl with hheld | ⟨d, hd, rfl⟩
      · exact .held hheld
      · rw [Transaction.eq_of_begin hb] at hd
        exact .begun (congrArg Connection.writes (Option.some.inj hd).symm)
  | writeGuarded name table key w =>
    refine holds_ask (.apply table key w) (fun _ _ _ he => ?_) h
    cases he
    rfl
  | commitGuarded name => exact holds_ask .commit (fun _ _ _ he => by cases he) h
  | rollbackGuarded name => exact holds_ask .rollback (fun _ _ _ he => by cases he) h
  | dropGuarded name =>
    simp only [perform, dropGuarded] at h
    cases hu : Assoc.find? s.guarded name with
    | none =>
      rw [hu] at h
      exact .held h
    | some u =>
      rw [hu] at h
      rcases h with hbare | ⟨other, v, d, hother, hd, hws⟩
      · exact .held (.inl hbare)
      · -- another transaction than the one that was dropped
        replace hother : Assoc.find? (Assoc.erase s.guarded name) other = some v := hother
        rw [Assoc.find?_erase] at hother
        split at hother
        · cases hother
        · exact .held (.inr ⟨other, v, d, hother, hd, hws⟩)

/-- What the tables are after a call. -/
inductive Yields (s : Session) (c : SessionCall) (ts : Tables) : Prop where
  /-- They are as they were. -/
  | same (h : ts = s.store.tables)
  /-- A row has been put under the key that is read off it. -/
  | put {table key : String} {row : Row} {id : Int64}
      (hnaming : c.naming? = some ⟨table, key, some row⟩) (hid : row.integer key = .ok id)
      (hput : ts = s.store.tables.put table ((s.store.tables.get table).put id row))
  /-- The writes of an open transaction have been replayed. -/
  | replayed {ws : List StagedWrite} (hws : s.Holds ws)
      (hreplay : s.store.tables.replay ws = .ok ts)

omit [Pattern.Engine] [Sorter] in
/-- Asking a guarded transaction for something. -/
theorem tables_ask (s : Session) (name : String) (tc : TransactionCall) (c : SessionCall) :
    s.Yields c (s.settleGuarded (s.ask name fun u => u.call s.store tc)).2.store.tables := by
  unfold ask
  cases hu : Assoc.find? s.guarded name with
  | none => exact .same rfl
  | some u =>
    rcases u.tables_call s.store tc with hsame | ⟨d, hd, hreplay⟩
    · exact .same hsame
    · exact .replayed (.inr ⟨name, u, d, hu, hd, rfl⟩) hreplay

/-- **What a call can do to the tables.** -/
theorem tables_perform (s : Session) (c : SessionCall) :
    s.Yields c (s.perform c).2.store.tables := by
  cases c with
  | bare c =>
    rcases s.tables_step c with ⟨hsame, -⟩ | ⟨table, key, row, id, rfl, hid, hput⟩
      | ⟨name, d, rfl, -, hd, hreplay⟩
    · exact .same hsame
    · exact .put rfl hid hput
    · exact .replayed (.inl ⟨name, d, hd, rfl⟩) hreplay
  | beginGuarded name =>
    refine .same ?_
    simp only [perform, beginGuarded]
    cases Transaction.begin s.store with
    | error e => rfl
    | ok u =>
      -- the transaction that had the name is given up
      cases Assoc.find? s.guarded name with
      | none => rfl
      | some old => exact old.tables_drop s.store
  | writeGuarded name table key w => exact tables_ask s name (.apply table key w) _
  | commitGuarded name => exact tables_ask s name .commit _
  | rollbackGuarded name => exact tables_ask s name .rollback _
  | dropGuarded name =>
    refine .same ?_
    simp only [perform, dropGuarded]
    cases Assoc.find? s.guarded name with
    | none => rfl
    | some u => exact u.tables_drop s.store

end Calls

/-! ## §3. Every call keeps the keys. -/

/-- The invariant of a table with its key column: rows carry the keys that they
are stored under, and what is staged for the table will leave it so. -/
structure KeepsKeys (s : Session) (table key : String) : Prop where
  ascending : s.store.tables.Ascending
  stored : s.store.tables.contents.Keyed table key
  staged : ∀ ws, s.Holds ws → ∀ w ∈ ws, w.KeepsKey table key

end Session

/-- If a call puts a row into the table or changes one there, it names the key
column, and the row that it gives has distinct columns. -/
def SessionCall.Respects (c : SessionCall) (table key : String) : Prop :=
  ∀ n ∈ c.naming?, n.table = table → n.key = key ∧ ∀ row ∈ n.row, row.Distinct

instance (c : SessionCall) (table key : String) : Decidable (c.Respects table key) :=
  inferInstanceAs (Decidable (∀ n ∈ c.naming?, n.table = table → n.key = key
    ∧ ∀ row ∈ n.row, row.Distinct))

namespace Session

variable {s : Session} {table key : String}

theorem keepsKeys_empty (table key : String) : Session.empty.KeepsKeys table key where
  ascending := Tables.ascending_empty
  stored := fun _ _ h => by cases h
  staged := by
    intro ws hws
    rcases hws with ⟨name, d, hd, -⟩ | ⟨name, t, d, ht, -⟩
    · cases hd
    · cases ht

section Calls

variable [Pattern.Engine] [Sorter]

/-- **One call** keeps the two keys of every row together. -/
theorem KeepsKeys.perform (h : s.KeepsKeys table key) {c : SessionCall}
    (hc : c.Respects table key) : (s.perform c).2.KeepsKeys table key := by
  have htables : (s.perform c).2.store.tables.Ascending
      ∧ (s.perform c).2.store.tables.contents.Keyed table key := by
    cases s.tables_perform c with
    | same hsame =>
      rw [hsame]
      exact ⟨h.ascending, h.stored⟩
    | @put name k row id hnaming hid hput =>
      rw [hput]
      constructor
      · exact Tables.ascending_put h.ascending (Table.ascending_put (h.ascending name) id row)
      · rw [Tables.contents_put_row]
        refine h.stored.set fun hname r hr => ?_
        obtain rfl : row = r := Option.some.inj hr
        obtain ⟨rfl, hrow⟩ := hc _ hnaming hname
        exact Row.carries_of_integer (hrow row rfl) hid
    | @replayed ws hws hreplay =>
      have houtcome := s.store.tables.contents_replay_sameOutcome ws
      rw [hreplay] at houtcome
      obtain ⟨c', hc', rfl⟩ := houtcome.of_ok
      exact ⟨Tables.ascending_replay h.ascending hreplay, h.stored.replay (h.staged ws hws) hc'⟩
  refine ⟨htables.1, htables.2, fun ws hws w hw => ?_⟩
  cases holds_perform hws with
  | held hheld => exact h.staged ws hheld w hw
  | begun hnil =>
    rw [hnil] at hw
    cases hw
  | @asked i v ws₀ hnaming hv hheld hws =>
    -- only the new write has not been staged before
    rw [hws] at hw
    rcases List.mem_append.mp hw with hearlier | hnew
    · exact h.staged ws₀ hheld w hearlier
    · obtain rfl : w = v := List.mem_singleton.mp hnew
      exact hv.keepsKey fun ht => hc _ hnaming ht

/-- **Any calls** keep them together, if each one respects the key column. -/
theorem keepsKeys_afterCalls {calls : List SessionCall} (h : ∀ c ∈ calls, c.Respects table key) :
    (afterCalls calls).1.KeepsKeys table key :=
  List.foldlRecOn (motive := fun r : Session × List (SessionCall × Answer) =>
      r.1.KeepsKeys table key) calls _ (keepsKeys_empty table key)
    fun _ hr c hcalls => hr.perform (h c hcalls)

end Calls

end Session

/-! ## §4. Reading by key and selecting by the key column. -/

/-- In a table that is in order, one row at most is stored under a key. -/
theorem Table.filter_key {t : Table} (h : t.Ascending) (id : Int64) :
    t.filter (fun e => decide (e.1 = id)) = ((Assoc.find? t id).map fun r => (id, r)).toList := by
  induction t with
  | nil => rfl
  | cons e t ih =>
    obtain ⟨he, ht⟩ := List.pairwise_cons.mp h
    rw [Assoc.find?_cons]
    by_cases hid : e.1 = id
    · -- the keys further on are greater
      have hrest : t.filter (fun f => decide (f.1 = id)) = [] := by
        refine List.filter_eq_nil_iff.mpr fun f hf => ?_
        have hlt := he f hf
        intro hfid
        rw [of_decide_eq_true hfid, hid] at hlt
        exact Int.lt_irrefl _ hlt
      have hpos : decide (e.1 = id) = true := decide_eq_true hid
      rw [List.filter_cons, if_pos hpos, hrest, if_pos hid, ← hid]
      rfl
    · have hneg : ¬ decide (e.1 = id) = true := fun h => hid (of_decide_eq_true h)
      rw [List.filter_cons, if_neg hneg, ih ht, if_neg hid]

/-- A row that carries a key meets the condition on its key column for that
key alone. -/
theorem Row.Carries.holds_equals {r : Row} {key : String} {id : Int64} (h : r.Carries key id)
    (hkey : '.' ∉ key.toList) (other : Int64) :
    r.toDocument.holds Sql.like (key, .equals (.integer other)) = decide (id = other) := by
  unfold Document.holds
  rw [Row.path?_toDocument r hkey, Row.last?_eq_find? h.distinct, h.key]
  show ((Datum.ofScalar (.integer id)).compare? (Datum.ofScalar (.integer other)) == some .eq) = _
  rw [Datum.compare?_of_integers rfl rfl, Bool.eq_iff_iff, beq_iff_eq, decide_eq_true_iff,
    Option.some.injEq, ← Int64.toInt_inj]
  unfold orderInt
  split
  · next hlt => simp; omega
  · split
    · next heq => simpa using heq
    · next hne => simpa using hne

/-- A query for the row of a key: its only condition asks the key column, which
is no path, for the key.  The answers may be sorted and limited. -/
structure Query.AsksForKey (q : Query) (key : String) (id : Int64) : Prop where
  valid : q.validate = .ok ()
  name : '.' ∉ key.toList
  conditions : q.conditions.toList = [(key, .equals (.integer id))]
  offset : q.offset = 0

/-- The query with that condition alone is one if the key column has the name
of a field. -/
theorem Query.asksForKey_whereEquals {key : String} (hname : '.' ∉ key.toList)
    (hkey : FieldPath.isFieldName key = true) (id : Int64) :
    (Query.empty.whereEquals key (.integer id)).AsksForKey key id where
  valid := by
    refine (validate_ok_iff _).mpr
      ⟨List.forall_mem_nil _, ?_, List.forall_mem_nil _, Int.le_refl 0, Int.le_refl 0⟩
    intro c hc
    obtain rfl : c = (key, .equals (.integer id)) := List.mem_singleton.mp hc
    exact ⟨hkey, fun h => by cases h⟩
  name := hname
  conditions := rfl
  offset := rfl

/-- One row at most is in order, whatever it is sorted by. -/
theorem Query.orders_of_length_le_one (q : Query) {rows : List Row} (h : rows.length ≤ 1) :
    q.Orders rows := by
  refine consistentOn_of_level fun a ha b hb => ?_
  obtain rfl : a = b := by
    obtain _ | ⟨r, _ | ⟨r', rows⟩⟩ := rows
    · cases ha
    · rw [List.mem_singleton.mp ha, List.mem_singleton.mp hb]
    · simp at h
  exact Document.compareBy_self _ _

/-- Its window keeps an answer that is the only one. -/
theorem Query.AsksForKey.window {q : Query} {key : String} {id : Int64} (hq : q.AsksForKey key id)
    {α : Type} {answers : List α} (h : answers.length ≤ 1) : q.window answers = answers := by
  unfold Query.window
  rw [hq.offset]
  show (if 0 < q.limit.toInt then answers.take q.limit.toInt.toNat else answers) = answers
  split
  · exact List.take_of_length_le (by omega)
  · rfl

namespace RelationalStore

/-- What a store has to be like whose rows carry their own keys. -/
structure OwnsKeys [Pattern.Engine] [Sorter] (s : RelationalStore) (table key : String) : Prop where
  /-- Every row has the key that it is stored under in its key column. -/
  own : ∀ id r, (id, r) ∈ s.tables.get table → r.find? key = some (.integer id)
  /-- The rows are listed in strictly ascending order of that column. -/
  listed : ∃ ids : List Int64,
    (s.rows table).map (·.find? key) = ids.map (fun id => some (.integer id))
      ∧ ids.Pairwise fun a b => a.toInt < b.toInt
  /-- Reading being possible, a row is read by its key and is all that is
  selected by the key column, or neither finds one. -/
  agree : Fault.read ∉ s.faults → ∀ q id columns, q.AsksForKey key id →
    (∃ r, s.findByKey table id columns = .ok r ∧ (s.select table columns q).1 = some (.ok [r]))
      ∨ s.findByKey table id columns = .error .notFound
        ∧ (s.select table columns q).1 = some (.ok [])

end RelationalStore

namespace Session

variable {s : Session} {table key : String}

/-- A row of the table carries the key that it is listed under. -/
theorem KeepsKeys.carries (h : s.KeepsKeys table key) {e : Int64 × Row}
    (he : e ∈ s.store.tables.get table) : e.2.Carries key e.1 :=
  h.stored e.1 e.2 ((Table.mem_iff_find? (h.ascending table)).mp he)

/-- The condition on the key column leaves the row that is stored under the key. -/
theorem KeepsKeys.entries (h : s.KeepsKeys table key) {q : Query} {id : Int64}
    (hq : q.AsksForKey key id) :
    s.store.entries table q
      = ((Assoc.find? (s.store.tables.get table) id).map fun r => (id, r)).toList := by
  rw [← Table.filter_key (h.ascending table) id]
  refine List.filter_congr fun e he => ?_
  rw [Document.holdsAll, hq.conditions, List.all_cons, List.all_nil, Bool.and_true,
    (h.carries he).holds_equals hq.name]

section Keys

variable [Pattern.Engine] [Sorter]

/-- **Reading by key and selecting by the key column agree.** -/
theorem KeepsKeys.ownsKeys (h : s.KeepsKeys table key) : s.store.OwnsKeys table key where
  own := fun _ _ hr => (h.carries hr).key
  listed := by
    refine ⟨Assoc.keys (s.store.tables.get table), ?_, ?_⟩
    · show ((s.store.tables.get table).map (·.2)).map (·.find? key)
        = ((s.store.tables.get table).map (·.1)).map fun id => some (.integer id)
      rw [List.map_map, List.map_map]
      exact List.map_congr_left fun e he => (h.carries he).key
    · exact Table.ascending_iff_keys.mp (h.ascending table)
  agree := by
    intro hread q id columns hq
    have hfits : q.Fits := by
      intro c hc pattern hpattern
      rw [hq.conditions] at hc
      rw [List.mem_singleton.mp hc] at hpattern
      cases hpattern
    have hfew : (Assoc.values (s.store.entries table q)).length ≤ 1 := by
      rw [h.entries hq]
      cases Assoc.find? (s.store.tables.get table) id with
      | none => exact Nat.zero_le 1
      | some r => exact Nat.le_refl 1
    rw [RelationalStore.select_entries hread hq.valid hfits (q.orders_of_length_le_one hfew),
      h.entries hq]
    unfold RelationalStore.findByKey
    rw [RelationalStore.pass_ok_iff.mpr hread]
    -- one row at most is left, which nothing sorts and no limit cuts off
    cases Assoc.find? (s.store.tables.get table) id with
    | none =>
      have hwindow : q.window ([] : Table) = [] := hq.window (Nat.zero_le 1)
      refine .inr ⟨rfl, ?_⟩
      show some (Except.ok ((Assoc.values (q.window (Table.sortBy q.sort []))).map
        (·.project columns))) = _
      rw [Table.sortBy, List.mergeSort_nil, hwindow]
      rfl
    | some r =>
      have hwindow : q.window [(id, r)] = [(id, r)] := hq.window (Nat.le_refl 1)
      refine .inl ⟨r.project columns, rfl, ?_⟩
      show some (Except.ok ((Assoc.values (q.window (Table.sortBy q.sort [(id, r)]))).map
        (·.project columns))) = _
      rw [Table.sortBy, List.mergeSort_singleton, hwindow]
      rfl

/-- **STORED ROWS CARRY THEIR OWN KEYS.**  Let there be any calls on a store, on
any number of transactions of both kinds and with any faults.  If those that
put rows into a table or change rows there name one key column and give rows of
distinct columns, every row of the table has the key that it is stored under in
that column, whatever the rows of updates had there.  So the rows are listed in
strictly ascending order of the column, and reading by key finds what a
selection by the key column finds; the query with that condition alone selects
so if the column has the name of a field without dots. -/
theorem stored_rows_own_keys {calls : List SessionCall} {table key : String}
    (h : ∀ c ∈ calls, c.Respects table key) :
    (afterCalls calls).1.store.OwnsKeys table key
      ∧ ('.' ∉ key.toList → FieldPath.isFieldName key = true →
          ∀ id, (Query.empty.whereEquals key (.integer id)).AsksForKey key id) :=
  ⟨(keepsKeys_afterCalls h).ownsKeys, Query.asksForKey_whereEquals⟩

end Keys

/-- Two transactions on a table of users, with faults in between: the bare one
is begun anew after a commit that failed, and the guarded one gives a user the
name `c` in a row with another key. -/
def userCalls : List SessionCall :=
  [.bare (.seed "users" "id" (Row.ofList [("id", .integer 2), ("name", .text "b")])),
    .bare (.begin "first"), .beginGuarded "second",
    .bare (.write "first" "users" "id" (.insert (Row.ofList [("id", .integer 3)]))),
    .writeGuarded "second" "users" "id"
      (.update 2 (Row.ofList [("id", .integer 7), ("name", .text "c")])),
    .bare (.inject .commit), .bare (.commit "first"), .bare .clearFaults, .bare (.begin "first"),
    .bare (.write "first" "users" "id" (.insert (Row.ofList [("id", .integer 1)]))),
    .bare (.inject .write), .bare (.write "first" "users" "id" (.delete 2)),
    .bare (.commit "first"), .commitGuarded "second"]

open DataAccess.Sample in
/-- A user is found under the key that was kept, and none under the key that the
update gave. -/
theorem stored_rows_own_keys_users :
    (∀ c ∈ userCalls, c.Respects "users" "id")
      ∧ ((afterCalls userCalls).1.store.rows "users").map (·.find? "id")
          = [some (.integer 1), some (.integer 2)]
      ∧ ((afterCalls userCalls).1.store.select "users" [⟨"name", .text⟩]
          (Query.empty.whereEquals "id" (.integer 2))).1 = some (.ok [⟨[("name", .text "c")]⟩])
      ∧ ((afterCalls userCalls).1.store.select "users" [⟨"name", .text⟩]
          (Query.empty.whereEquals "id" (.integer 7))).1 = some (.ok []) := by
  have hcalls : ∀ c ∈ userCalls, c.Respects "users" "id" := by decide
  obtain ⟨howns, hasks⟩ := stored_rows_own_keys hcalls
  have hread : Fault.read ∉ (afterCalls userCalls).1.store.faults := by decide
  have hkept : (afterCalls userCalls).1.store.findByKey "users" 2 [⟨"name", .text⟩]
      = .ok ⟨[("name", .text "c")]⟩ := by decide
  have hgiven : (afterCalls userCalls).1.store.findByKey "users" 7 [⟨"name", .text⟩]
      = .error .notFound := by decide
  refine ⟨hcalls, by decide, ?_, ?_⟩
  · rcases howns.agree hread _ 2 [⟨"name", .text⟩] (hasks (by decide) (by decide) 2)
      with ⟨r, hr, hselect⟩ | ⟨hnone, -⟩
    · rw [hkept] at hr
      cases hr
      exact hselect
    · rw [hkept] at hnone
      cases hnone
  · rcases howns.agree hread _ 7 [⟨"name", .text⟩] (hasks (by decide) (by decide) 7)
      with ⟨r, hr, -⟩ | ⟨-, hselect⟩
    · rw [hgiven] at hr
      cases hr
    · exact hselect

end Session

end DataAccess
