/-
  DataAccess.Relational.Write — writes and the transactions that stage them.

  A transaction keeps its writes to itself.  Each is tried against the
  committed rows with the earlier writes of the transaction on top, and all
  of them are replayed on the committed rows when the transaction commits:
  either every one applies, or none does.

  Main statements:
    * `replay_append`    — writes are replayed from the left;
    * `stage_ok_iff`     — when a write is accepted;
    * `commit_of_replay`, `commit_of_refusal` — a commit ends its transaction
                           once;
    * `commit_tables`    — what a commit makes of the tables.
-/
import DataAccess.Relational.Basic

namespace DataAccess

/-! ## §1. Writes. -/

/-- A change that is asked for. -/
inductive Write where
  | insert (row : Row)
  | update (id : Int64) (row : Row)
  | delete (id : Int64)
  deriving DecidableEq

/-- What happens to the row of a key. -/
inductive Change where
  | insert (row : Row)
  /-- Cells of the row are set, those of the key column left out. -/
  | update (row : Row)
  | delete
  deriving DecidableEq

/-- A write that a transaction has accepted. -/
structure StagedWrite where
  table : String
  /-- The column of the key. -/
  key : String
  id : Int64
  change : Change
  deriving DecidableEq

/-- A write on a table; a new row has to hold its key. -/
def Write.on (w : Write) (table key : String) : Except CellError StagedWrite :=
  match w with
  | insert row => (row.integer key).map fun id => ⟨table, key, id, .insert row⟩
  | update id row => .ok ⟨table, key, id, .update row⟩
  | delete id => .ok ⟨table, key, id, .delete⟩

/-- Sets the cells of another row, except the one of the key column. -/
def Row.merge (r changes : Row) (key : String) : Row :=
  changes.cells.foldl (fun acc c => if c.1 = key then acc else acc.set c.1 c.2) r

/-- Applies a write to its table. -/
def Table.write (t : Table) (w : StagedWrite) : Except RelationalError Table :=
  match w.change, Assoc.find? t w.id with
  | .insert row, none => .ok (t.put w.id row)
  | .insert _, some _ =>
      .error (.constraint ("duplicate key " ++ w.key ++ "=" ++ toString w.id.toInt
        ++ " in `" ++ w.table ++ "`"))
  | .update row, some old => .ok (t.put w.id (old.merge row w.key))
  | .delete, some _ => .ok (Assoc.erase t w.id)
  | _, none => .error .notFound

/-- Applies a write to the table that it is on. -/
def Tables.write (ts : Tables) (w : StagedWrite) : Except RelationalError Tables :=
  ((ts.get w.table).write w).map (ts.put w.table)

/-- Applies writes in order, up to the first that fails. -/
def Tables.replay (ts : Tables) : List StagedWrite → Except RelationalError Tables
  | [] => .ok ts
  | w :: ws =>
      match ts.write w with
      | .ok ts => ts.replay ws
      | .error e => .error e

/-- A table with the writes on it applied, those that fail left out. -/
def Table.overlay (t : Table) (name : String) (ws : List StagedWrite) : Table :=
  (ws.filter fun w => w.table = name).foldl (fun t w =>
    match t.write w with
    | .ok t => t
    | .error _ => t) t

/-! ## §2. Transactions. -/

/-- What a transaction has of its store. -/
structure Connection where
  /-- What it has staged, in order. -/
  writes : List StagedWrite
  /-- It has been noted how the transaction ended. -/
  finished : Bool
  deriving DecidableEq

/-- Ends a transaction in a way that the store notes. -/
def Connection.finish (c : Connection) (s : RelationalStore) (o : Outcome) :
    Connection × RelationalStore :=
  ({ c with finished := true }, s.finish o)

namespace RelationalStore

/-- Begins a transaction; it has no writes yet. -/
def begin (s : RelationalStore) : Except RelationalError Connection := do
  s.pass .begin
  return ⟨[], false⟩

/-- Stages a write behind the earlier ones of a transaction. -/
def stage (s : RelationalStore) (ws : List StagedWrite) (w : StagedWrite) :
    Except RelationalError (List StagedWrite) := do
  s.pass .write
  let _ ← ((s.tables.get w.table).overlay w.table ws).write w
  return ws ++ [w]

/-- Asks a transaction for a change. -/
def write (s : RelationalStore) (ws : List StagedWrite) (table key : String) (w : Write) :
    Except RelationalError (List StagedWrite) :=
  match w.on table key with
  | .ok w => s.stage ws w
  | .error e => .error (.cell e)

/-- Gives a connection up; a transaction whose end has not been noted was
dropped. -/
def drop (s : RelationalStore) (c : Connection) : RelationalStore :=
  if c.finished then s else s.finish .dropped

/-- The store with writes replayed on it, all or none. -/
def replay (s : RelationalStore) (ws : List StagedWrite) :
    Except RelationalError RelationalStore := do
  s.pass .commit
  let ts ← s.tables.replay ws
  return { s with tables := ts }

/-- Commits the writes of a transaction and gives its connection up. -/
def commit (s : RelationalStore) (c : Connection) :
    Except RelationalError Unit × RelationalStore :=
  match s.replay c.writes with
  | .ok s =>
      let (c, s) := c.finish s .committed
      (.ok (), s.drop c)
  | .error e =>
      let (c, s) := c.finish s .rolledBack
      (.error e, s.drop c)

/-- Ends a transaction without its writes and gives its connection up.  It has
ended even if the store reports a failure. -/
def rollback (s : RelationalStore) (c : Connection) :
    Except RelationalError Unit × RelationalStore :=
  let (c, s) := c.finish s .rolledBack
  (s.pass .rollback, s.drop c)

end RelationalStore

/-- Asks for a change on a connection. -/
def Connection.write (c : Connection) (s : RelationalStore) (table key : String) (w : Write) :
    Except RelationalError Connection :=
  (s.write c.writes table key w).map fun writes => { c with writes }

/-! ## Laws. -/

/-- Writes are replayed from the left. -/
theorem Tables.replay_append (ts : Tables) (vs ws : List StagedWrite) :
    ts.replay (vs ++ ws) = ts.replay vs >>= fun ts => ts.replay ws := by
  induction vs generalizing ts with
  | nil => rfl
  | cons v vs ih =>
    simp only [List.cons_append, replay]
    cases ts.write v with
    | error e => rfl
    | ok ts => exact ih ts

/-- A new row is staged under the key that is read off it. -/
theorem Write.on_insert_ok_iff {row : Row} {table key : String} {w : StagedWrite} :
    (insert row).on table key = .ok w
      ↔ ∃ id, row.integer key = .ok id ∧ ⟨table, key, id, .insert row⟩ = w := by
  unfold Write.on
  cases hid : row.integer key with
  | error e => simp [hid]
  | ok id => simp [hid]

/-- A transaction that has begun holds no writes and has not ended. -/
theorem RelationalStore.eq_of_begin {s : RelationalStore} {c : Connection}
    (h : s.begin = .ok c) : c = ⟨[], false⟩ := by
  unfold RelationalStore.begin at h
  cases hp : s.pass .begin with
  | error e => simp [hp] at h
  | ok u =>
    rw [hp] at h
    exact (Except.ok.inj h).symm

/-- Giving a connection up changes no table. -/
@[simp] theorem RelationalStore.tables_drop (s : RelationalStore) (c : Connection) :
    (s.drop c).tables = s.tables := by
  unfold RelationalStore.drop
  split <;> rfl

/-- A transaction that has not ended is dropped. -/
theorem RelationalStore.drop_of_unfinished {c : Connection} (h : c.finished = false)
    (s : RelationalStore) : s.drop c = s.finish .dropped := by
  unfold RelationalStore.drop
  rw [h]
  rfl

/-- **A commit** whose writes can be replayed ends its transaction once.  The
connection is finished before it is given up, so that nothing is noted then. -/
theorem RelationalStore.commit_of_replay {s t : RelationalStore} {c : Connection}
    (h : s.replay c.writes = .ok t) : s.commit c = (.ok (), t.finish .committed) := by
  unfold RelationalStore.commit
  rw [h]
  rfl

/-- A commit that fails ends its transaction too. -/
theorem RelationalStore.commit_of_refusal {s : RelationalStore} {c : Connection}
    {e : RelationalError} (h : s.replay c.writes = .error e) :
    s.commit c = (.error e, s.finish .rolledBack) := by
  unfold RelationalStore.commit
  rw [h]
  rfl

/-- Writes are replayed on the tables if no fault is set. -/
theorem RelationalStore.replay_ok_iff {s t : RelationalStore} {ws : List StagedWrite} :
    s.replay ws = .ok t
      ↔ Fault.commit ∉ s.faults
        ∧ ∃ ts, s.tables.replay ws = .ok ts ∧ t = { s with tables := ts } := by
  unfold RelationalStore.replay
  cases hp : s.pass .commit with
  | error e =>
    have hn : ¬ Fault.commit ∉ s.faults := fun h => by rw [pass_ok_iff.mpr h] at hp; cases hp
    simp only [error_bind, reduceCtorEq, hn, false_and]
  | ok u =>
    have hf : Fault.commit ∉ s.faults := pass_ok_iff.mp hp
    cases hr : s.tables.replay ws with
    | error e => simp
    | ok ts => simp [hf, eq_comm]

/-- A change that is accepted is staged, and the transaction goes on. -/
theorem Connection.write_ok_iff {c d : Connection} {s : RelationalStore} {table key : String}
    {w : Write} :
    c.write s table key w = .ok d
      ↔ ∃ ws, s.write c.writes table key w = .ok ws ∧ { c with writes := ws } = d := by
  unfold Connection.write
  cases s.write c.writes table key w with
  | error e => simp
  | ok ws => simp

/-- Without a fault, what fails is the first write that does not apply. -/
theorem RelationalStore.replay_of_error {s : RelationalStore} {ws : List StagedWrite}
    {e : RelationalError} (hf : Fault.commit ∉ s.faults) (h : s.tables.replay ws = .error e) :
    s.replay ws = .error e := by
  unfold RelationalStore.replay
  rw [pass_ok_iff.mpr hf, h]
  rfl

/-- A write is accepted if no fault is set and it applies on top of the
earlier ones. -/
theorem RelationalStore.stage_ok_iff {s : RelationalStore} {ws vs : List StagedWrite}
    {w : StagedWrite} :
    s.stage ws w = .ok vs
      ↔ Fault.write ∉ s.faults
        ∧ (∃ t, ((s.tables.get w.table).overlay w.table ws).write w = .ok t)
        ∧ vs = ws ++ [w] := by
  unfold stage
  cases hp : s.pass .write with
  | error e =>
    have hn : ¬ Fault.write ∉ s.faults := fun h => by rw [pass_ok_iff.mpr h] at hp; cases hp
    simp only [error_bind, reduceCtorEq, hn, false_and]
  | ok u =>
    have hf : Fault.write ∉ s.faults := pass_ok_iff.mp hp
    cases hw : ((s.tables.get w.table).overlay w.table ws).write w with
    | error e => simp
    | ok t => simp [hf, eq_comm]

/-- A commit that succeeds leaves the tables with the writes replayed, and one
that fails leaves them as they were. -/
theorem RelationalStore.commit_tables (s : RelationalStore) (c : Connection) :
    match s.commit c with
    | (.ok (), t) => s.tables.replay c.writes = .ok t.tables
    | (.error _, t) => t.tables = s.tables := by
  cases h : s.replay c.writes with
  | error e =>
    rw [commit_of_refusal h]
    rfl
  | ok t =>
    rw [commit_of_replay h]
    obtain ⟨-, ts, hts, rfl⟩ := replay_ok_iff.mp h
    exact hts

end DataAccess
