/-
  DataAccess.Relational.Transaction — transactions that know where they stand.

  A transaction has its connection until its first commit or rollback, which
  takes it away, and keeps in mind how it ended.  Without a connection it
  accepts no write and no commit, while rolling it back succeeds and does
  nothing, so that it can be rolled back on every way out.

  Nothing in its data says that a transaction with a connection is an active
  one.  It is so because every call keeps it so.

  Main statements:
    * `eq_of_begin`        — how a transaction starts;
    * `Sound.apply`, `Sound.commit`, `Sound.rollback` — a call keeps connection
                             and state in step;
    * `Sound.cases`        — a sound transaction has its connection or has ended.
-/
import DataAccess.Log
import DataAccess.Relational.Write

namespace DataAccess

/-- A transaction: its connection as long as it has one, and where it
stands. -/
structure Transaction where
  conn : Option Connection
  state : TransactionState
  deriving DecidableEq

namespace Transaction

/-- A transaction that has just begun on a connection. -/
def on (c : Connection) : Transaction := ⟨some c, .active⟩

/-- Begins a transaction. -/
def begin (s : RelationalStore) : Except RelationalError Transaction := s.begin.map on

/-- Asks for a change; a change that is refused leaves the transaction as it
was. -/
def apply (t : Transaction) (s : RelationalStore) (table key : String) (w : Write) :
    Except RelationalError Transaction :=
  match t.conn with
  | some c => (c.write s table key w).map fun c => { t with conn := some c }
  | none => .error (.closed t.state)

/-- Commits the writes.  After a commit that fails they are gone with the
connection, and the transaction is rolled back. -/
def commit (t : Transaction) (s : RelationalStore) :
    Except RelationalError Unit × Transaction × RelationalStore :=
  match t.conn with
  | some c =>
      match s.commit c with
      | (.ok (), s) => (.ok (), ⟨none, .committed⟩, s)
      | (.error e, s) => (.error e, ⟨none, .rolledBack⟩, s)
  | none => (.error (.closed t.state), t, s)

/-- Gives the writes up; nothing happens to a transaction that has ended. -/
def rollback (t : Transaction) (s : RelationalStore) :
    Except RelationalError Unit × Transaction × RelationalStore :=
  match t.conn with
  | some c =>
      let (r, s) := s.rollback c
      (r, ⟨none, .rolledBack⟩, s)
  | none => (.ok (), t, s)

/-- What is told of a transaction that is dropped while it is active. -/
def dropWarning : LogLine :=
  ⟨.warn, "transaction dropped while active, pending writes are discarded by the backend"⟩

/-- Drops a transaction, and with it the connection if it still has one. -/
def drop (t : Transaction) (s : RelationalStore) : List LogLine × RelationalStore :=
  match t.conn with
  | some c => ([dropWarning], s.drop c)
  | none => ([], s)

/-! ## Laws. -/

/-- Connection and state are in step: an active transaction has a connection on
which no end has been noted, and one that has ended has none. -/
structure Sound (t : Transaction) : Prop where
  active_iff : t.state = .active ↔ t.conn.isSome = true
  unfinished : ∀ c ∈ t.conn, c.finished = false

variable {t u : Transaction} {s : RelationalStore}

theorem sound_on {c : Connection} (h : c.finished = false) : (on c).Sound where
  active_iff := iff_of_true rfl rfl
  unfinished := fun _ hc => Option.some.inj hc ▸ h

/-- A transaction without a connection is sound once it has ended. -/
theorem sound_ended {state : TransactionState} (h : state ≠ .active) :
    Sound ⟨none, state⟩ where
  active_iff := iff_of_false h Bool.false_ne_true
  unfinished := nofun

/-- A transaction that has begun is active and holds no writes. -/
theorem eq_of_begin (h : begin s = .ok t) : t = on ⟨[], false⟩ := by
  unfold begin at h
  cases hb : s.begin with
  | error e => simp [hb] at h
  | ok c =>
    rw [hb, RelationalStore.eq_of_begin hb] at h
    exact (Except.ok.inj h).symm

theorem sound_begin (h : begin s = .ok t) : t.Sound := by
  rw [eq_of_begin h]
  exact sound_on rfl

/-- **Where a sound transaction stands**: it is active with a connection on
which no end has been noted, or it has ended and has none. -/
theorem Sound.cases (h : t.Sound) :
    (∃ ws, t = on ⟨ws, false⟩) ∨ ∃ state, state ≠ .active ∧ t = ⟨none, state⟩ := by
  obtain ⟨conn, state⟩ := t
  cases conn with
  | none => exact .inr ⟨state, fun he => Bool.false_ne_true (h.active_iff.mp he), rfl⟩
  | some c =>
    obtain ⟨ws, finished⟩ := c
    obtain rfl : finished = false := h.unfinished _ rfl
    obtain rfl : state = .active := h.active_iff.mpr rfl
    exact .inl ⟨ws, rfl⟩

/-- On a connection, a change is staged behind the earlier ones. -/
@[simp] theorem apply_on (ws : List StagedWrite) (s : RelationalStore) (table key : String)
    (w : Write) :
    (on ⟨ws, false⟩).apply s table key w
      = (s.write ws table key w).map fun ws => on ⟨ws, false⟩ := by
  show ((s.write ws table key w).map _).map _ = _
  cases s.write ws table key w <;> rfl

/-- A connection is rolled back and given up. -/
@[simp] theorem rollback_on (ws : List StagedWrite) (s : RelationalStore) :
    (on ⟨ws, false⟩).rollback s
      = (s.pass .rollback, ⟨none, .rolledBack⟩, s.finish .rolledBack) := rfl

/-- A connection whose writes can be replayed is committed and given up. -/
theorem commit_on_of_replay {ws : List StagedWrite} {t : RelationalStore}
    (h : s.replay ws = .ok t) :
    (on ⟨ws, false⟩).commit s = (.ok (), ⟨none, .committed⟩, t.finish .committed) := by
  have hcommit : s.commit ⟨ws, false⟩ = (.ok (), t.finish .committed) :=
    RelationalStore.commit_of_replay h
  simp only [commit, on, hcommit]

/-- A connection whose writes cannot be replayed is given up all the same. -/
theorem commit_on_of_refusal {ws : List StagedWrite} {e : RelationalError}
    (h : s.replay ws = .error e) :
    (on ⟨ws, false⟩).commit s = (.error e, ⟨none, .rolledBack⟩, s.finish .rolledBack) := by
  have hcommit : s.commit ⟨ws, false⟩ = (.error e, s.finish .rolledBack) :=
    RelationalStore.commit_of_refusal h
  simp only [commit, on, hcommit]

/-- A change that is accepted keeps connection and state in step. -/
theorem Sound.apply (h : t.Sound) {table key : String} {w : Write}
    (hok : t.apply s table key w = .ok u) : u.Sound := by
  rcases h.cases with ⟨ws, rfl⟩ | ⟨state, hended, rfl⟩
  · rw [apply_on] at hok
    cases hw : s.write ws table key w with
    | error e => simp [hw] at hok
    | ok ws' =>
      rw [hw] at hok
      exact Except.ok.inj hok ▸ sound_on rfl
  · cases hok

/-- So does a commit, whatever comes of it. -/
theorem Sound.commit (h : t.Sound) (s : RelationalStore) : (t.commit s).2.1.Sound := by
  rcases h.cases with ⟨ws, rfl⟩ | ⟨state, hended, rfl⟩
  · cases hr : s.replay ws with
    | error e =>
      rw [commit_on_of_refusal hr]
      exact sound_ended nofun
    | ok t =>
      rw [commit_on_of_replay hr]
      exact sound_ended nofun
  · exact sound_ended hended

/-- And so does a rollback. -/
theorem Sound.rollback (h : t.Sound) (s : RelationalStore) : (t.rollback s).2.1.Sound := by
  rcases h.cases with ⟨ws, rfl⟩ | ⟨state, hended, rfl⟩
  · exact sound_ended nofun
  · exact sound_ended hended

end Transaction

end DataAccess
