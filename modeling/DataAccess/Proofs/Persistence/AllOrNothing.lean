/-
  DataAccess.Proofs.Persistence.AllOrNothing — a change of a record happens
  whole or not at all.

  A change runs through three stages: the transaction begins, the operation
  is accepted, the commit goes through.  The first stage that fails decides
  everything that is seen afterwards — the error, how the transaction is
  said to have ended, what is told about it — and then no table has changed.
  If no stage fails, exactly the one write has happened.  The rollback on the
  way out adds nothing to a transaction that has ended, and never hides the
  first failure.

  Main statements:
    * `write_of_refusal`, `write_of_commit_fault`, `write_of_accepted`
                              — one equation for each way through a change;
    * `change_all_or_nothing` — the first failing stage decides the rest.
-/
import DataAccess.Persistence.Records
import DataAccess.Proofs.Relational.Contents

namespace DataAccess

/-! ## §1. The first failing stage, said outright. -/

/-- A change of one record. -/
inductive RecordChange (α : Type) where
  | create (a : α)
  | update (a : α)
  | delete (id : Int64)

/-- What is told of a change that succeeded. -/
def RecordChange.message {α : Type} : RecordChange α → String
  | create _ => "record created"
  | update _ => "record updated"
  | delete _ => "record deleted"

/-- The stages of a change, in order. -/
inductive Stage where
  | begin
  | operation
  | commit
  deriving DecidableEq

/-- The failure that a fault causes. -/
def RelationalError.injected (f : Fault) : RelationalError :=
  .connection ("injected " ++ f.name ++ " failure")

/-- There is a row under a key already. -/
def RelationalError.duplicate (table key : String) (id : Int64) : RelationalError :=
  .constraint ("duplicate key " ++ key ++ "=" ++ toString id.toInt ++ " in `" ++ table ++ "`")

/-- Why a write is refused, its key being known: the fault first, then a key
that is taken or missing. -/
def RelationalStore.refusalOf? (s : RelationalStore) (v : StagedWrite) : Option RelationalError :=
  if Fault.write ∈ s.faults then some (.injected .write)
  else match v.change, s.tables.contents v.table v.id with
    | .insert _, none => none
    | .insert _, some _ => some (.duplicate v.table v.key v.id)
    | _, none => some .notFound
    | _, some _ => none

/-- Why a write is refused: a new row without its key comes before the rest. -/
def RelationalStore.refusal? (s : RelationalStore) (table key : String) (w : Write) :
    Option RelationalError :=
  match w.on table key with
  | .error e => some (.cell e)
  | .ok v => s.refusalOf? v

namespace RowType

variable {α : Type}

/-- Changes a record. -/
def change (R : RowType α) (s : RelationalStore) : RecordChange α → Report Unit × RelationalStore
  | .create a => R.create s a
  | .update a => R.update s a
  | .delete id => R.delete s id

/-- The write that a change asks for. -/
def writeOf (R : RowType α) : RecordChange α → Write
  | .create a => .insert (R.toRow a)
  | .update a => .update (R.id a) (R.toRow a)
  | .delete id => .delete id

/-- The operation that entries about a change name. -/
def contextOf (R : RowType α) : RecordChange α → LogContext
  | .create a => R.context "create" (R.id a)
  | .update a => R.context "update" (R.id a)
  | .delete id => R.context "delete" id

/-- A new record needs a row with a free integer key, a change of a record a
row under its key. -/
def Applicable (R : RowType α) (s : RelationalStore) : RecordChange α → Prop
  | .create a => ∃ id, (R.toRow a).integer R.key = .ok id ∧ s.tables.contents R.table id = none
  | .update a => (s.tables.contents R.table (R.id a)).isSome = true
  | .delete id => (s.tables.contents R.table id).isSome = true

/-- The first stage that fails, with its error. -/
def firstFailure? (R : RowType α) (s : RelationalStore) (ch : RecordChange α) :
    Option (Stage × RelationalError) :=
  if Fault.begin ∈ s.faults then some (.begin, .injected .begin)
  else match s.refusal? R.table R.key (R.writeOf ch) with
    | some e => some (.operation, e)
    | none => if Fault.commit ∈ s.faults then some (.commit, .injected .commit) else none

/-- The change has happened: its one write is stored, its transaction is
committed, and its success is all that is told. -/
structure Done (R : RowType α) (s : RelationalStore) (ch : RecordChange α)
    (out : Report Unit × RelationalStore) : Prop where
  result : out.1.result = .ok ()
  contents : s.tables.contents.execute ⟨R.table, R.key, R.writeOf ch⟩ = some out.2.tables.contents
  ascending : s.tables.Ascending → out.2.tables.Ascending
  outcomes : out.2.outcomes = s.outcomes ++ [.committed]
  entries : out.1.entries = [.success (R.contextOf ch) ch.message]
  lines : out.1.lines = []

/-- The change has failed at a stage: tables are as they were, a transaction
that began is rolled back, and the failure is told of once.  It is followed
by a failure to roll back only if there was something to roll back. -/
structure Undone (R : RowType α) (s : RelationalStore) (ch : RecordChange α)
    (stage : Stage) (e : RelationalError) (out : Report Unit × RelationalStore) : Prop where
  result : out.1.result
    = .error (if stage = .operation ∧ e = .notFound then .notFound (.relational e)
        else .backend (.relational e))
  tables : out.2.tables = s.tables
  outcomes : out.2.outcomes = s.outcomes ++ (if stage = .begin then [] else [.rolledBack])
  entries : out.1.entries
    = (if stage = .operation ∧ e = .notFound then .notFound (R.contextOf ch)
        else .failure (R.contextOf ch) e.message)
      :: (if stage = .operation ∧ Fault.rollback ∈ s.faults
          then [.suppressed (R.contextOf ch) (RelationalError.injected .rollback).message] else [])
  lines : out.1.lines = []

end RowType

/-! ## §2. The stages of a transaction with one write. -/

namespace RelationalStore

theorem pass_of_mem {s : RelationalStore} {f : Fault} (h : f ∈ s.faults) :
    s.pass f = .error (.injected f) := if_pos h

theorem begin_of_mem {s : RelationalStore} (h : Fault.begin ∈ s.faults) :
    Transaction.begin s = .error (.injected .begin) := by
  unfold Transaction.begin RelationalStore.begin
  rw [pass_of_mem h]
  rfl

theorem begin_of_not_mem {s : RelationalStore} (h : Fault.begin ∉ s.faults) :
    Transaction.begin s = .ok (.on ⟨[], false⟩) := by
  unfold Transaction.begin RelationalStore.begin
  rw [pass_ok_iff.mpr h]
  rfl

/-- A first write of a transaction meets the committed rows alone: it is
refused for the reason that comes first, and accepted if there is none. -/
theorem stage_nil (s : RelationalStore) (v : StagedWrite) :
    (∃ e, s.refusalOf? v = some e ∧ s.stage [] v = .error e)
    ∨ (s.refusalOf? v = none ∧ Fault.write ∉ s.faults ∧ s.stage [] v = .ok [v]
        ∧ ∃ ts, s.tables.write v = .ok ts) := by
  by_cases hf : Fault.write ∈ s.faults
  · refine .inl ⟨.injected .write, if_pos hf, ?_⟩
    unfold stage
    rw [pass_of_mem hf]
    rfl
  · have hp : s.pass .write = .ok () := pass_ok_iff.mpr hf
    have hr : s.stage [] v
        = ((s.tables.get v.table).write v).bind fun _ => .ok [v] := by
      unfold stage
      rw [hp]
      rfl
    obtain ⟨table, key, id, change⟩ := v
    have hc : s.tables.contents table id = Assoc.find? (s.tables.get table) id := rfl
    rw [hr]
    simp only [refusalOf?, if_neg hf, hc, Tables.write, Table.write]
    -- each kind of change, once without a row under its key and once with one
    cases change <;> cases Assoc.find? (s.tables.get table) id
    · exact .inr ⟨rfl, hf, rfl, _, rfl⟩
    · exact .inl ⟨_, rfl, rfl⟩
    · exact .inl ⟨_, rfl, rfl⟩
    · exact .inr ⟨rfl, hf, rfl, _, rfl⟩
    · exact .inl ⟨_, rfl, rfl⟩
    · exact .inr ⟨rfl, hf, rfl, _, rfl⟩

/-- So it is with a write that is asked for. -/
theorem write_nil (s : RelationalStore) (table key : String) (w : Write) :
    (∃ e, s.refusal? table key w = some e ∧ s.write [] table key w = .error e)
    ∨ ∃ v, s.refusal? table key w = none ∧ Fault.write ∉ s.faults ∧ w.on table key = .ok v
        ∧ s.write [] table key w = .ok [v] ∧ ∃ ts, s.tables.write v = .ok ts := by
  unfold write refusal?
  cases hv : w.on table key with
  | error e => exact .inl ⟨.cell e, rfl, rfl⟩
  | ok v =>
    rcases s.stage_nil v with ⟨e, hr, hs⟩ | ⟨hr, hf, hs, hts⟩
    · exact .inl ⟨e, hr, hs⟩
    · exact .inr ⟨v, hr, hf, rfl, hs, hts⟩

end RelationalStore

/-! ## §3. The ways through a change. -/

namespace RowType

variable {α : Type} (R : RowType α) {s : RelationalStore} {w : Write} {v : StagedWrite}
  (context : LogContext) (message : String)

/-- **Refused**: the transaction is still open and is rolled back on the way
out, which may fail beside it. -/
theorem write_of_refusal {e : RelationalError} (hb : Fault.begin ∉ s.faults)
    (h : s.write [] R.table R.key w = .error e) :
    R.write s context w message
      = (⟨.error (.ofFailure (.relational e)),
          .ofFailure context (.relational e)
            :: (if Fault.rollback ∈ s.faults
                then [.suppressed context (RelationalError.injected .rollback).message] else []),
          []⟩, s.finish .rolledBack) := by
  have happly : (Transaction.on ⟨[], false⟩).apply s R.table R.key w = .error e := by
    rw [Transaction.apply_on, h]
    rfl
  unfold write
  rw [RelationalStore.begin_of_not_mem hb]
  simp only [applyAndCommit, happly, Transaction.rollback_on, Transaction.drop]
  by_cases hr : Fault.rollback ∈ s.faults
  · rw [RelationalStore.pass_of_mem hr, if_pos hr]
    rfl
  · rw [RelationalStore.pass_ok_iff.mpr hr, if_neg hr]
    rfl

/-- A write that is accepted is all that the transaction holds. -/
theorem apply_accepted (h : s.write [] R.table R.key w = .ok [v]) :
    (Transaction.on ⟨[], false⟩).apply s R.table R.key w = .ok (.on ⟨[v], false⟩) := by
  rw [Transaction.apply_on, h]
  rfl

/-- **Not committed**: the failed commit has rolled the transaction back, so
that nothing is left to do on the way out. -/
theorem write_of_commit_fault (hb : Fault.begin ∉ s.faults)
    (h : s.write [] R.table R.key w = .ok [v]) (hc : Fault.commit ∈ s.faults) :
    R.write s context w message
      = (⟨.error (.backend (.relational (.injected .commit))),
          [.failure context (RelationalError.injected .commit).message], []⟩,
        s.finish .rolledBack) := by
  have hreplay : s.replay [v] = .error (.injected .commit) := by
    rw [RelationalStore.replay, RelationalStore.pass_of_mem hc]
    rfl
  unfold write
  rw [RelationalStore.begin_of_not_mem hb]
  simp only [applyAndCommit, R.apply_accepted h, Transaction.commit_on_of_refusal hreplay]
  rfl

/-- **Done**: after the commit nothing is left to do on the way out, whatever
faults there are. -/
theorem write_of_accepted {ts : Tables} (hb : Fault.begin ∉ s.faults)
    (h : s.write [] R.table R.key w = .ok [v]) (hc : Fault.commit ∉ s.faults)
    (hts : s.tables.write v = .ok ts) :
    R.write s context w message
      = (⟨.ok (), [.success context message], []⟩, { s with tables := ts }.finish .committed) := by
  have hreplay : s.replay [v] = .ok { s with tables := ts } := by
    refine RelationalStore.replay_ok_iff.mpr ⟨hc, ts, ?_, rfl⟩
    simp only [Tables.replay, hts]
  unfold write
  rw [RelationalStore.begin_of_not_mem hb]
  simp only [applyAndCommit, R.apply_accepted h, Transaction.commit_on_of_replay hreplay]
  rfl

/-! ## §4. All or nothing. -/

/-- A change is its write in a transaction of its own. -/
theorem change_eq_write (s : RelationalStore) (ch : RecordChange α) :
    R.change s ch = R.write s (R.contextOf ch) (R.writeOf ch) ch.message := by
  cases ch <;> rfl

/-- A refusal that finds nothing is told apart from all others. -/
theorem isNotFound_of_refusal {table key : String} {e : RelationalError}
    (h : s.refusal? table key w = some e) :
    (RelationalError.isNotFound e = true ↔ e = .notFound) := by
  unfold RelationalStore.refusal? RelationalStore.refusalOf? at h
  repeat' split at h
  all_goals
    cases h <;> simp [RelationalError.isNotFound, RelationalError.injected,
      RelationalError.duplicate]

/-- Without the fault on writes, nothing speaks against a write exactly if
its change is applicable. -/
theorem refusal?_eq_none_iff (hw : Fault.write ∉ s.faults) (ch : RecordChange α) :
    s.refusal? R.table R.key (R.writeOf ch) = none ↔ R.Applicable s ch := by
  unfold RelationalStore.refusal? RelationalStore.refusalOf?
  cases ch with
  | create a =>
    simp only [writeOf, Write.on, Applicable]
    cases (R.toRow a).integer R.key with
    | error e => simp
    | ok id => cases h : s.tables.contents R.table id <;> simp [hw, h]
  | update a =>
    simp only [writeOf, Write.on, Applicable]
    cases s.tables.contents R.table (R.id a) <;> simp [hw]
  | delete id =>
    simp only [writeOf, Write.on, Applicable]
    cases s.tables.contents R.table id <;> simp [hw]

theorem firstFailure?_eq_none_iff (ch : RecordChange α) :
    R.firstFailure? s ch = none
      ↔ Fault.begin ∉ s.faults ∧ Fault.write ∉ s.faults ∧ Fault.commit ∉ s.faults
        ∧ R.Applicable s ch := by
  unfold firstFailure?
  by_cases hb : Fault.begin ∈ s.faults
  · simp [hb]
  rcases s.write_nil R.table R.key (R.writeOf ch) with ⟨e, hr, -⟩ | ⟨v, hr, hw, -, -, -⟩
  · -- a refusal is the fault on writes or a change that is not applicable
    have hna : ¬ (Fault.write ∉ s.faults ∧ R.Applicable s ch) := fun ⟨hw, ha⟩ => by
      rw [(R.refusal?_eq_none_iff hw ch).mpr ha] at hr
      cases hr
    simp only [hb, if_false, hr, reduceCtorEq, not_false_eq_true, true_and, false_iff]
    exact fun ⟨hw, _, ha⟩ => hna ⟨hw, ha⟩
  · have ha : R.Applicable s ch := (R.refusal?_eq_none_iff hw ch).mp hr
    by_cases hc : Fault.commit ∈ s.faults <;> simp [hb, hr, hc, hw, ha]

/-- The first stage that fails decides what comes of a change. -/
theorem change_decided (s : RelationalStore) (ch : RecordChange α) :
    match R.firstFailure? s ch with
    | none => R.Done s ch (R.change s ch)
    | some (stage, e) => R.Undone s ch stage e (R.change s ch) := by
  rw [change_eq_write]
  unfold firstFailure?
  by_cases hb : Fault.begin ∈ s.faults
  · -- nothing has begun, so that nothing is rolled back
    rw [if_pos hb, R.write_of_begin (RelationalStore.begin_of_mem hb)]
    exact ⟨rfl, rfl, (List.append_nil _).symm, rfl, rfl⟩
  rw [if_neg hb]
  rcases s.write_nil R.table R.key (R.writeOf ch) with ⟨e, hr, hw⟩ | ⟨v, hr, -, hv, hw, ts, hts⟩
  · -- the operation is refused: its error alone tells a missing row from the rest
    rw [hr, R.write_of_refusal _ _ hb hw]
    have hn := isNotFound_of_refusal hr
    have hf : PersistenceError.ofFailure (.relational e)
        = if e = .notFound then .notFound (.relational e) else .backend (.relational e) :=
      if_congr hn rfl rfl
    have hl : LogEntry.ofFailure (R.contextOf ch) (.relational e)
        = if e = .notFound then .notFound (R.contextOf ch)
          else .failure (R.contextOf ch) e.message :=
      if_congr hn rfl rfl
    rw [hf, hl]
    exact ⟨by simp, rfl, rfl, by simp, rfl⟩
  · rw [hr]
    by_cases hc : Fault.commit ∈ s.faults
    · rw [R.write_of_commit_fault _ _ hb hw hc, if_pos hc]
      exact ⟨rfl, rfl, rfl, rfl, rfl⟩
    · rw [R.write_of_accepted _ _ hb hw hc hts, if_neg hc]
      have hcontents := Tables.contents_write s.tables (i := ⟨R.table, R.key, R.writeOf ch⟩) hv
      rw [hts] at hcontents
      exact ⟨rfl, hcontents.symm, fun h => Tables.ascending_write h hts, rfl, rfl, rfl⟩

/-- **ALL OR NOTHING.**  A change of a record succeeds exactly if no fault is
set on beginning, writing or committing and the change is applicable; then
its one write is stored.  Otherwise the first stage that fails decides what
is answered and told, and nothing is stored. -/
theorem change_all_or_nothing (s : RelationalStore) (ch : RecordChange α) :
    ((R.change s ch).1.result = .ok ()
        ↔ Fault.begin ∉ s.faults ∧ Fault.write ∉ s.faults ∧ Fault.commit ∉ s.faults
          ∧ R.Applicable s ch)
      ∧ match R.firstFailure? s ch with
        | none => R.Done s ch (R.change s ch)
        | some (stage, e) => R.Undone s ch stage e (R.change s ch) := by
  refine ⟨?_, R.change_decided s ch⟩
  rw [← R.firstFailure?_eq_none_iff ch]
  have h := R.change_decided s ch
  cases hf : R.firstFailure? s ch with
  | none =>
    rw [hf] at h
    exact iff_of_true h.result rfl
  | some p =>
    rw [hf] at h
    refine iff_of_false (fun hok => ?_) (by simp)
    rw [h.result] at hok
    cases hok

end RowType

end DataAccess
