/-
  DataAccess.Proofs.Relational.Run — runs of calls on a store, and their past.

  A run makes calls on an empty store, one after the other, and notes each
  call with its answer.  Transactions are told apart by their names, so that
  any number of them may be open and their calls may come in any order.
  What a transaction has issued is read off the past alone: the writes under
  its name that were accepted since it began.

  Main statements:
    * `tables_step`   — what one call can do to the tables;
    * `tracks_step`   — open transactions hold the writes that they issued.
-/
import DataAccess.Proofs.Relational.Contents
import DataAccess.Relational.Read
import DataAccess.Relational.Session

namespace DataAccess

/-! ## §1. Calls and their answers. -/

/-- A call on a store, or on a transaction of it. -/
inductive Call where
  | seed (table key : String) (row : Row)
  | inject (f : Fault)
  | clearFaults
  | begin (name : String)
  | write (name table key : String) (w : Write)
  | commit (name : String)
  | rollback (name : String)
  | drop (name : String)
  | findByKey (table : String) (id : Int64) (columns : List Column)
  | select (table : String) (columns : List Column) (q : Query)

/-- What a call answers, the rows that it reads left out. -/
abbrev Answer := Except SessionError Unit

/-- A call that was made, with its answer. -/
structure Event where
  call : Call
  answer : Answer

variable [Pattern.Engine] [Sorter]

namespace Session

/-- Takes a new session over if there is one. -/
def settle (s : Session) : Except SessionError Session → Answer × Session
  | .ok t => (.ok (), t)
  | .error e => (.error e, s)

/-- Makes one call. -/
def step (s : Session) : Call → Answer × Session
  | .seed table key row => (.ok (), { s with store := s.store.seed table key row })
  | .inject f => (.ok (), { s with store := s.store.inject f })
  | .clearFaults => (.ok (), { s with store := s.store.clearFaults })
  | .begin name => s.settle (s.begin name)
  | .write name table key w => s.settle (s.write name table key w)
  | .commit name => s.commit name
  | .rollback name => s.rollback name
  | .drop name => s.drop name
  | .findByKey table id columns =>
      match s.store.findByKey table id columns with
      | .ok _ => (.ok (), s)
      | .error e => (.error (.store e), s)
  | .select table columns q =>
      match s.store.select table columns q with
      | (none, store) => (.error .panicked, { s with store })
      | (some (.ok _), store) => (.ok (), { s with store })
      | (some (.error e), store) => (.error (.store e), { s with store })

end Session

/-- A session with its past, the last event first. -/
structure Run where
  session : Session
  past : List Event

namespace Run

/-- Nothing has happened on an empty store. -/
def start : Run := ⟨.empty, []⟩

/-- Makes one call and notes it. -/
def call (r : Run) (c : Call) : Run :=
  ⟨(r.session.step c).2, ⟨c, (r.session.step c).1⟩ :: r.past⟩

/-- Makes calls on an empty store, one after the other. -/
def of (calls : List Call) : Run := calls.foldl call start

/-- What holds at the start and is kept by every call holds after every run. -/
theorem induct {P : Run → Prop} (hstart : P start) (hcall : ∀ r c, P r → P (r.call c))
    (calls : List Call) : P (of calls) :=
  List.foldlRecOn calls call hstart fun r h c _ => hcall r c h

end Run

/-! ## §2. What is read off the past. -/

/-- The writes under a name that were accepted since it was last begun, in
the order in which they were issued. -/
def issued (name : String) : List Event → List IssuedWrite
  | [] => []
  | ⟨.begin other, .ok ()⟩ :: past => if other = name then [] else issued name past
  | ⟨.write other table key w, .ok ()⟩ :: past =>
      if other = name then issued name past ++ [⟨table, key, w⟩] else issued name past
  | _ :: past => issued name past

/-- What an event stores for good: the row of a seed that carries an integer
key, and everything that a transaction issued if its commit succeeded. -/
def Event.effects (past : List Event) : Event → List Effect
  | ⟨.seed table key row, _⟩ =>
      match row.integer key with
      | .ok id => [.put table id row]
      | .error _ => []
  | ⟨.commit name, .ok ()⟩ => (issued name past).map .write
  | _ => []

/-- What was stored for good, in order. -/
def effects : List Event → List Effect
  | [] => []
  | e :: past => effects past ++ e.effects past

/-! ## §3. What one call can do. -/

omit [Pattern.Engine] [Sorter] in
/-- A write that is accepted has been staged. -/
theorem RelationalStore.exists_of_write_ok {s : RelationalStore} {ws vs : List StagedWrite}
    {table key : String} {w : Write} (h : s.write ws table key w = .ok vs) :
    ∃ v, Tables.Stages ⟨table, key, w⟩ v ∧ s.stage ws v = .ok vs := by
  unfold RelationalStore.write at h
  cases hv : w.on table key with
  | error e => simp [hv] at h
  | ok v =>
    rw [hv] at h
    exact ⟨v, hv, h⟩

namespace Session

/-- **What one call can do to the tables**: nothing, unless it is a seed that
carries an integer key or a commit that succeeds. -/
theorem tables_step (s : Session) (c : Call) :
    ((s.step c).2.store.tables = s.store.tables
      ∧ ∀ past, Event.effects past ⟨c, (s.step c).1⟩ = [])
    ∨ (∃ table key row id, c = .seed table key row ∧ row.integer key = .ok id
        ∧ (s.step c).2.store.tables
          = s.store.tables.put table ((s.store.tables.get table).put id row))
    ∨ ∃ name d, c = .commit name ∧ (s.step c).1 = .ok () ∧ Assoc.find? s.bare name = some d
        ∧ s.store.tables.replay d.writes = .ok (s.step c).2.store.tables := by
  -- only a seed and a commit can be in the second and third case
  cases c with
  | seed table key row =>
    cases hid : row.integer key with
    | error e =>
      exact .inl ⟨by simp [step, RelationalStore.seed, hid], by simp [Event.effects, hid]⟩
    | ok id =>
      exact .inr (.inl ⟨table, key, row, id, rfl, hid, by simp [step, RelationalStore.seed, hid]⟩)
  | inject f => exact .inl ⟨rfl, fun _ => rfl⟩
  | clearFaults => exact .inl ⟨rfl, fun _ => rfl⟩
  | begin name =>
    refine .inl ⟨?_, fun _ => rfl⟩
    simp only [step, begin]
    cases s.store.begin with
    | error e => rfl
    | ok d =>
      simp only [settle]
      -- the transaction that had the name is given up
      cases Assoc.find? s.bare name with
      | none => rfl
      | some old => exact s.store.tables_drop old
  | write name table key w =>
    refine .inl ⟨?_, fun _ => rfl⟩
    simp only [step, write]
    cases Assoc.find? s.bare name with
    | none => rfl
    | some d =>
      simp only
      cases d.write s.store table key w <;> rfl
  | commit name =>
    simp only [step, commit, finish]
    cases hopen : Assoc.find? s.bare name with
    | none => exact .inl ⟨rfl, fun _ => rfl⟩
    | some d =>
      -- a commit that is refused has replayed nothing that stays
      have h := RelationalStore.commit_tables s.store d
      simp only
      rcases hc : s.store.commit d with ⟨_ | u, t⟩
      · rw [hc] at h
        exact .inl ⟨h, fun _ => rfl⟩
      · rw [hc] at h
        exact .inr (.inr ⟨name, d, rfl, rfl, hopen, h⟩)
  | rollback name =>
    refine .inl ⟨?_, fun _ => rfl⟩
    simp only [step, rollback, finish]
    cases Assoc.find? s.bare name <;> rfl
  | drop name =>
    refine .inl ⟨?_, fun _ => rfl⟩
    simp only [step, drop, finish]
    cases Assoc.find? s.bare name with
    | none => rfl
    | some d => exact s.store.tables_drop d
  | findByKey table id columns =>
    refine .inl ⟨?_, fun _ => rfl⟩
    simp only [step]
    cases s.store.findByKey table id columns <;> rfl
  | select table columns q =>
    refine .inl ⟨?_, fun _ => rfl⟩
    have htables := RelationalStore.tables_select s.store table columns q
    simp only [step]
    rcases hsel : s.store.select table columns q with ⟨_ | e | rows, store⟩
    · rwa [hsel] at htables
    · rwa [hsel] at htables
    · rwa [hsel] at htables

/-- Every open transaction holds the writes that it issued, as they were
staged. -/
def Tracks (s : Session) (past : List Event) : Prop :=
  ∀ name d, Assoc.find? s.bare name = some d →
    List.Forall₂ Tables.Stages (issued name past) d.writes

omit [Pattern.Engine] [Sorter] in
theorem tracks_start : Run.start.session.Tracks Run.start.past := by
  intro name d h
  cases h

omit [Pattern.Engine] [Sorter] in
/-- A call that opens, extends or ends no transaction keeps what is tracked. -/
theorem Tracks.of_bare_eq {s t : Session} {past : List Event} {e : Event} (h : s.Tracks past)
    (hb : t.bare = s.bare) (he : ∀ name, issued name (e :: past) = issued name past) :
    t.Tracks (e :: past) := by
  intro name d hopen
  rw [he]
  exact h name d (hb ▸ hopen)

omit [Pattern.Engine] [Sorter] in
/-- A call that ends a transaction keeps track of the others. -/
theorem Tracks.of_erase {s t : Session} {past : List Event} {e : Event} {name : String}
    (h : s.Tracks past) (hb : t.bare = Assoc.erase s.bare name)
    (he : ∀ name, issued name (e :: past) = issued name past) : t.Tracks (e :: past) := by
  intro other d hopen
  rw [hb, Assoc.find?_erase] at hopen
  rw [he]
  split at hopen
  · cases hopen
  · exact h other d hopen

/-- An open transaction has issued its new write behind the earlier ones. -/
theorem tracks_write {s : Session} {past : List Event} (h : s.Tracks past)
    (name table key : String) (w : Write) :
    (s.step (.write name table key w)).2.Tracks
      (⟨.write name table key w, (s.step (.write name table key w)).1⟩ :: past) := by
  simp only [step, write]
  cases hopen : Assoc.find? s.bare name with
  | none => exact h.of_bare_eq rfl fun _ => rfl
  | some d =>
    simp only
    cases hw : d.write s.store table key w with
    | error e => exact h.of_bare_eq rfl fun _ => rfl
    | ok d' =>
      obtain ⟨ws, hws, rfl⟩ := Connection.write_ok_iff.mp hw
      obtain ⟨v, hv, hstaged⟩ := RelationalStore.exists_of_write_ok hws
      obtain ⟨-, -, rfl⟩ := RelationalStore.stage_ok_iff.mp hstaged
      intro other d' hother
      simp only [settle] at hother ⊢
      rw [Assoc.find?_insert] at hother
      simp only [issued]
      -- the name of the write is asked for, or another one that it leaves alone
      split at hother
      · next hn =>
        obtain rfl := Option.some.inj hother
        rw [if_pos hn]
        exact List.rel_append (h other d (hn ▸ hopen)) (.cons hv .nil)
      · next hn =>
        rw [if_neg hn]
        exact h other d' hother

/-- A transaction that begins has issued nothing yet. -/
theorem tracks_begin {s : Session} {past : List Event} (h : s.Tracks past) (name : String) :
    (s.step (.begin name)).2.Tracks (⟨.begin name, (s.step (.begin name)).1⟩ :: past) := by
  simp only [step, begin]
  cases hb : s.store.begin with
  | error e => exact h.of_bare_eq rfl fun _ => rfl
  | ok d =>
    intro other d' hother
    simp only [settle] at hother ⊢
    rw [Assoc.find?_insert] at hother
    simp only [issued]
    split at hother
    · next hn =>
      -- whatever the name stood for before, it is forgotten on both sides
      obtain rfl : d = d' := Option.some.inj hother
      rw [if_pos hn, RelationalStore.eq_of_begin hb]
      exact .nil
    · next hn =>
      rw [if_neg hn]
      exact h other d' hother

/-- **Open transactions hold what they issued**, whatever call is made. -/
theorem tracks_step {s : Session} {past : List Event} (h : s.Tracks past) (c : Call) :
    (s.step c).2.Tracks (⟨c, (s.step c).1⟩ :: past) := by
  -- what finishes a transaction forgets its name, other calls leave all names
  cases c with
  | seed table key row =>
    refine h.of_bare_eq ?_ fun _ => rfl
    simp only [step, RelationalStore.seed]
  | inject f => exact h.of_bare_eq rfl fun _ => rfl
  | clearFaults => exact h.of_bare_eq rfl fun _ => rfl
  | begin name => exact tracks_begin h name
  | write name table key w => exact tracks_write h name table key w
  | commit name =>
    simp only [step, commit, finish]
    cases Assoc.find? s.bare name with
    | none => exact h.of_bare_eq rfl fun _ => rfl
    | some d => exact h.of_erase rfl fun _ => rfl
  | rollback name =>
    simp only [step, rollback, finish]
    cases Assoc.find? s.bare name with
    | none => exact h.of_bare_eq rfl fun _ => rfl
    | some d => exact h.of_erase rfl fun _ => rfl
  | drop name =>
    simp only [step, drop, finish]
    cases Assoc.find? s.bare name with
    | none => exact h.of_bare_eq rfl fun _ => rfl
    | some d => exact h.of_erase rfl fun _ => rfl
  | findByKey table id columns =>
    simp only [step]
    cases s.store.findByKey table id columns <;> exact h.of_bare_eq rfl fun _ => rfl
  | select table columns q =>
    simp only [step]
    rcases s.store.select table columns q with ⟨_ | e | rows, store⟩
    · exact h.of_bare_eq rfl fun _ => rfl
    · exact h.of_bare_eq rfl fun _ => rfl
    · exact h.of_bare_eq rfl fun _ => rfl

end Session

end DataAccess
