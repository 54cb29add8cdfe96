/-
  DataAccess.Proofs.Relational.CommitOrder — what is stored is the history of
  commits.

  Transactions stage their writes on a view of their own, and a commit
  replays them on copies of the tables that are then put back.  However the
  calls of any number of transactions are interleaved, the tables hold what
  the seeds and the writes of committed transactions make of empty tables,
  executed one transaction after the other in the order of their commits.

  Main statements:
    * `contents_step`                — one call performs its effects;
    * `tables_hold_committed_history` — so the tables hold the whole history.
-/
import DataAccess.Proofs.Relational.Run

namespace DataAccess

variable [Pattern.Engine] [Sorter]

namespace Session

/-- **One call performs its effects** on what the tables hold, and each of
them applies. -/
theorem contents_step {s : Session} {past : List Event} (h : s.Tracks past) (c : Call) :
    s.store.tables.contents.performAll (Event.effects past ⟨c, (s.step c).1⟩)
      = some (s.step c).2.store.tables.contents := by
  rcases s.tables_step c with ⟨ht, he⟩ | ⟨table, key, row, id, rfl, hid, ht⟩
      | ⟨name, d, rfl, hok, hopen, hreplay⟩
  · -- a call without effects leaves the tables alone
    rw [he past, ht]
    rfl
  · -- a seed puts its row, whatever was there
    rw [ht, Tables.contents_put_row]
    simp [Event.effects, hid, Contents.performAll, Contents.perform]
  · -- a commit replays what it holds, which is what was issued under its name
    have hc := Tables.contents_replay (h name d hopen) s.store.tables
    rw [hreplay] at hc
    rw [hok]
    exact hc.symm

/-- A call keeps every table in order. -/
theorem ascending_step {s : Session} (h : s.store.tables.Ascending) (c : Call) :
    (s.step c).2.store.tables.Ascending := by
  rcases s.tables_step c with ⟨ht, -⟩ | ⟨table, key, row, id, -, -, ht⟩
      | ⟨name, d, -, -, -, hreplay⟩
  · rw [ht]
    exact h
  · rw [ht]
    exact Tables.ascending_put h (Table.ascending_put (h table) id row)
  · exact Tables.ascending_replay h hreplay

end Session

namespace Run

/-- The invariant of runs: open transactions hold what they issued, tables
are in order, and they hold what was stored for good. -/
structure Sound (r : Run) : Prop where
  tracks : r.session.Tracks r.past
  ascending : r.session.store.tables.Ascending
  contents : Contents.empty.performAll (effects r.past) = some r.session.store.tables.contents

omit [Pattern.Engine] [Sorter] in
theorem sound_start : start.Sound where
  tracks := Session.tracks_start
  ascending := Tables.ascending_empty
  contents := rfl

theorem Sound.call {r : Run} (h : r.Sound) (c : Call) : (r.call c).Sound where
  tracks := Session.tracks_step h.tracks c
  ascending := Session.ascending_step h.ascending c
  contents := by
    -- what happened before is known, so that only the last call is performed
    show Contents.empty.performAll (effects r.past ++ Event.effects r.past _) = _
    rw [Contents.performAll_append, h.contents]
    exact Session.contents_step h.tracks c

theorem sound_of (calls : List Call) : (of calls).Sound :=
  induct sound_start (fun _ c h => h.call c) calls

/-- **THE COMMITTED HISTORY.**  After any calls of any number of transactions
in any interleaving, the tables hold what seeds and committed writes make of
nothing, executed in the order of the commits; every one of these writes
applies where it stands.  Tables list their rows by ascending keys.  And no
next call changes a table but a seed that carries an integer key or a commit
that succeeds. -/
theorem tables_hold_committed_history (calls : List Call) :
    Contents.empty.performAll (effects (of calls).past)
        = some (of calls).session.store.tables.contents
      ∧ (of calls).session.store.tables.Ascending
      ∧ ∀ c, ((of calls).call c).session.store.tables = (of calls).session.store.tables
          ∨ (∃ table key row id, c = .seed table key row ∧ row.integer key = .ok id)
          ∨ ∃ name, c = .commit name ∧ ((of calls).session.step c).1 = .ok () := by
  refine ⟨(sound_of calls).contents, (sound_of calls).ascending, fun c => ?_⟩
  rcases (of calls).session.tables_step c with ⟨ht, -⟩ | ⟨table, key, row, id, hc, hid, -⟩
      | ⟨name, d, hc, hok, -, -⟩
  · exact .inl ht
  · exact .inr (.inl ⟨table, key, row, id, hc, hid⟩)
  · exact .inr (.inr ⟨name, hc, hok⟩)

end Run

end DataAccess
