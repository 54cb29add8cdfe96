/-
  DataAccess.Proofs.Relational.Commuting — commits on different rows commute.

  A commit copies tables, replays its writes on the copies and puts whole
  tables back.  Two transactions that are about different rows, possibly of
  the same tables, get the same answers in whichever order they commit, and
  leave the same tables.  This holds too if one of them is refused midway.

  Main statements:
    * `commit_of_not_target`       — a commit leaves the rows that its writes
                                     are not about;
    * `commit_congr`               — its answer is settled by the rows that
                                     they are about;
    * `commits_commute`            — so commits on different rows commute;
    * `disjoint_commits_commute`   — and so do those of open transactions.
-/
import DataAccess.Proofs.Relational.CommitOrder
import DataAccess.Proofs.Relational.Locality
import DataAccess.Sample.Engines

namespace DataAccess

/-! ## §1. Commits on contents. -/

/-- No write of the one list is about a row that a write of the other is
about. -/
def Apart (ws vs : List StagedWrite) : Prop :=
  ∀ w ∈ ws, ∀ v ∈ vs, (w.table, w.id) ≠ (v.table, v.id)

theorem Apart.symm {ws vs : List StagedWrite} (h : Apart ws vs) : Apart vs ws :=
  fun v hv w hw he => h w hw v hv he.symm

namespace Contents

/-- Commits writes, all or none. -/
def commit (c : Contents) (ws : List StagedWrite) : Except RelationalError Unit × Contents :=
  match c.replay ws with
  | .ok c => (.ok (), c)
  | .error e => (.error e, c)

/-- A commit leaves the rows that its writes are not about. -/
theorem commit_of_not_target (c : Contents) {ws : List StagedWrite} {table : String} {id : Int64}
    (h : ∀ w ∈ ws, (w.table, w.id) ≠ (table, id)) : (c.commit ws).2 table id = c table id := by
  unfold commit
  cases hc : c.replay ws with
  | error e => rfl
  | ok c' => exact replay_of_not_target hc h

/-- **The answer of a commit is settled by the rows that its writes are
about**, and so is what it makes of them. -/
theorem commit_congr {K : String → Int64 → Prop} {ws : List StagedWrite}
    (hK : ∀ w ∈ ws, K w.table w.id) {c d : Contents}
    (h : ∀ table id, K table id → c table id = d table id) :
    (c.commit ws).1 = (d.commit ws).1
      ∧ ∀ table id, K table id → (c.commit ws).2 table id = (d.commit ws).2 table id := by
  unfold commit
  obtain ⟨c', d', hc, hd, h'⟩ | ⟨e, hc, hd⟩ := (replay_sameOutcome respected_eq hK h).inv
  · rw [hc, hd]
    exact ⟨rfl, h'⟩
  · rw [hc, hd]
    exact ⟨rfl, h⟩

/-- What another transaction has committed elsewhere makes no difference. -/
theorem commit_after_apart (c : Contents) {ws vs : List StagedWrite} (h : Apart ws vs) :
    ((c.commit vs).2.commit ws).1 = (c.commit ws).1
      ∧ ∀ w ∈ ws, ((c.commit vs).2.commit ws).2 w.table w.id = (c.commit ws).2 w.table w.id := by
  -- the footprint of the writes, on which nothing has been committed
  have hkeep : ∀ table id, (∃ w ∈ ws, (w.table, w.id) = (table, id)) →
      (c.commit vs).2 table id = c table id := by
    intro table id ⟨w, hw, he⟩
    exact commit_of_not_target c fun v hv hv' => h w hw v hv (he.trans hv'.symm)
  have hK : ∀ w ∈ ws, ∃ w' ∈ ws, (w'.table, w'.id) = (w.table, w.id) := fun w hw => ⟨w, hw, rfl⟩
  obtain ⟨hanswer, hrows⟩ := commit_congr hK hkeep
  exact ⟨hanswer, fun w hw => hrows w.table w.id (hK w hw)⟩

/-- **Commits on different rows commute.** -/
theorem commit_comm (c : Contents) {ws vs : List StagedWrite} (h : Apart ws vs) :
    ((c.commit ws).2.commit vs).2 = ((c.commit vs).2.commit ws).2 := by
  funext table id
  by_cases hw : ∃ w ∈ ws, (w.table, w.id) = (table, id)
  · -- a row of the one transaction, which the other leaves alone
    obtain ⟨w, hw, he⟩ := hw
    obtain ⟨rfl, rfl⟩ := Prod.mk.inj he
    rw [commit_of_not_target _ fun v hv hv' => h w hw v hv hv'.symm,
      (c.commit_after_apart h).2 w hw]
  have hw' : ∀ w ∈ ws, (w.table, w.id) ≠ (table, id) := fun w hmem he => hw ⟨w, hmem, he⟩
  rw [commit_of_not_target (c.commit vs).2 hw']
  by_cases hv : ∃ v ∈ vs, (v.table, v.id) = (table, id)
  · -- a row of the other transaction
    obtain ⟨v, hv, he⟩ := hv
    obtain ⟨rfl, rfl⟩ := Prod.mk.inj he
    exact (c.commit_after_apart h.symm).2 v hv
  · -- a row of neither
    have hv' : ∀ v ∈ vs, (v.table, v.id) ≠ (table, id) := fun v hmem he => hv ⟨v, hmem, he⟩
    rw [commit_of_not_target _ hv', commit_of_not_target _ hv', commit_of_not_target _ hw']

end Contents

/-! ## §2. Commits of a store. -/

namespace RelationalStore

/-- A commit changes no fault. -/
theorem faults_commit (s : RelationalStore) (d : Connection) :
    (s.commit d).2.faults = s.faults := by
  cases h : s.replay d.writes with
  | error e =>
    rw [commit_of_refusal h]
    rfl
  | ok t =>
    rw [commit_of_replay h]
    obtain ⟨-, ts, -, rfl⟩ := replay_ok_iff.mp h
    rfl

/-- A commit keeps every table in order. -/
theorem ascending_commit {s : RelationalStore} (h : s.tables.Ascending) (d : Connection) :
    (s.commit d).2.tables.Ascending := by
  have ht := s.commit_tables d
  rcases hc : s.commit d with ⟨_ | u, t⟩
  · rw [hc] at ht
    exact ht ▸ h
  · rw [hc] at ht
    exact Tables.ascending_replay h ht

/-- With its fault set, a commit does nothing but fail. -/
theorem commit_of_fault {s : RelationalStore} (hf : Fault.commit ∈ s.faults) (d : Connection) :
    s.commit d = (.error (.connection "injected Commit failure"), s.finish .rolledBack) := by
  apply commit_of_refusal
  unfold replay pass
  rw [if_pos hf]
  rfl

/-- Without its fault, a commit is one on what the tables hold. -/
theorem contents_commit {s : RelationalStore} (hf : Fault.commit ∉ s.faults) (d : Connection) :
    (s.commit d).1 = (s.tables.contents.commit d.writes).1
      ∧ (s.commit d).2.tables.contents = (s.tables.contents.commit d.writes).2 := by
  unfold Contents.commit
  obtain ⟨ts, c, ht, hc, h⟩ | ⟨e, ht, hc⟩ :=
    (s.tables.contents_replay_sameOutcome d.writes).inv
  · rw [commit_of_replay (replay_ok_iff.mpr ⟨hf, ts, ht, rfl⟩), hc]
    exact ⟨rfl, h⟩
  · rw [commit_of_refusal (replay_of_error hf ht), hc]
    exact ⟨rfl, rfl⟩

/-- **Commits on different rows commute**: the answer does not depend on what
was committed before, and what is stored not on the order. -/
theorem commits_commute (s : RelationalStore) {d e : Connection} (h : Apart d.writes e.writes) :
    ((s.commit e).2.commit d).1 = (s.commit d).1
      ∧ ((s.commit d).2.commit e).2.tables.contents
        = ((s.commit e).2.commit d).2.tables.contents := by
  by_cases hf : Fault.commit ∈ s.faults
  · rw [commit_of_fault hf, commit_of_fault hf, commit_of_fault (s := s.finish .rolledBack) hf,
      commit_of_fault (s := s.finish .rolledBack) hf]
    exact ⟨rfl, rfl⟩
  · have hfd : Fault.commit ∉ (s.commit d).2.faults := by rwa [faults_commit]
    have hfe : Fault.commit ∉ (s.commit e).2.faults := by rwa [faults_commit]
    rw [(contents_commit hfe d).1, (contents_commit hfe d).2, (contents_commit hfd e).2,
      (contents_commit hf d).1, (contents_commit hf d).2, (contents_commit hf e).2]
    exact ⟨(s.tables.contents.commit_after_apart h).1, s.tables.contents.commit_comm h⟩

end RelationalStore

/-! ## §3. Commits of open transactions. -/

namespace Session

/-- An open transaction commits what it holds. -/
theorem commit_eq {s : Session} {name : String} {d : Connection}
    (h : Assoc.find? s.bare name = some d) :
    s.commit name = ((s.store.commit d).1.mapError .store,
      { s with store := (s.store.commit d).2, bare := Assoc.erase s.bare name }) := by
  unfold commit finish
  rw [h]

/-- Another transaction is still open after a commit. -/
theorem find?_bare_commit {s : Session} {name other : String} {d e : Connection}
    (h : Assoc.find? s.bare name = some d) (hne : name ≠ other)
    (hother : Assoc.find? s.bare other = some e) :
    Assoc.find? (s.commit name).2.bare other = some e := by
  rw [commit_eq h]
  show Assoc.find? (Assoc.erase s.bare name) other = some e
  rw [Assoc.find?_erase, if_neg hne, hother]

end Session

/-- Transactions that were asked for different places hold writes on
different rows. -/
theorem apart_of_issued {is js : List IssuedWrite} {ws vs : List StagedWrite}
    (hw : List.Forall₂ Tables.Stages is ws) (hv : List.Forall₂ Tables.Stages js vs)
    (h : ∀ i ∈ is, ∀ j ∈ js, i.place? ≠ j.place?) : Apart ws vs := by
  intro w hmw v hmv he
  obtain ⟨i, hi, hiw⟩ := Tables.exists_issued hw hmw
  obtain ⟨j, hj, hjv⟩ := Tables.exists_issued hv hmv
  exact h i hi j hj (by rw [hiw.place?_eq, hjv.place?_eq, he])

namespace Run

/-- **COMMITS OF DISJOINT TRANSACTIONS COMMUTE.**  After any calls, let two
transactions be open whose accepted writes are about different rows.  Each
gets the same answer to its commit whether it commits first or second, and
every table is the same in the end, whatever becomes of the two. -/
theorem disjoint_commits_commute [Pattern.Engine] [Sorter] (calls : List Call) {a b : String}
    (hab : a ≠ b)
    (ha : (Assoc.find? (of calls).session.bare a).isSome = true)
    (hb : (Assoc.find? (of calls).session.bare b).isSome = true)
    (hdisjoint : ∀ i ∈ issued a (of calls).past, ∀ j ∈ issued b (of calls).past,
      i.place? ≠ j.place?) :
    ((of calls).session.commit a).1 = (((of calls).session.commit b).2.commit a).1
      ∧ (((of calls).session.commit a).2.commit b).1 = ((of calls).session.commit b).1
      ∧ ∀ table, (((of calls).session.commit a).2.commit b).2.store.tables.get table
          = (((of calls).session.commit b).2.commit a).2.store.tables.get table := by
  obtain ⟨d, hopenA⟩ := Option.isSome_iff_exists.mp ha
  obtain ⟨e, hopenB⟩ := Option.isSome_iff_exists.mp hb
  have hsound := sound_of calls
  have hd : Apart d.writes e.writes :=
    apart_of_issued (hsound.tracks a d hopenA) (hsound.tracks b e hopenB) hdisjoint
  -- the second commit of each order finds its transaction open
  rw [Session.commit_eq (Session.find?_bare_commit hopenA hab hopenB),
    Session.commit_eq (Session.find?_bare_commit hopenB hab.symm hopenA),
    Session.commit_eq hopenA, Session.commit_eq hopenB]
  obtain ⟨hanswerA, hcontents⟩ := (of calls).session.store.commits_commute hd
  obtain ⟨hanswerB, -⟩ := (of calls).session.store.commits_commute hd.symm
  refine ⟨congrArg (Except.mapError SessionError.store) hanswerA.symm,
    congrArg (Except.mapError SessionError.store) hanswerB, fun table => ?_⟩
  refine Tables.get_eq_of_contents_eq ?_ ?_ hcontents table
  · exact RelationalStore.ascending_commit (RelationalStore.ascending_commit hsound.ascending d) e
  · exact RelationalStore.ascending_commit (RelationalStore.ascending_commit hsound.ascending e) d

/-- Two transactions on one table, of which the second has a key taken by a
seed that was free when it asked for it. -/
def twoWriters : List Call :=
  [.seed "t" "id" ⟨[("id", .integer 1)]⟩, .begin "a", .begin "b",
    .write "a" "t" "id" (.update 1 ⟨[("x", .integer 7)]⟩),
    .write "b" "t" "id" (.insert ⟨[("id", .integer 2)]⟩),
    .write "b" "t" "id" (.insert ⟨[("id", .integer 3)]⟩),
    .write "a" "t" "id" (.insert ⟨[("id", .integer 4)]⟩),
    .seed "t" "id" ⟨[("id", .integer 3)]⟩]

open DataAccess.Sample in
/-- In either order the first of them commits and the second is refused. -/
theorem twoWriters_commute :
    (((of twoWriters).session.commit "b").2.commit "a").1 = .ok ()
      ∧ (((of twoWriters).session.commit "a").2.commit "b").1
        = .error (.store (.constraint "duplicate key id=3 in `t`"))
      ∧ ∀ table, (((of twoWriters).session.commit "a").2.commit "b").2.store.tables.get table
          = (((of twoWriters).session.commit "b").2.commit "a").2.store.tables.get table := by
  obtain ⟨ha, hb, htables⟩ := disjoint_commits_commute twoWriters (a := "a") (b := "b")
    (by decide) (by decide) (by decide) (by decide)
  exact ⟨ha.symm.trans (by decide), hb.trans (by decide), htables⟩

end Run

end DataAccess
