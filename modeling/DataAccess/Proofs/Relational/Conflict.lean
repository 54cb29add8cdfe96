/-
  DataAccess.Proofs.Relational.Conflict — a transaction is refused for a
  conflict only.

  A transaction tries each of its writes on the rows that are committed at
  that moment, passing over earlier writes of its own that do not apply there
  any more.  The commit replays all of them on other tables, later, and stops
  at the first that fails.  Both look at nothing but which keys have rows.  So
  a transaction can be refused at its commit only if a row that it wrote to
  has come or gone meanwhile, and otherwise its writes were answered as if
  they had been executed on the tables one by one.

  What a transaction asked for, and when, is read off the past of a run.

  Main statements:
    * `touches_step`      — what one call can do to an open transaction;
    * `stage_as_replayed` — a write is accepted if it applies where the earlier
                          ones can be replayed;
    * `Accounted.call`    — open transactions can be replayed wherever their
                          accepted writes find what they found;
    * `refused_only_for_conflict` — so they are committed there.
-/
import DataAccess.Proofs.Relational.CommitOrder
import DataAccess.Proofs.Relational.Locality
import DataAccess.Sample.Engines

namespace DataAccess

/-! ## §1. What a transaction asked for, and when. -/

/-- A write that was asked for, with the answer to it and what had happened
before. -/
structure Request where
  write : IssuedWrite
  answer : Answer
  before : List Event

/-- Everything that was asked for under a name since it was last begun, in
order. -/
def requests (name : String) : List Event → List Request
  | [] => []
  | ⟨.begin other, .ok ()⟩ :: past => if other = name then [] else requests name past
  | ⟨.write other table key w, answer⟩ :: past =>
      if other = name then requests name past ++ [⟨⟨table, key, w⟩, answer, past⟩]
      else requests name past
  | _ :: past => requests name past

/-- What was accepted is what was issued. -/
theorem mem_issued_of_mem_requests {name : String} {past : List Event} {q : Request}
    (hq : q ∈ requests name past) (hok : q.answer = .ok ()) : q.write ∈ issued name past := by
  -- both lists are read off the same events, and start anew at the same ones
  induction past with
  | nil => cases hq
  | cons e past ih =>
    obtain ⟨c, a⟩ := e
    cases c with
    | begin other =>
      cases a with
      | error e => exact ih hq
      | ok u =>
        simp only [requests, issued] at hq ⊢
        split at hq
        · cases hq
        · next hne =>
          rw [if_neg hne]
          exact ih hq
    | write other table key w =>
      simp only [requests] at hq
      split at hq
      · next he =>
        rcases List.mem_append.mp hq with hearlier | hnew
        · cases a with
          | error e => exact ih hearlier
          | ok u =>
            simp only [issued, if_pos he]
            exact List.mem_append_left _ (ih hearlier)
        · obtain rfl : q = ⟨⟨table, key, w⟩, a, past⟩ := List.mem_singleton.mp hnew
          obtain rfl : a = .ok () := hok
          simp only [issued, if_pos he]
          exact List.mem_append_right _ (List.mem_singleton.mpr rfl)
      · next hne =>
        cases a with
        | error e => exact ih hq
        | ok u =>
          simp only [issued, if_neg hne]
          exact ih hq
    | _ => exact ih hq

/-- The answer to a call that comes out so. -/
def answerOf {α : Type} (r : Except RelationalError α) : Answer :=
  (r.map fun _ => ()).mapError .store

theorem SameOutcome.answerOf_eq {α β : Type} {R : α → β → Prop} {x : Except RelationalError α}
    {y : Except RelationalError β} (h : SameOutcome R x y) : answerOf x = answerOf y :=
  congrArg (Except.mapError SessionError.store) h.map_unit

section

variable [Pattern.Engine] [Sorter]

namespace Run

/-- The run that has this past. -/
def upTo (past : List Event) : Run := of (past.reverse.map (·.call))

/-- What is committed. -/
def contents (r : Run) : Contents := r.session.store.tables.contents

/-- There is a row in a place now exactly if there was one whenever the
transaction asked for a write there. -/
def Steady (r : Run) (name : String) (place : String × Int64) : Prop :=
  ∀ q ∈ requests name r.past, q.write.place? = some place →
    ((upTo q.before).contents place.1 place.2).isSome = (r.contents place.1 place.2).isSome

instance (r : Run) (name : String) (place : String × Int64) : Decidable (r.Steady name place) :=
  inferInstanceAs (Decidable (∀ q ∈ requests name r.past, q.write.place? = some place →
    ((upTo q.before).contents place.1 place.2).isSome = (r.contents place.1 place.2).isSome))

theorem of_concat (calls : List Call) (c : Call) : of (calls ++ [c]) = (of calls).call c := by
  rw [of, List.foldl_append]
  rfl

/-- One call more is one event more. -/
theorem upTo_call {r : Run} (h : upTo r.past = r) (c : Call) :
    upTo (r.call c).past = r.call c := by
  show of ((⟨c, (r.session.step c).1⟩ :: r.past).reverse.map (·.call)) = r.call c
  rw [List.reverse_cons, List.map_append, List.map_singleton, of_concat]
  show (upTo r.past).call c = r.call c
  rw [h]

end Run

/-! ## §2. What one call can do to an open transaction. -/

namespace Session

/-- What a call does to the transaction that is open under a name afterwards,
on this connection. -/
inductive Touches (s : Session) (name : String) (d : Connection) : Call → Prop where
  /-- It has begun it. -/
  | begun (hok : (s.step (.begin name)).1 = .ok ()) (hnew : d = ⟨[], false⟩) :
      Touches s name d (.begin name)
  /-- It has asked it for a write, which is staged or refused. -/
  | asked {table key : String} {w : Write} {d₀ : Connection}
      (hopen : Assoc.find? s.bare name = some d₀)
      (hanswer : (s.step (.write name table key w)).1
        = answerOf (s.store.write d₀.writes table key w))
      (hstaged : d₀.write s.store table key w = .ok d
        ∨ (s.step (.write name table key w)).1 ≠ .ok () ∧ d = d₀) :
      Touches s name d (.write name table key w)
  /-- It has done neither. -/
  | left {c : Call} (hopen : Assoc.find? s.bare name = some d)
      (hrequests : ∀ past, requests name (⟨c, (s.step c).1⟩ :: past) = requests name past) :
      Touches s name d c

variable {s : Session} {name : String} {d : Connection}

omit [Pattern.Engine] [Sorter] in
/-- A call that ends a transaction leaves the others open. -/
theorem find?_bare_of_finish {other : String}
    {finishing : Connection → Except RelationalError Unit × RelationalStore}
    (h : Assoc.find? (s.finish other finishing).2.bare name = some d) :
    Assoc.find? s.bare name = some d := by
  unfold finish at h
  cases hother : Assoc.find? s.bare other with
  | none =>
    rw [hother] at h
    exact h
  | some e =>
    rw [hother] at h
    replace h : Assoc.find? (Assoc.erase s.bare other) name = some d := h
    rw [Assoc.find?_erase] at h
    split at h
    · cases h
    · exact h

theorem touches_begin {other : String}
    (h : Assoc.find? (s.step (.begin other)).2.bare name = some d) :
    s.Touches name d (.begin other) := by
  replace h : Assoc.find? (s.settle (s.begin other)).2.bare name = some d := h
  unfold begin at h
  cases hbegin : s.store.begin with
  | error e =>
    rw [hbegin] at h
    have hrefused : (s.step (.begin other)).1 = .error (.store e) := by
      simp [step, begin, hbegin, settle]
    refine .left h fun past => ?_
    rw [hrefused]
    rfl
  | ok e =>
    rw [hbegin] at h
    have hok : (s.step (.begin other)).1 = .ok () := by simp [step, begin, hbegin, settle]
    replace h : Assoc.find? (Assoc.insert s.bare other e) name = some d := h
    rw [Assoc.find?_insert] at h
    split at h
    · next hname =>
      have hnew : e = ⟨[], false⟩ := RelationalStore.eq_of_begin hbegin
      -- whatever the name stood for before is replaced
      obtain rfl := hname
      exact .begun hok ((Option.some.inj h).symm.trans hnew)
    · next hname =>
      refine .left h fun past => ?_
      rw [hok]
      exact if_neg hname

theorem touches_write {other table key : String} {w : Write}
    (h : Assoc.find? (s.step (.write other table key w)).2.bare name = some d) :
    s.Touches name d (.write other table key w) := by
  replace h : Assoc.find? (s.settle (s.write other table key w)).2.bare name = some d := h
  unfold write at h
  cases hother : Assoc.find? s.bare other with
  | none =>
    rw [hother] at h
    replace h : Assoc.find? s.bare name = some d := h
    have hname : other ≠ name := fun he => by rw [he, h] at hother; cases hother
    exact .left h fun past => if_neg hname
  | some d₀ =>
    rw [hother] at h
    have hanswer : (s.step (.write other table key w)).1
        = answerOf (s.store.write d₀.writes table key w) := by
      simp only [step, write, hother, Connection.write]
      cases s.store.write d₀.writes table key w <;> rfl
    dsimp only at h
    cases hwrite : d₀.write s.store table key w with
    | error e =>
      rw [hwrite] at h
      replace h : Assoc.find? s.bare name = some d := h
      by_cases hname : other = name
      · -- a write that is refused is not staged
        obtain rfl := hname
        have hrefused : (s.step (.write other table key w)).1 ≠ .ok () := by
          simp [step, write, hother, hwrite, settle]
        exact .asked hother hanswer (.inr ⟨hrefused, Option.some.inj (h.symm.trans hother)⟩)
      · exact .left h fun past => if_neg hname
    | ok e =>
      rw [hwrite] at h
      replace h : Assoc.find? (Assoc.insert s.bare other e) name = some d := h
      rw [Assoc.find?_insert] at h
      split at h
      · next hname =>
        obtain rfl := hname
        obtain rfl : e = d := Option.some.inj h
        exact .asked hother hanswer (.inl hwrite)
      · next hname => exact .left h fun past => if_neg hname

/-- **What one call can do to a transaction that is open afterwards**: it has
begun it, or asked it for a write, or done neither. -/
theorem touches_step {c : Call} (h : Assoc.find? (s.step c).2.bare name = some d) :
    s.Touches name d c := by
  cases c with
  | seed table key row => exact .left h fun _ => rfl
  | inject f => exact .left h fun _ => rfl
  | clearFaults => exact .left h fun _ => rfl
  | begin other => exact touches_begin h
  | write other table key w => exact touches_write h
  | commit other => exact .left (find?_bare_of_finish h) fun _ => rfl
  | rollback other => exact .left (find?_bare_of_finish h) fun _ => rfl
  | drop other => exact .left (find?_bare_of_finish h) fun _ => rfl
  | findByKey table id columns =>
    refine .left ?_ fun _ => rfl
    simp only [step] at h
    cases hfind : s.store.findByKey table id columns <;> rw [hfind] at h <;> exact h
  | select table columns q =>
    refine .left ?_ fun _ => rfl
    simp only [step] at h
    rcases hselect : s.store.select table columns q with ⟨_ | e | rows, store⟩ <;>
      rw [hselect] at h <;> exact h

end Session

/-! ## §3. Writes that find what they found. -/

namespace RelationalStore

omit [Pattern.Engine] [Sorter] in
/-- **A write is accepted exactly if it applies where the earlier ones can be
replayed**, as long as there is a row under its key at both places or at
none. -/
theorem stage_as_replayed {s : RelationalStore} (hf : Fault.write ∉ s.faults)
    {ws : List StagedWrite} {v : StagedWrite} {c c₀ : Contents} (hc : c.replay ws = .ok c₀)
    (hsame : (s.tables.contents v.table v.id).isSome = (c v.table v.id).isSome) :
    SameOutcome (fun vs _ => vs = ws ++ [v]) (s.stage ws v) (c₀.write v) := by
  -- the row under the key after the earlier writes is there in both cases or in none
  have hrow := Contents.attemptAll_related respected_isSome hsame ws
  rw [Contents.attemptAll_of_replay hc] at hrow
  have hv := respected_isSome v hrow
  obtain ⟨vs, r, hs, hr, hvs⟩ | ⟨e, hs, hr⟩ := (stage_sameOutcome hf ws v).inv
  · rw [hr] at hv
    unfold Contents.write
    rw [hs]
    obtain ⟨r', hr', -⟩ := hv.of_ok
    rw [hr']
    exact .ok hvs
  · rw [hr] at hv
    unfold Contents.write
    rw [hs, hv.of_error]
    exact .error e

omit [Pattern.Engine] [Sorter] in
/-- A write that is asked for is staged. -/
theorem write_of_stages {s : RelationalStore} {ws : List StagedWrite} {i : IssuedWrite}
    {v : StagedWrite} (h : Tables.Stages i v) :
    s.write ws i.table i.key i.write = s.stage ws v := by
  unfold write
  rw [show i.write.on i.table i.key = .ok v from h]

end RelationalStore

namespace Run

/-- A request was put to the transaction that is open under a name. -/
structure Put (r : Run) (name : String) (q : Request) : Prop where
  past : (upTo q.before).past = q.before
  earlier : ∀ q' ∈ requests name q.before, q' ∈ requests name r.past
  answer : ∃ d, Assoc.find? (upTo q.before).session.bare name = some d
    ∧ q.answer = answerOf
        ((upTo q.before).session.store.write d.writes q.write.table q.write.key q.write.write)

/-- What an open transaction holds can be replayed wherever each of its
accepted writes finds a row in its place exactly if it found one. -/
def Replays (r : Run) (name : String) (ws : List StagedWrite) : Prop :=
  ∀ c : Contents,
    (∀ q ∈ requests name r.past, q.answer = .ok () → ∀ place ∈ q.write.place?,
      ((upTo q.before).contents place.1 place.2).isSome = (c place.1 place.2).isSome) →
    ∃ c', c.replay ws = .ok c'

/-- The invariant: requests were put to the transactions that are open, and
what these hold can be replayed. -/
structure Accounted (r : Run) : Prop where
  upTo : upTo r.past = r
  put : ∀ {name d}, Assoc.find? r.session.bare name = some d →
    ∀ q ∈ requests name r.past, r.Put name q
  replays : ∀ {name d}, Assoc.find? r.session.bare name = some d → r.Replays name d.writes

theorem accounted_start : start.Accounted where
  upTo := rfl
  put := by
    intro name d h
    cases h
  replays := by
    intro name d h
    cases h

omit [Pattern.Engine] [Sorter] in
/-- A request that is put now has the past before it. -/
theorem requests_write (name table key : String) (w : Write) (answer : Answer)
    (past : List Event) :
    requests name (⟨.write name table key w, answer⟩ :: past)
      = requests name past ++ [⟨⟨table, key, w⟩, answer, past⟩] := by
  simp [requests]

omit [Pattern.Engine] [Sorter] in
theorem requests_begin (name : String) (past : List Event) :
    requests name (⟨.begin name, .ok ()⟩ :: past) = [] := by
  simp [requests]

/-- A request stays put to its transaction. -/
theorem Put.mono {r t : Run} {name : String} {q : Request} (h : r.Put name q)
    (hsub : ∀ q' ∈ requests name r.past, q' ∈ requests name t.past) : t.Put name q where
  past := h.past
  earlier := fun q' hq' => hsub q' (h.earlier q' hq')
  answer := h.answer

theorem Accounted.put_call {r : Run} (h : r.Accounted) (c : Call) {name : String}
    {d : Connection} (hd : Assoc.find? (r.call c).session.bare name = some d) :
    ∀ q ∈ requests name (r.call c).past, (r.call c).Put name q := by
  show ∀ q ∈ requests name (⟨c, (r.session.step c).1⟩ :: r.past), _
  cases Session.touches_step hd with
  | begun hok _ =>
    intro q hq
    rw [hok, requests_begin] at hq
    cases hq
  | @asked table key w d₀ hopen hanswer _ =>
    have hsub : ∀ q' ∈ requests name r.past,
        q' ∈ requests name (r.call (.write name table key w)).past := by
      intro q' hq'
      show q' ∈ requests name (⟨.write name table key w, _⟩ :: r.past)
      rw [requests_write]
      exact List.mem_append_left _ hq'
    intro q hq
    rw [requests_write] at hq
    rcases List.mem_append.mp hq with hq | hq
    · exact (h.put hopen q hq).mono hsub
    · -- the new request is put to what the run is now
      obtain rfl := List.mem_singleton.mp hq
      refine ⟨congrArg Run.past h.upTo, hsub, d₀, ?_, ?_⟩
      · rw [h.upTo, hopen]
      · rw [h.upTo]
        exact hanswer
  | left hopen hrequests =>
    intro q hq
    rw [hrequests] at hq
    refine (h.put hopen q hq).mono fun q' hq' => ?_
    show q' ∈ requests name (⟨c, _⟩ :: r.past)
    rwa [hrequests]

theorem Accounted.replays_call {r : Run} (h : r.Accounted) (c : Call) {name : String}
    {d : Connection} (hd : Assoc.find? (r.call c).session.bare name = some d) :
    (r.call c).Replays name d.writes := by
  intro m hm
  replace hm : ∀ q ∈ requests name (⟨c, (r.session.step c).1⟩ :: r.past), _ := hm
  cases Session.touches_step hd with
  | begun _ hnew => exact ⟨m, by rw [hnew]; rfl⟩
  | @asked table key w d₀ hopen hanswer hstaged =>
    rw [requests_write] at hm
    obtain ⟨m₀, hm₀⟩ := h.replays hopen m fun q hq => hm q (List.mem_append_left _ hq)
    rcases hstaged with hw | ⟨-, rfl⟩
    · -- an accepted write goes on where the earlier ones were replayed
      obtain ⟨ws, hws, rfl⟩ := Connection.write_ok_iff.mp hw
      obtain ⟨v, hv, hs⟩ := RelationalStore.exists_of_write_ok hws
      have hf := (RelationalStore.stage_ok_iff.mp hs).1
      have hok : (r.session.step (.write name table key w)).1 = .ok () := by
        rw [hanswer, hws]
        rfl
      have hrow := hm _ (List.mem_append_right _ (List.mem_singleton.mpr rfl)) hok
        (v.table, v.id) hv.place?_eq
      rw [h.upTo] at hrow
      have hout := RelationalStore.stage_as_replayed hf hm₀ hrow
      rw [hs] at hout
      obtain ⟨m', hm', rfl⟩ := hout.of_ok
      exact ⟨m', (Contents.replay_concat hm₀ v).trans hm'⟩
    · exact ⟨m₀, hm₀⟩
  | left hopen hrequests =>
    rw [hrequests] at hm
    exact h.replays hopen m hm

/-- **Every call keeps account of the open transactions.** -/
theorem Accounted.call {r : Run} (h : r.Accounted) (c : Call) : (r.call c).Accounted where
  upTo := upTo_call h.upTo c
  put := h.put_call c
  replays := h.replays_call c

theorem accounted_of (calls : List Call) : (of calls).Accounted :=
  induct accounted_start (fun _ c h => h.call c) calls

/-- So it is for the run that had some past. -/
theorem accounted_upTo (past : List Event) : (upTo past).Accounted := accounted_of _

theorem sound_upTo (past : List Event) : (upTo past).Sound := sound_of _

/-! ## §4. Refused for a conflict only. -/

/-- What can be replayed on what is committed is committed, no fault being
set. -/
theorem commit_of_replays {s : Session} {name : String} {d : Connection} {c : Contents}
    (hopen : Assoc.find? s.bare name = some d) (hf : Fault.commit ∉ s.store.faults)
    (hc : s.store.tables.contents.replay d.writes = .ok c) :
    (s.step (.commit name)).1 = .ok () := by
  have houtcome := s.store.tables.contents_replay_sameOutcome d.writes
  rw [hc] at houtcome
  obtain ⟨ts, ht, -⟩ := houtcome.of_ok_right
  have hreplay := RelationalStore.replay_ok_iff.mpr ⟨hf, ts, ht, rfl⟩
  show (s.commit name).1 = .ok ()
  unfold Session.commit Session.finish
  rw [hopen]
  show (s.store.commit d).1.mapError SessionError.store = .ok ()
  rw [RelationalStore.commit_of_replay hreplay]
  rfl

/-- **A TRANSACTION IS REFUSED FOR A CONFLICT ONLY.**  After any calls, let a
transaction be open.

If in each place that it has an accepted write for there is a row now exactly
if there was one whenever it asked for a write there, its commit succeeds,
unless the fault on commits is set.

If this is so for each place that it asked for, every write of its that could
be staged, no fault being set then, was answered as if its accepted writes so
far had been executed one by one on the tables: on those that are there now,
where all of them apply, and on those of that moment, where one that did not
apply any more changed nothing. -/
theorem refused_only_for_conflict (calls : List Call) {name : String}
    (hopen : (Assoc.find? (of calls).session.bare name).isSome = true) :
    ((∀ i ∈ issued name (of calls).past, ∀ place ∈ i.place?, (of calls).Steady name place) →
        Fault.commit ∉ (of calls).session.store.faults →
        ((of calls).session.step (.commit name)).1 = .ok ())
      ∧ ((∀ q ∈ requests name (of calls).past, ∀ place ∈ q.write.place?,
            (of calls).Steady name place) →
          ∀ q ∈ requests name (of calls).past,
            Fault.write ∉ (upTo q.before).session.store.faults →
            ∀ v, Tables.Stages q.write v →
            ∃ accepted ts, List.Forall₂ Tables.Stages (issued name q.before) accepted
              ∧ (of calls).session.store.tables.replay accepted = .ok ts
              ∧ q.answer = answerOf (ts.write v)
              ∧ q.answer = answerOf (((upTo q.before).contents.attemptAll accepted).write v)) := by
  obtain ⟨d, hd⟩ := Option.isSome_iff_exists.mp hopen
  have haccounted := accounted_of calls
  constructor
  · -- the accepted writes find what they found, so that they can be replayed
    intro hsteady hf
    obtain ⟨c, hc⟩ := haccounted.replays hd (of calls).contents fun q hq hok place hplace =>
      hsteady q.write (mem_issued_of_mem_requests hq hok) place hplace q hq hplace
    exact commit_of_replays hd hf hc
  · intro hsteady q hq hf v hv
    have hput := haccounted.put hd q hq
    obtain ⟨d', hopen', hanswer⟩ := hput.answer
    rw [RelationalStore.write_of_stages hv] at hanswer
    have hissued := (sound_upTo q.before).tracks name d' hopen'
    rw [hput.past] at hissued
    -- what was accepted before the request can be replayed now
    have hthen : ∀ q' ∈ requests name (upTo q.before).past, q'.answer = .ok () →
        ∀ place ∈ q'.write.place?,
        ((upTo q'.before).contents place.1 place.2).isSome
          = ((of calls).contents place.1 place.2).isSome := by
      intro q' hq' _ place hplace
      rw [hput.past] at hq'
      have hmem := hput.earlier q' hq'
      exact hsteady q' hmem place hplace q' hmem hplace
    obtain ⟨c₀, hc₀⟩ := (accounted_upTo q.before).replays hopen' (of calls).contents hthen
    replace hc₀ : (of calls).session.store.tables.contents.replay d'.writes = .ok c₀ := hc₀
    have hrow := hsteady q hq (v.table, v.id) hv.place?_eq q hq hv.place?_eq
    obtain ⟨ts, c₁, hts, hc₁, hcontents⟩ | ⟨e, -, he⟩ :=
      ((of calls).session.store.tables.contents_replay_sameOutcome d'.writes).inv
    · obtain rfl : c₀ = c₁ := Except.ok.inj (hc₀.symm.trans hc₁)
      refine ⟨d'.writes, ts, hissued, hts, ?_, ?_⟩
      -- first on the tables as they are now, then on those of that moment
      · rw [hanswer, (RelationalStore.stage_as_replayed hf hc₀ hrow).answerOf_eq, ← hcontents,
          (ts.contents_write_sameOutcome v).answerOf_eq]
      · rw [hanswer, (RelationalStore.stage_sameOutcome hf d'.writes v).answerOf_eq]
        unfold Contents.write
        show answerOf (v.onRow ((upTo q.before).contents.attemptAll d'.writes v.table v.id)) = _
        cases v.onRow ((upTo q.before).contents.attemptAll d'.writes v.table v.id) <;> rfl
    · rw [hc₀] at he
      cases he

end Run

end

namespace Run

/-- A transaction that updates a row, inserts one twice and deletes it, while
another commits a change to the first row and a seed replaces it. -/
def sharedRow : List Call :=
  [.seed "t" "id" ⟨[("id", .integer 1)]⟩, .begin "a", .begin "b",
    .write "a" "t" "id" (.update 1 ⟨[("x", .integer 7)]⟩),
    .write "a" "t" "id" (.insert ⟨[("id", .integer 2)]⟩),
    .write "b" "t" "id" (.update 1 ⟨[("y", .integer 8)]⟩), .commit "b",
    .write "a" "t" "id" (.insert ⟨[("id", .integer 2)]⟩), .write "a" "t" "id" (.delete 2),
    .seed "t" "id" ⟨[("id", .integer 1), ("z", .integer 9)]⟩]

open DataAccess.Sample in
/-- It commits, and its second insert was refused as it is on the tables. -/
theorem sharedRow_committed :
    ((of sharedRow).session.step (.commit "a")).1 = .ok ()
      ∧ (requests "a" (of sharedRow).past).map (fun q => q.answer.isOk) = [true, true, false, true]
      ∧ ∀ q ∈ requests "a" (of sharedRow).past,
          Fault.write ∉ (upTo q.before).session.store.faults →
          ∀ v, Tables.Stages q.write v →
          ∃ accepted ts, List.Forall₂ Tables.Stages (issued "a" q.before) accepted
            ∧ (of sharedRow).session.store.tables.replay accepted = .ok ts
            ∧ q.answer = answerOf (ts.write v)
            ∧ q.answer = answerOf (((upTo q.before).contents.attemptAll accepted).write v) := by
  have hopen : (Assoc.find? (of sharedRow).session.bare "a").isSome = true := by decide
  obtain ⟨hcommit, hanswers⟩ := refused_only_for_conflict sharedRow hopen
  exact ⟨hcommit (by decide) (by decide), by decide, hanswers (by decide)⟩

end Run

end DataAccess
