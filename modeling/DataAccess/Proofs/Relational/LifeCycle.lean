/-
  DataAccess.Proofs.Relational.LifeCycle — every transaction ends once.

  Where a transaction stands is kept in two places: by the transaction, and
  by the store, which notes how each one ended.  Whatever is asked of a
  transaction, in whatever order, and whatever others do to its store in the
  meantime, the two stay in step.  The first commit or rollback decides where
  it stands for good; and when it is dropped at last, the store has noted one
  end of it in all, the one that it stands for.

  So no transaction is lost and none is counted twice.  Over any calls on any
  number of transactions of both kinds, those that were begun are those that
  are still open and those whose ends were noted:

      begun history = s.open + s.store.outcomes.length

  Main statements:
    * `state_call`, `outcomes_call` — what one call does to both places;
    * `sound_of`                    — so it is with a whole life;
    * `balanced_step`               — what one call of a session does to the
                                      number of open transactions and of ends;
    * `transactions_end_once`       — both, after any calls.
-/
import DataAccess.Proofs.Relational.Run
import DataAccess.Sample.Engines

namespace DataAccess

/-! ## §1. One call on a transaction. -/

/-- A call on a transaction that knows where it stands. -/
inductive TransactionCall where
  | apply (table key : String) (w : Write)
  | commit
  | rollback

/-- How a transaction has ended that is dropped where it stands. -/
def TransactionState.outcome : TransactionState → Outcome
  | active => .dropped
  | committed => .committed
  | rolledBack => .rolledBack

namespace TransactionCall

/-- The call asks for an end. -/
def isEnding : TransactionCall → Bool
  | apply _ _ _ => false
  | commit => true
  | rollback => true

/-- Where a call that asks for an end leads to: a commit that succeeded has
committed, and everything else has rolled back, even if it failed. -/
def ending : TransactionCall → Except RelationalError Unit → TransactionState
  | commit, .ok () => .committed
  | _, _ => .rolledBack

/-- A call that asks for an end does not leave a transaction active. -/
theorem ending_ne_active (c : TransactionCall) (answer : Except RelationalError Unit) :
    c.ending answer ≠ .active := by
  unfold ending
  split <;> simp

/-- What a call answers once the transaction has ended. -/
def refusal (c : TransactionCall) (state : TransactionState) : Except RelationalError Unit :=
  match c with
  | rollback => .ok ()
  | _ => .error (.closed state)

end TransactionCall

namespace Transaction

variable (t : Transaction) (s : RelationalStore) (c : TransactionCall)

/-- Makes one call: its answer, and what it leaves behind. -/
def call : TransactionCall → Except RelationalError Unit × Transaction × RelationalStore
  | .apply table key w =>
      match t.apply s table key w with
      | .ok t => (.ok (), t, s)
      | .error e => (.error e, t, s)
  | .commit => t.commit s
  | .rollback => t.rollback s

/-- The number of transactions that it takes to be open: one as long as it is active. -/
def openness : Nat := if t.state = .active then 1 else 0

variable {t s}

theorem state_begin (h : Transaction.begin s = .ok t) : t.state = .active := by
  rw [eq_of_begin h]
  rfl

variable (s)

/-- **Every call keeps connection and state in step.** -/
theorem Sound.call (h : t.Sound) : (t.call s c).2.1.Sound := by
  cases c with
  | apply table key w =>
    simp only [Transaction.call]
    cases ha : t.apply s table key w with
    | error e => exact h
    | ok u => exact h.apply ha
  | commit => exact h.commit s
  | rollback => exact h.rollback s

/-- **A transaction that has ended** refuses writes and commits, lets itself
be rolled back, and leaves the store alone. -/
theorem call_of_ended (ht : t.Sound) (h : t.state ≠ .active) :
    t.call s c = (c.refusal t.state, t, s) := by
  rcases ht.cases with ⟨ws, rfl⟩ | ⟨state, -, rfl⟩
  · exact absurd rfl h
  · cases c <;> rfl

/-- A write that is refused changes nothing. -/
theorem call_of_refused {table key : String} {w : Write} {e : RelationalError}
    (h : (t.call s (.apply table key w)).1 = .error e) :
    (t.call s (.apply table key w)).2 = (t, s) := by
  simp only [call] at h ⊢
  cases ha : t.apply s table key w with
  | ok t' => simp [ha] at h
  | error e' => rfl

/-- What a call on a connection does: a write leaves the transaction active, and
an end is noted and leads to where the transaction stands then. -/
theorem call_on (ws : List StagedWrite) :
    (c.isEnding = false ∧ ((on ⟨ws, false⟩).call s c).2.1.state = .active
        ∧ ((on ⟨ws, false⟩).call s c).2.2 = s)
      ∨ c.isEnding = true
        ∧ ((on ⟨ws, false⟩).call s c).2.1.state = c.ending ((on ⟨ws, false⟩).call s c).1
        ∧ ((on ⟨ws, false⟩).call s c).2.2.outcomes
          = s.outcomes ++ [((on ⟨ws, false⟩).call s c).2.1.state.outcome] := by
  cases c with
  | apply table key w =>
    -- accepted or not, the transaction stays active
    refine .inl ⟨rfl, ?_⟩
    simp only [call, apply_on]
    cases s.write ws table key w <;> exact ⟨rfl, rfl⟩
  | commit =>
    refine .inr ⟨rfl, ?_⟩
    simp only [call]
    cases hr : s.replay ws with
    | error e =>
      rw [commit_on_of_refusal hr]
      exact ⟨rfl, rfl⟩
    | ok t =>
      rw [commit_on_of_replay hr]
      obtain ⟨-, ts, -, rfl⟩ := RelationalStore.replay_ok_iff.mp hr
      exact ⟨rfl, rfl⟩
  | rollback => exact .inr ⟨rfl, rfl, rfl⟩

/-- **Where a call leaves a transaction**: only one that is active moves, and
only by a call that asks for an end. -/
theorem state_call (ht : t.Sound) :
    (t.call s c).2.1.state
      = if t.state = .active ∧ c.isEnding = true then c.ending (t.call s c).1 else t.state := by
  rcases ht.cases with ⟨ws, rfl⟩ | ⟨state, hended, rfl⟩
  · rcases call_on s c ws with ⟨hgoes, hstate, -⟩ | ⟨hends, hstate, -⟩
    · rw [hstate, if_neg fun h => by simp [hgoes] at h]
      rfl
    · rw [hstate, if_pos ⟨rfl, hends⟩]
  · rw [call_of_ended s c ht hended, if_neg fun h => hended h.1]

/-- **What a call makes the store note**: nothing, unless it ends the
transaction, and then the end that it has led to. -/
theorem outcomes_call (ht : t.Sound) :
    (t.call s c).2.2.outcomes
      = s.outcomes ++ if t.state = .active ∧ c.isEnding = true
          then [(t.call s c).2.1.state.outcome] else [] := by
  rcases ht.cases with ⟨ws, rfl⟩ | ⟨state, hended, rfl⟩
  · rcases call_on s c ws with ⟨hgoes, -, hstore⟩ | ⟨hends, -, hout⟩
    · rw [hstore, if_neg fun h => by simp [hgoes] at h, List.append_nil]
    · rw [hout, if_pos ⟨rfl, hends⟩]
  · rw [call_of_ended s c ht hended, if_neg fun h => hended h.1, List.append_nil]

/-- What dropping a transaction makes the store note. -/
theorem outcomes_drop (ht : t.Sound) :
    (t.drop s).2.outcomes = s.outcomes ++ if t.state = .active then [.dropped] else [] := by
  rcases ht.cases with ⟨ws, rfl⟩ | ⟨state, hended, rfl⟩
  · rfl
  · rw [if_neg hended, List.append_nil]
    rfl

/-- **Conservation**: whatever a call takes from the open transactions is
noted, and nothing else is. -/
theorem openness_call (ht : t.Sound) :
    (t.call s c).2.1.openness + (t.call s c).2.2.outcomes.length
      = t.openness + s.outcomes.length := by
  have hstate := state_call s c ht
  have hout := congrArg List.length (outcomes_call s c ht)
  unfold openness
  by_cases h : t.state = .active ∧ c.isEnding = true
  · -- one transaction less is open, and one more end is noted
    have hne : ¬ (t.call s c).2.1.state = .active := by
      rw [hstate, if_pos h]
      exact c.ending_ne_active _
    rw [if_pos h] at hout
    rw [if_neg hne, if_pos h.1, hout]
    simp
    omega
  · rw [if_neg h] at hstate hout
    rw [hstate, hout]
    simp

/-- So it is with a transaction that is dropped, which is open no more. -/
theorem openness_drop (ht : t.Sound) :
    (t.drop s).2.outcomes.length = t.openness + s.outcomes.length := by
  rw [outcomes_drop s ht]
  unfold openness
  split <;> simp
  omega

end Transaction

/-! ## §2. The life of a transaction. -/

/-- Something that happens while a transaction lives. -/
inductive Moment where
  /-- It is asked for something. -/
  | call (c : TransactionCall)
  /-- Others leave its store like this, with other faults, other rows and the
  ends of other transactions. -/
  | meanwhile (s : RelationalStore)

/-- A transaction with its store and its past. -/
structure Life where
  transaction : Transaction
  store : RelationalStore
  /-- The calls on it with their answers, in order. -/
  history : List (TransactionCall × Except RelationalError Unit)
  /-- The ends that the store noted during these calls, in order. -/
  noted : List Outcome

/-- Where a transaction stands after some calls: the first one that asks for an
end decides. -/
def standing (history : List (TransactionCall × Except RelationalError Unit)) : TransactionState :=
  match history.find? fun e => e.1.isEnding with
  | none => .active
  | some e => e.1.ending e.2

/-- The ends that a store has noted since it was like another one. -/
def RelationalStore.notedSince (s before : RelationalStore) : List Outcome :=
  s.outcomes.drop before.outcomes.length

namespace Life

/-- Lets a moment pass. -/
def pass (l : Life) : Moment → Life
  | .meanwhile s => { l with store := s }
  | .call c =>
      let (answer, t, s) := l.transaction.call l.store c
      ⟨t, s, l.history ++ [(c, answer)], l.noted ++ s.notedSince l.store⟩

/-- The life of a transaction through some moments. -/
def of (t : Transaction) (s : RelationalStore) (moments : List Moment) : Life :=
  moments.foldl pass ⟨t, s, [], []⟩

/-- The ends that the store noted over a whole life, if the transaction is
dropped now. -/
def notedByDrop (l : Life) : List Outcome :=
  l.noted ++ (l.transaction.drop l.store).2.notedSince l.store

/-- The invariant of a life: connection and state are in step, the first ending
call has decided where the transaction stands, and that end has been noted once
it has ended. -/
structure Sound (l : Life) : Prop where
  transaction : l.transaction.Sound
  state : l.transaction.state = standing l.history
  noted : l.noted = if l.transaction.state = .active then [] else [l.transaction.state.outcome]

/-- What a life has to be like at every moment. -/
structure Orderly (l : Life) : Prop where
  /-- The transaction is active as long as it has its connection. -/
  connected : l.transaction.state = .active ↔ l.transaction.conn.isSome = true
  /-- The transaction is active until the first commit or rollback, which
  decides where it stands from then on. -/
  state : l.transaction.state = standing l.history
  /-- Over its whole life one end is noted, that of the state in which it is dropped. -/
  noted : l.notedByDrop = [l.transaction.state.outcome]
  /-- No call takes back what the store has noted. -/
  kept : ∀ s c, s.outcomes <+: (l.transaction.call s c).2.2.outcomes
  /-- A write that is refused leaves the transaction and the store as they were. -/
  refused : ∀ s table key w e, (l.transaction.call s (.apply table key w)).1 = .error e →
    (l.transaction.call s (.apply table key w)).2 = (l.transaction, s)
  /-- After its end it refuses writes and commits, lets itself be rolled back,
  and leaves the store alone. -/
  ended : l.transaction.state ≠ .active →
    ∀ s c, l.transaction.call s c = (c.refusal l.transaction.state, l.transaction, s)

end Life

/-- A further call decides only if none before it asked for an end. -/
theorem standing_concat (history : List (TransactionCall × Except RelationalError Unit))
    (c : TransactionCall) (answer : Except RelationalError Unit) :
    standing (history ++ [(c, answer)])
      = if standing history = .active ∧ c.isEnding = true then c.ending answer
        else standing history := by
  unfold standing
  rw [List.find?_append]
  cases history.find? fun e => e.1.isEnding with
  | none =>
    by_cases h : c.isEnding = true
    · simp [h]
    · simp [h]
  | some e =>
    -- whatever it was, an ending call has not left the transaction active
    simp [e.1.ending_ne_active e.2]

namespace Life

theorem sound_start {s : RelationalStore} {t : Transaction} (h : Transaction.begin s = .ok t) :
    Sound ⟨t, s, [], []⟩ where
  transaction := Transaction.sound_begin h
  state := Transaction.state_begin h
  noted := (if_pos (Transaction.state_begin h)).symm

/-- **One moment** keeps transaction and store in step. -/
theorem Sound.pass {l : Life} (h : l.Sound) (m : Moment) : (l.pass m).Sound := by
  cases m with
  | meanwhile s => exact ⟨h.transaction, h.state, h.noted⟩
  | call c =>
    have hstate := Transaction.state_call l.store c h.transaction
    have hnew : (l.transaction.call l.store c).2.2.notedSince l.store
        = if l.transaction.state = .active ∧ c.isEnding = true
            then [(l.transaction.call l.store c).2.1.state.outcome] else [] := by
      unfold RelationalStore.notedSince
      rw [Transaction.outcomes_call l.store c h.transaction, List.drop_left]
    have hpass : l.pass (.call c)
        = ⟨(l.transaction.call l.store c).2.1, (l.transaction.call l.store c).2.2,
            l.history ++ [(c, (l.transaction.call l.store c).1)],
            l.noted ++ (l.transaction.call l.store c).2.2.notedSince l.store⟩ := rfl
    rw [hpass]
    refine ⟨h.transaction.call l.store c, ?_, ?_⟩
    · show (l.transaction.call l.store c).2.1.state = _
      rw [hstate, standing_concat, ← h.state]
    · show l.noted ++ (l.transaction.call l.store c).2.2.notedSince l.store
        = if (l.transaction.call l.store c).2.1.state = .active then []
          else [(l.transaction.call l.store c).2.1.state.outcome]
      rw [hnew, h.noted]
      by_cases hend : l.transaction.state = .active ∧ c.isEnding = true
      · -- the transaction ends here, so that nothing was noted before
        have hne : ¬ (l.transaction.call l.store c).2.1.state = .active := by
          rw [hstate, if_pos hend]
          exact c.ending_ne_active _
        rw [if_pos hend.1, if_pos hend, if_neg hne]
        rfl
      · rw [hstate, if_neg hend, if_neg hend, List.append_nil]

theorem sound_of {s : RelationalStore} {t : Transaction} (h : Transaction.begin s = .ok t)
    (moments : List Moment) : (of t s moments).Sound :=
  List.foldlRecOn moments pass (sound_start h) fun _ hl m _ => hl.pass m

/-- What is noted when a transaction is dropped completes what was noted before. -/
theorem Sound.notedByDrop {l : Life} (h : l.Sound) :
    l.notedByDrop = [l.transaction.state.outcome] := by
  unfold Life.notedByDrop RelationalStore.notedSince
  rw [Transaction.outcomes_drop l.store h.transaction, List.drop_left, h.noted]
  by_cases hactive : l.transaction.state = .active
  · rw [if_pos hactive, if_pos hactive, hactive]
    rfl
  · rw [if_neg hactive, if_neg hactive]
    rfl

theorem Sound.orderly {l : Life} (h : l.Sound) : l.Orderly where
  connected := h.transaction.active_iff
  state := h.state
  noted := h.notedByDrop
  kept := fun s c => ⟨_, (Transaction.outcomes_call s c h.transaction).symm⟩
  refused := fun s _ _ _ _ hrefused => Transaction.call_of_refused s hrefused
  ended := fun hended s c => Transaction.call_of_ended s c h.transaction hended

end Life

/-! ## §3. The transactions of a session. -/

/-- A call of a session, on transactions of either kind. -/
inductive SessionCall where
  /-- On the store, or on a bare transaction. -/
  | bare (c : Call)
  | beginGuarded (name : String)
  | writeGuarded (name table key : String) (w : Write)
  | commitGuarded (name : String)
  | rollbackGuarded (name : String)
  | dropGuarded (name : String)

namespace Assoc

variable {κ α : Type}

/-- The sum of what the values of a list weigh. -/
def weigh (weight : α → Nat) : Assoc κ α → Nat
  | [] => 0
  | (_, a) :: m => weight a + weigh weight m

variable [DecidableEq κ] (weight : α → Nat) {m : Assoc κ α} {k : κ} {a b : α}

/-- The value of a new key weighs in. -/
theorem weigh_insert_of_none (h : find? m k = none) :
    weigh weight (insert m k a) = weigh weight m + weight a := by
  induction m with
  | nil => exact Nat.add_comm _ _
  | cons p m ih =>
    obtain ⟨k', a'⟩ := p
    rw [find?_cons] at h
    unfold insert
    by_cases hk : k' = k
    · rw [if_pos hk] at h
      cases h
    · rw [if_neg hk] at h ⊢
      specialize ih h
      show weight a' + weigh weight (insert m k a) = weight a' + weigh weight m + weight a
      omega

/-- A value weighs in for the one that it replaces. -/
theorem weigh_insert_of_some (h : find? m k = some b) :
    weigh weight (insert m k a) + weight b = weigh weight m + weight a := by
  induction m with
  | nil => cases h
  | cons p m ih =>
    obtain ⟨k', a'⟩ := p
    rw [find?_cons] at h
    unfold insert
    by_cases hk : k' = k
    · rw [if_pos hk] at h ⊢
      cases h
      show weight a + weigh weight m + weight a' = weight a' + weigh weight m + weight a
      omega
    · rw [if_neg hk] at h ⊢
      specialize ih h
      show weight a' + weigh weight (insert m k a) + weight b
        = weight a' + weigh weight m + weight a
      omega

/-- A value that is removed weighs no more. -/
theorem weigh_erase (hnodup : (keys m).Nodup) (h : find? m k = some b) :
    weigh weight (erase m k) + weight b = weigh weight m := by
  induction m with
  | nil => cases h
  | cons p m ih =>
    obtain ⟨k', a'⟩ := p
    rw [keys_cons, List.nodup_cons] at hnodup
    rw [find?_cons] at h
    unfold erase
    by_cases hk : k' = k
    · -- there is no second value of the key further on
      rw [if_pos hk] at h ⊢
      cases h
      rw [erase_of_not_mem (hk ▸ hnodup.1)]
      show weigh weight m + weight a' = weight a' + weigh weight m
      omega
    · rw [if_neg hk] at h ⊢
      specialize ih hnodup.2 h
      show weight a' + weigh weight (erase m k) + weight b = weight a' + weigh weight m
      omega

end Assoc

namespace Session

/-- The session that a guarded transaction leaves behind; there has to be one. -/
def settleGuarded (s : Session) :
    Option (Except RelationalError Unit × TransactionState × Session) → Answer × Session
  | none => (.error .noHandle, s)
  | some (answer, _, t) => (answer.mapError .store, t)

/-- Makes one call on transactions of either kind. -/
def perform [Pattern.Engine] [Sorter] (s : Session) : SessionCall → Answer × Session
  | .bare c => s.step c
  | .beginGuarded name =>
      let (answer, _, t) := s.beginGuarded name
      (answer, t)
  | .writeGuarded name table key w => s.settleGuarded (s.writeGuarded name table key w)
  | .commitGuarded name => s.settleGuarded (s.commitGuarded name)
  | .rollbackGuarded name => s.settleGuarded (s.rollbackGuarded name)
  | .dropGuarded name =>
      match s.dropGuarded name with
      | none => (.error .noHandle, s)
      | some (_, t) => (.ok (), t)

/-- The number of transactions that have neither been committed nor rolled
back: all bare ones that there are, and the guarded ones that are active. -/
def opened (s : Session) : Nat :=
  s.bare.length + s.guarded.countP fun e => decide (e.2.state = .active)

/-- Open transactions by what each one adds to their number. -/
theorem opened_eq (s : Session) :
    s.opened = Assoc.weigh (fun _ => 1) s.bare + Assoc.weigh Transaction.openness s.guarded := by
  have hbare : ∀ m : Assoc String Connection, m.length = Assoc.weigh (fun _ => 1) m := by
    intro m
    induction m with
    | nil => rfl
    | cons e m ih =>
      rw [List.length_cons, ih]
      exact Nat.add_comm _ _
  have hguarded : ∀ m : Assoc String Transaction,
      (m.countP fun e => decide (e.2.state = .active)) = Assoc.weigh Transaction.openness m := by
    intro m
    induction m with
    | nil => rfl
    | cons e m ih =>
      rw [List.countP_cons, ih]
      show _ = e.2.openness + Assoc.weigh Transaction.openness m
      unfold Transaction.openness
      simp only [decide_eq_true_eq]
      omega
  unfold opened
  rw [hbare, hguarded]

end Session

/-- A call that began a transaction. -/
def SessionCall.began : SessionCall × Answer → Bool
  | (.bare (.begin _), .ok ()) => true
  | (.beginGuarded _, .ok ()) => true
  | _ => false

/-! ## §4. Begun, open and ended. -/

section Balance

variable [Pattern.Engine] [Sorter]

namespace Session

/-- A selection notes no end. -/
theorem outcomes_select (s : RelationalStore) (table : String) (columns : List Column) (q : Query) :
    (s.select table columns q).2.outcomes = s.outcomes := by
  unfold RelationalStore.select
  cases s.pass .read with
  | error e => rfl
  | ok u => cases Sql.translate q <;> rfl

omit [Pattern.Engine] [Sorter] in
/-- A commit notes one end. -/
theorem length_outcomes_commit (s : RelationalStore) (d : Connection) :
    (s.commit d).2.outcomes.length = s.outcomes.length + 1 := by
  cases hr : s.replay d.writes with
  | error e =>
    rw [RelationalStore.commit_of_refusal hr]
    exact List.length_append
  | ok t =>
    rw [RelationalStore.commit_of_replay hr]
    obtain ⟨-, ts, -, rfl⟩ := RelationalStore.replay_ok_iff.mp hr
    exact List.length_append

omit [Pattern.Engine] [Sorter] in
/-- A transaction that is given up before its end notes one. -/
theorem length_outcomes_drop (s : RelationalStore) {d : Connection} (h : d.finished = false) :
    (s.drop d).outcomes.length = s.outcomes.length + 1 := by
  rw [RelationalStore.drop_of_unfinished h]
  exact List.length_append

/-- No transaction is listed twice, and none that is listed has been noted as
ended while it is open. -/
structure Sound (s : Session) : Prop where
  bareKeys : (Assoc.keys s.bare).Nodup
  guardedKeys : (Assoc.keys s.guarded).Nodup
  bare : ∀ name d, Assoc.find? s.bare name = some d → d.finished = false
  guarded : ∀ name t, Assoc.find? s.guarded name = some t → t.Sound

section

omit [Pattern.Engine] [Sorter]

theorem sound_empty : Session.empty.Sound where
  bareKeys := List.nodup_nil
  guardedKeys := List.nodup_nil
  bare := fun _ _ h => by cases h
  guarded := fun _ _ h => by cases h

variable {s : Session} {name : String}

/-- A bare transaction that is put has not ended. -/
theorem Sound.insert_bare (h : s.Sound) (store : RelationalStore) {d : Connection}
    (hd : d.finished = false) :
    Sound { s with store, bare := Assoc.insert s.bare name d } where
  bareKeys := Assoc.nodup_keys_insert h.bareKeys name d
  guardedKeys := h.guardedKeys
  bare := by
    intro other e he
    replace he : Assoc.find? (Assoc.insert s.bare name d) other = some e := he
    rw [Assoc.find?_insert] at he
    split at he
    · exact Option.some.inj he ▸ hd
    · exact h.bare other e he
  guarded := h.guarded

theorem Sound.erase_bare (h : s.Sound) (store : RelationalStore) (name : String) :
    Sound { s with store, bare := Assoc.erase s.bare name } where
  bareKeys := Assoc.nodup_keys_erase h.bareKeys name
  guardedKeys := h.guardedKeys
  bare := by
    intro other e he
    replace he : Assoc.find? (Assoc.erase s.bare name) other = some e := he
    rw [Assoc.find?_erase] at he
    split at he
    · cases he
    · exact h.bare other e he
  guarded := h.guarded

/-- A guarded transaction that is put is sound. -/
theorem Sound.insert_guarded (h : s.Sound) (store : RelationalStore) {t : Transaction}
    (ht : t.Sound) : Sound { s with store, guarded := Assoc.insert s.guarded name t } where
  bareKeys := h.bareKeys
  guardedKeys := Assoc.nodup_keys_insert h.guardedKeys name t
  bare := h.bare
  guarded := by
    intro other u hu
    replace hu : Assoc.find? (Assoc.insert s.guarded name t) other = some u := hu
    rw [Assoc.find?_insert] at hu
    split at hu
    · exact Option.some.inj hu ▸ ht
    · exact h.guarded other u hu

theorem Sound.erase_guarded (h : s.Sound) (store : RelationalStore) (name : String) :
    Sound { s with store, guarded := Assoc.erase s.guarded name } where
  bareKeys := h.bareKeys
  guardedKeys := Assoc.nodup_keys_erase h.guardedKeys name
  bare := h.bare
  guarded := by
    intro other u hu
    replace hu : Assoc.find? (Assoc.erase s.guarded name) other = some u := hu
    rw [Assoc.find?_erase] at hu
    split at hu
    · cases hu
    · exact h.guarded other u hu

end

/-- A call has gone by: what it began, and what it took from the open
transactions, is accounted for. -/
structure Balanced (s : Session) (c : SessionCall) (out : Answer × Session) : Prop where
  sound : out.2.Sound
  count : out.2.opened + out.2.store.outcomes.length
    = s.opened + s.store.outcomes.length + if SessionCall.began (c, out.1) then 1 else 0

variable {s : Session}

omit [Pattern.Engine] [Sorter] in
/-- A call that leaves transactions and noted ends alone. -/
theorem balanced_of_same (h : s.Sound) {c : SessionCall} {answer : Answer} {t : Session}
    (hbare : t.bare = s.bare) (hguarded : t.guarded = s.guarded)
    (hout : t.store.outcomes = s.store.outcomes) (hbegan : SessionCall.began (c, answer) = false) :
    Balanced s c (answer, t) where
  sound := by
    obtain ⟨store, bare, guarded⟩ := t
    obtain rfl : bare = s.bare := hbare
    obtain rfl : guarded = s.guarded := hguarded
    exact ⟨h.bareKeys, h.guardedKeys, h.bare, h.guarded⟩
  count := by
    show t.opened + t.store.outcomes.length = _
    unfold opened
    rw [hbare, hguarded, hout, hbegan]
    rfl

omit [Pattern.Engine] [Sorter] in
/-- A bare transaction that ends is open no more, and its end is noted. -/
theorem balanced_finish (h : s.Sound) (name : String) {c : SessionCall}
    {finishing : Connection → Except RelationalError Unit × RelationalStore}
    (hout : ∀ d, d.finished = false →
      (finishing d).2.outcomes.length = s.store.outcomes.length + 1)
    (hbegan : ∀ answer, SessionCall.began (c, answer) = false) :
    Balanced s c (s.finish name finishing) := by
  unfold finish
  cases hopen : Assoc.find? s.bare name with
  | none => exact balanced_of_same h rfl rfl rfl (hbegan _)
  | some d =>
    refine ⟨h.erase_bare _ name, ?_⟩
    have hweigh := Assoc.weigh_erase (fun _ => 1) h.bareKeys hopen
    have hlen := hout d (h.bare name d hopen)
    simp only [opened_eq, hbegan, Bool.false_eq_true, if_false]
    omega

/-- A bare transaction that is begun is open; one that had its name before is
dropped. -/
theorem balanced_begin (h : s.Sound) (name : String) :
    Balanced s (.bare (.begin name)) (s.step (.begin name)) := by
  simp only [step, begin]
  cases hb : s.store.begin with
  | error e => exact balanced_of_same h rfl rfl rfl rfl
  | ok d =>
    obtain rfl := RelationalStore.eq_of_begin hb
    refine ⟨h.insert_bare _ rfl, ?_⟩
    simp only [settle, opened_eq, SessionCall.began, if_true]
    cases hold : Assoc.find? s.bare name with
    | none =>
      have hweigh := Assoc.weigh_insert_of_none (a := ⟨[], false⟩) (fun _ => 1) hold
      simp only
      omega
    | some old =>
      have hweigh := Assoc.weigh_insert_of_some (a := ⟨[], false⟩) (fun _ => 1) hold
      have hlen := length_outcomes_drop s.store (h.bare name old hold)
      simp only
      omega

/-- A bare transaction that is asked for a change stays open. -/
theorem balanced_write (h : s.Sound) (name table key : String) (w : Write) :
    Balanced s (.bare (.write name table key w)) (s.step (.write name table key w)) := by
  simp only [step, write]
  cases hopen : Assoc.find? s.bare name with
  | none => exact balanced_of_same h rfl rfl rfl rfl
  | some d =>
    simp only
    cases hw : d.write s.store table key w with
    | error e => exact balanced_of_same h rfl rfl rfl rfl
    | ok d' =>
      obtain ⟨ws, -, rfl⟩ := Connection.write_ok_iff.mp hw
      refine ⟨h.insert_bare _ (h.bare name d hopen), ?_⟩
      have hweigh := Assoc.weigh_insert_of_some (a := { d with writes := ws }) (fun _ => 1) hopen
      simp only [settle, opened_eq, SessionCall.began, Bool.false_eq_true, if_false]
      omega

/-- Calls on the store and on bare transactions. -/
theorem balanced_bare (h : s.Sound) (c : Call) : Balanced s (.bare c) (s.perform (.bare c)) := by
  -- only what begins or finishes a transaction moves a count
  cases c with
  | seed table key row =>
    refine balanced_of_same h rfl rfl ?_ rfl
    show (s.store.seed table key row).outcomes = _
    unfold RelationalStore.seed
    split <;> rfl
  | inject f => exact balanced_of_same h rfl rfl rfl rfl
  | clearFaults => exact balanced_of_same h rfl rfl rfl rfl
  | begin name => exact balanced_begin h name
  | write name table key w => exact balanced_write h name table key w
  | commit name =>
    show Balanced s _ (s.finish name s.store.commit)
    exact balanced_finish h name (fun d _ => length_outcomes_commit s.store d) fun _ => rfl
  | rollback name =>
    show Balanced s _ (s.finish name s.store.rollback)
    exact balanced_finish h name (fun _ _ => List.length_append) fun _ => rfl
  | drop name =>
    show Balanced s _ (s.finish name fun d => (.ok (), s.store.drop d))
    exact balanced_finish h name (fun _ hd => length_outcomes_drop s.store hd) fun _ => rfl
  | findByKey table id columns =>
    simp only [perform, step]
    cases s.store.findByKey table id columns <;> exact balanced_of_same h rfl rfl rfl rfl
  | select table columns q =>
    have hout := outcomes_select s.store table columns q
    simp only [perform, step]
    generalize s.store.select table columns q = out at hout ⊢
    obtain ⟨_ | _ | _, store⟩ := out
    · exact balanced_of_same h rfl rfl hout rfl
    · exact balanced_of_same h rfl rfl hout rfl
    · exact balanced_of_same h rfl rfl hout rfl

omit [Pattern.Engine] [Sorter] in
/-- A guarded transaction that is asked for something. -/
theorem balanced_ask (h : s.Sound) (name : String) (tc : TransactionCall) {c : SessionCall}
    (hbegan : ∀ answer, SessionCall.began (c, answer) = false) :
    Balanced s c (s.settleGuarded (s.ask name fun t => t.call s.store tc)) := by
  unfold ask
  cases ht : Assoc.find? s.guarded name with
  | none => exact balanced_of_same h rfl rfl rfl (hbegan _)
  | some t =>
    have ht' := h.guarded name t ht
    have hcall := Transaction.openness_call s.store tc ht'
    have hsound := ht'.call s.store tc
    rcases hc : t.call s.store tc with ⟨answer, t', store⟩
    rw [hc] at hcall hsound
    simp only [hc]
    refine ⟨h.insert_guarded _ hsound, ?_⟩
    have hweigh := Assoc.weigh_insert_of_some (a := t') Transaction.openness ht
    simp only [settleGuarded, opened_eq, hbegan, Bool.false_eq_true, if_false] at hcall ⊢
    omega

/-- A guarded transaction that is begun is open; one that had its name before
is dropped. -/
theorem balanced_beginGuarded (h : s.Sound) (name : String) :
    Balanced s (.beginGuarded name) (s.perform (.beginGuarded name)) := by
  simp only [perform, beginGuarded]
  cases hb : Transaction.begin s.store with
  | error e => exact balanced_of_same h rfl rfl rfl rfl
  | ok t =>
    have hopen : t.openness = 1 := if_pos (Transaction.state_begin hb)
    refine ⟨h.insert_guarded _ (Transaction.sound_begin hb), ?_⟩
    cases hold : Assoc.find? s.guarded name with
    | none =>
      have hweigh := Assoc.weigh_insert_of_none (a := t) Transaction.openness hold
      simp only [opened_eq, SessionCall.began, if_true]
      omega
    | some old =>
      have hweigh := Assoc.weigh_insert_of_some (a := t) Transaction.openness hold
      have hdrop := Transaction.openness_drop s.store (h.guarded name old hold)
      simp only [opened_eq, SessionCall.began, if_true]
      omega

/-- **One call of a session** accounts for what it begins and ends. -/
theorem balanced_step (h : s.Sound) (c : SessionCall) : Balanced s c (s.perform c) := by
  cases c with
  | bare c => exact balanced_bare h c
  | beginGuarded name => exact balanced_beginGuarded h name
  | writeGuarded name table key w => exact balanced_ask h name (.apply table key w) fun _ => rfl
  | commitGuarded name => exact balanced_ask h name .commit fun _ => rfl
  | rollbackGuarded name => exact balanced_ask h name .rollback fun _ => rfl
  | dropGuarded name =>
    simp only [perform, dropGuarded]
    cases ht : Assoc.find? s.guarded name with
    | none => exact balanced_of_same h rfl rfl rfl rfl
    | some t =>
      have hdrop := Transaction.openness_drop s.store (h.guarded name t ht)
      refine ⟨h.erase_guarded _ name, ?_⟩
      have hweigh := Assoc.weigh_erase Transaction.openness h.guardedKeys ht
      simp only [opened_eq, SessionCall.began, Bool.false_eq_true, if_false]
      omega

/-- A session after some calls on an empty store, with their answers in order. -/
def afterCalls (calls : List SessionCall) : Session × List (SessionCall × Answer) :=
  calls.foldl (fun r c => ((r.1.perform c).2, r.2 ++ [(c, (r.1.perform c).1)])) (.empty, [])

/-- The number of transactions that were begun. -/
def begun (history : List (SessionCall × Answer)) : Nat := history.countP SessionCall.began

/-- What was begun is open, or its end was noted. -/
theorem begun_eq (calls : List SessionCall) :
    begun (afterCalls calls).2
      = (afterCalls calls).1.opened + (afterCalls calls).1.store.outcomes.length := by
  -- the session so far varies along the calls; it stays sound
  suffices hfold : ∀ (cs : List SessionCall) (r : Session × List (SessionCall × Answer)),
      r.1.Sound → begun r.2 = r.1.opened + r.1.store.outcomes.length →
      let after := cs.foldl
        (fun r c => ((r.1.perform c).2, r.2 ++ [(c, (r.1.perform c).1)])) r
      begun after.2 = after.1.opened + after.1.store.outcomes.length from
    hfold calls (.empty, []) sound_empty rfl
  intro cs
  induction cs with
  | nil => intro r _ hcount; exact hcount
  | cons c cs ih =>
    intro r hsound hcount
    have hstep := balanced_step hsound c
    refine ih _ hstep.sound ?_
    show begun (r.2 ++ [(c, (r.1.perform c).1)]) = _
    unfold begun at hcount ⊢
    rw [List.countP_append, List.countP_singleton, hcount]
    exact hstep.count.symm

end Session

end Balance

/-! ## §5. Every transaction ends once. -/

/-- A row is added, then a fault is set on commits; the transaction is committed
all the same, once more, and rolled back. -/
def refusedCommit : List Moment :=
  [.call (.apply "users" "id" (.insert ⟨[("id", .integer 1)]⟩)),
    .meanwhile (RelationalStore.empty.inject .commit), .call .commit, .call .commit,
    .call .rollback]

/-- **EVERY TRANSACTION ENDS ONCE.**  Through any calls on a transaction, with
any changes of its store in between, the first commit or rollback decides
where it stands for good, and when it is dropped one end of it has been noted
in all, the one it stands for.  And over any calls of a session on any number
of transactions, those that were begun are those that are still open and those
whose ends were noted. -/
theorem transactions_end_once [Pattern.Engine] [Sorter] :
    (∀ s t, Transaction.begin s = .ok t → ∀ moments, (Life.of t s moments).Orderly)
      ∧ ∀ calls, Session.begun (Session.afterCalls calls).2
          = (Session.afterCalls calls).1.opened
            + (Session.afterCalls calls).1.store.outcomes.length := by
  constructor
  · intro s t hbegin moments
    exact (Life.sound_of hbegin moments).orderly
  · exact Session.begun_eq

open DataAccess.Sample in
/-- A commit that a fault makes fail ends its transaction for good, and what
is asked of it afterwards changes nothing. -/
theorem transactions_end_once_refused :
    Transaction.begin .empty = .ok (.on ⟨[], false⟩)
      ∧ (Life.of (.on ⟨[], false⟩) .empty refusedCommit).transaction.state = .rolledBack
      ∧ (Life.of (.on ⟨[], false⟩) .empty refusedCommit).notedByDrop = [.rolledBack] := by
  have hlife := transactions_end_once.1 .empty (.on ⟨[], false⟩) rfl refusedCommit
  have hstate : (Life.of (.on ⟨[], false⟩) .empty refusedCommit).transaction.state
      = .rolledBack := by
    rw [hlife.state]
    rfl
  have hnoted := hlife.noted
  rw [hstate] at hnoted
  exact ⟨rfl, hstate, hnoted⟩

end DataAccess
