/-
  DataAccess.Proofs.Relational.Locality — a write concerns one row.

  What a write does is settled by the row under its key, and no other row is
  touched.  Whether it applies is settled by even less: by there being such a
  row.  So writes can be followed key by key, and two replays go the same way
  if they start with rows under the same keys, whatever these rows hold and
  whatever else is stored.

  This matters because a transaction tries its writes on one state of the
  tables and replays them on another.

  Main statements:
    * `contents_replay_sameOutcome` — a replay on tables is one on contents,
                                      errors included;
    * `replay_of_not_target`        — rows that no write is about stay;
    * `replay_sameOutcome`          — related rows under the keys, the same
                                      way through a replay;
    * `attemptAll_related`          — so it is, key by key, if writes that do
                                      not apply are passed over;
    * `stage_sameOutcome`           — what a transaction tries its writes on.
-/
import DataAccess.Proofs.Relational.Contents

namespace DataAccess

/-! ## §1. Computations that come out the same way. -/

/-- Two computations come out the same way: both with results, which are
related, or both with one error. -/
inductive SameOutcome {ε α β : Type} (R : α → β → Prop) : Except ε α → Except ε β → Prop where
  | ok {a : α} {b : β} (h : R a b) : SameOutcome R (.ok a) (.ok b)
  | error (e : ε) : SameOutcome R (.error e) (.error e)

namespace SameOutcome

variable {ε α β : Type} {R : α → β → Prop} {x : Except ε α} {y : Except ε β}

/-- The two ways in which both can come out. -/
theorem inv (h : SameOutcome R x y) :
    (∃ a b, x = .ok a ∧ y = .ok b ∧ R a b) ∨ ∃ e, x = .error e ∧ y = .error e := by
  cases h with
  | ok h => exact .inl ⟨_, _, rfl, rfl, h⟩
  | error e => exact .inr ⟨e, rfl, rfl⟩

/-- Where one has a result, so has the other. -/
theorem of_ok {a : α} (h : SameOutcome R (.ok a) y) : ∃ b, y = .ok b ∧ R a b := by
  cases h with
  | ok h => exact ⟨_, rfl, h⟩

theorem of_ok_right {b : β} (h : SameOutcome R x (.ok b)) : ∃ a, x = .ok a ∧ R a b := by
  cases h with
  | ok h => exact ⟨_, rfl, h⟩

/-- Where one has an error, the other has it too. -/
theorem of_error {e : ε} (h : SameOutcome R (.error e) y) : y = .error e := by
  cases h with
  | error e => rfl

/-- Results apart, both come out as one. -/
theorem map_unit (h : SameOutcome R x y) : (x.map fun _ => ()) = y.map fun _ => () := by
  cases h with
  | ok h => rfl
  | error e => rfl

end SameOutcome

/-! ## §2. One write and its row. -/

/-- What a write makes of the row under its key. -/
def StagedWrite.onRow (w : StagedWrite) (r : Option Row) : Except RelationalError (Option Row) :=
  match w.change, r with
  | .insert row, none => .ok (some row)
  | .insert _, some _ =>
      .error (.constraint ("duplicate key " ++ w.key ++ "=" ++ toString w.id.toInt
        ++ " in `" ++ w.table ++ "`"))
  | .update row, some old => .ok (some (old.merge row w.key))
  | .delete, some _ => .ok none
  | _, none => .error .notFound

/-- The place that a write is about, if it says which. -/
def IssuedWrite.place? (i : IssuedWrite) : Option (String × Int64) :=
  match i.write with
  | .insert row => (row.integer i.key).toOption.map fun id => (i.table, id)
  | .update id _ => some (i.table, id)
  | .delete id => some (i.table, id)

/-- A staged write is about the place that was asked for. -/
theorem Tables.Stages.place?_eq {i : IssuedWrite} {w : StagedWrite} (h : Stages i w) :
    i.place? = some (w.table, w.id) := by
  obtain ⟨table, key, write⟩ := i
  cases write with
  | insert row =>
    show (row.integer key).toOption.map (fun id => (table, id)) = _
    obtain ⟨id, hid, rfl⟩ := Write.on_insert_ok_iff.mp h
    rw [hid]
    rfl
  | update id row =>
    obtain rfl : ⟨table, key, id, .update row⟩ = w := Except.ok.inj h
    rfl
  | delete id =>
    obtain rfl : ⟨table, key, id, .delete⟩ = w := Except.ok.inj h
    rfl

/-- Every staged write was asked for. -/
theorem Tables.exists_issued {is : List IssuedWrite} {ws : List StagedWrite}
    (h : List.Forall₂ Stages is ws) {w : StagedWrite} (hw : w ∈ ws) : ∃ i ∈ is, Stages i w := by
  induction h with
  | nil => cases hw
  | cons hiw _ ih =>
    rcases List.mem_cons.mp hw with rfl | hw
    · exact ⟨_, List.mem_cons_self, hiw⟩
    · obtain ⟨i, hi, hs⟩ := ih hw
      exact ⟨i, List.mem_cons_of_mem _ hi, hs⟩

/-- Writes cannot tell related rows apart, and leave related rows. -/
def Respected (R : Option Row → Option Row → Prop) : Prop :=
  ∀ (w : StagedWrite) {r r' : Option Row}, R r r' → SameOutcome R (w.onRow r) (w.onRow r')

/-- A write does the same to the same row. -/
theorem respected_eq : Respected fun r r' => r = r' := by
  intro w r r' h
  obtain rfl : r = r' := h
  cases w.onRow r with
  | ok s => exact .ok rfl
  | error e => exact .error e

/-- **Whether a write applies is settled by there being a row**, and so is
whether there is one afterwards. -/
theorem respected_isSome : Respected fun r r' => r.isSome = r'.isSome := by
  intro w r r' h
  obtain ⟨table, key, id, change⟩ := w
  cases r with
  | none =>
    obtain rfl : r' = none := by simpa using h.symm
    cases change with
    | insert row => exact .ok rfl
    | update row => exact .error _
    | delete => exact .error _
  | some old =>
    obtain ⟨old', rfl⟩ : ∃ old', r' = some old' := Option.isSome_iff_exists.mp h.symm
    cases change with
    | insert row => exact .error _
    | update row => exact .ok rfl
    | delete => exact .ok rfl

/-! ## §3. Writes on contents. -/

namespace Contents

theorem set_self (c : Contents) (table : String) (id : Int64) (r : Option Row) :
    c.set table id r table id = r := if_pos ⟨rfl, rfl⟩

theorem set_of_ne (c : Contents) {table name : String} {id other : Int64} (r : Option Row)
    (h : (table, id) ≠ (name, other)) : c.set table id r name other = c name other :=
  if_neg fun he => h (Prod.ext he.1 he.2)

/-- What is stored after a write. -/
def write (c : Contents) (w : StagedWrite) : Except RelationalError Contents :=
  (w.onRow (c w.table w.id)).map (c.set w.table w.id)

/-- Executes writes in order, up to the first that fails. -/
def replay (c : Contents) : List StagedWrite → Except RelationalError Contents
  | [] => .ok c
  | w :: ws =>
      match c.write w with
      | .ok c => c.replay ws
      | .error e => .error e

/-- Executes a write if it applies. -/
def attempt (c : Contents) (w : StagedWrite) : Contents :=
  match c.write w with
  | .ok c => c
  | .error _ => c

/-- Executes writes in order and passes over those that do not apply. -/
def attemptAll (c : Contents) (ws : List StagedWrite) : Contents := ws.foldl attempt c

/-- A write that applies has made something of its row. -/
theorem write_eq_ok {c c' : Contents} {w : StagedWrite} (h : c.write w = .ok c') :
    ∃ r, w.onRow (c w.table w.id) = .ok r ∧ c' = c.set w.table w.id r := by
  unfold write at h
  cases hr : w.onRow (c w.table w.id) with
  | error e => simp [hr] at h
  | ok r =>
    rw [hr] at h
    exact ⟨r, rfl, (Except.ok.inj h).symm⟩

/-- A replay goes on with the rest of the writes on what the first has left. -/
theorem replay_cons_eq_ok {c c' : Contents} {w : StagedWrite} {ws : List StagedWrite}
    (h : c.replay (w :: ws) = .ok c') : ∃ c₁, c.write w = .ok c₁ ∧ c₁.replay ws = .ok c' := by
  simp only [replay] at h
  cases hw : c.write w with
  | error e => simp [hw] at h
  | ok c₁ =>
    rw [hw] at h
    exact ⟨c₁, rfl, h⟩

/-- A replay goes on with its last write on what the others have left. -/
theorem replay_concat {c c' : Contents} {ws : List StagedWrite} (h : c.replay ws = .ok c')
    (w : StagedWrite) : c.replay (ws ++ [w]) = c'.write w := by
  induction ws generalizing c with
  | nil =>
    obtain rfl : c = c' := Except.ok.inj h
    show (match c.write w with | .ok c => .ok c | .error e => .error e) = c.write w
    cases c.write w <;> rfl
  | cons v ws ih =>
    obtain ⟨c₁, hv, hrest⟩ := replay_cons_eq_ok h
    simp only [List.cons_append, replay, hv]
    exact ih hrest

/-- What becomes of the row under the key of a write. -/
theorem attempt_self (c : Contents) (w : StagedWrite) :
    c.attempt w w.table w.id = match w.onRow (c w.table w.id) with
      | .ok r => r
      | .error _ => c w.table w.id := by
  unfold attempt write
  cases w.onRow (c w.table w.id) with
  | error e => rfl
  | ok r => exact set_self c w.table w.id r

/-- Other rows stay. -/
theorem attempt_of_ne (c : Contents) {w : StagedWrite} {table : String} {id : Int64}
    (h : (w.table, w.id) ≠ (table, id)) : c.attempt w table id = c table id := by
  unfold attempt
  cases hw : c.write w with
  | error e => rfl
  | ok c' =>
    obtain ⟨r, -, rfl⟩ := write_eq_ok hw
    exact set_of_ne c r h

/-- Nothing is passed over in a replay that succeeds. -/
theorem attemptAll_of_replay {c c' : Contents} {ws : List StagedWrite}
    (h : c.replay ws = .ok c') : c.attemptAll ws = c' := by
  induction ws generalizing c with
  | nil => exact Except.ok.inj h
  | cons w ws ih =>
    obtain ⟨c₁, hw, hrest⟩ := replay_cons_eq_ok h
    have hattempt : c.attempt w = c₁ := by rw [attempt, hw]
    show (c.attempt w).attemptAll ws = c'
    rw [hattempt]
    exact ih hrest

/-- **Rows that no write is about stay.** -/
theorem replay_of_not_target {c c' : Contents} {ws : List StagedWrite}
    (h : c.replay ws = .ok c') {table : String} {id : Int64}
    (hw : ∀ w ∈ ws, (w.table, w.id) ≠ (table, id)) : c' table id = c table id := by
  induction ws generalizing c with
  | nil => exact congrFun (congrFun (Except.ok.inj h).symm table) id
  | cons w ws ih =>
    obtain ⟨c₁, hc, hrest⟩ := replay_cons_eq_ok h
    obtain ⟨r, -, rfl⟩ := write_eq_ok hc
    rw [ih hrest fun v hv => hw v (List.mem_cons_of_mem _ hv)]
    exact set_of_ne c r (hw w List.mem_cons_self)

section Related

variable {R : Option Row → Option Row → Prop} (hR : Respected R) {c d : Contents}
include hR

/-- Rows that are related, wherever one looks, stay so by a write. -/
theorem write_sameOutcome {K : String → Int64 → Prop}
    (h : ∀ table id, K table id → R (c table id) (d table id)) {w : StagedWrite}
    (hw : K w.table w.id) :
    SameOutcome (fun c d => ∀ table id, K table id → R (c table id) (d table id))
      (c.write w) (d.write w) := by
  unfold write
  obtain ⟨r, r', hc, hd, hr⟩ | ⟨e, hc, hd⟩ := (hR w (h w.table w.id hw)).inv
  · rw [hc, hd]
    refine .ok fun table id hk => ?_
    by_cases he : (w.table, w.id) = (table, id)
    · obtain ⟨rfl, rfl⟩ := Prod.mk.inj he
      rw [set_self, set_self]
      exact hr
    · rw [set_of_ne c _ he, set_of_ne d _ he]
      exact h table id hk
  · rw [hc, hd]
    exact .error e

/-- **Related rows under the keys of the writes make a replay go the same
way**, and leave related rows. -/
theorem replay_sameOutcome {K : String → Int64 → Prop} {ws : List StagedWrite}
    (hK : ∀ w ∈ ws, K w.table w.id) (h : ∀ table id, K table id → R (c table id) (d table id)) :
    SameOutcome (fun c d => ∀ table id, K table id → R (c table id) (d table id))
      (c.replay ws) (d.replay ws) := by
  -- the related rows are those after the writes that were replayed already
  induction ws generalizing c d with
  | nil => exact .ok h
  | cons w ws ih =>
    simp only [replay]
    obtain ⟨c₁, d₁, hc, hd, h₁⟩ | ⟨e, hc, hd⟩ :=
      (write_sameOutcome hR h (hK w List.mem_cons_self)).inv
    · rw [hc, hd]
      exact ih (fun v hv => hK v (List.mem_cons_of_mem _ hv)) h₁
    · rw [hc, hd]
      exact .error e

/-- **If writes that do not apply are passed over, keys do not interfere**:
related rows under one key stay related, whatever is stored elsewhere. -/
theorem attemptAll_related {table : String} {id : Int64} (h : R (c table id) (d table id))
    (ws : List StagedWrite) : R (c.attemptAll ws table id) (d.attemptAll ws table id) := by
  induction ws generalizing c d with
  | nil => exact h
  | cons w ws ih =>
    refine ih (c := c.attempt w) (d := d.attempt w) ?_
    by_cases he : (w.table, w.id) = (table, id)
    · obtain ⟨rfl, rfl⟩ := Prod.mk.inj he
      rw [attempt_self, attempt_self]
      -- the write applies to both rows, or to neither and is passed over twice
      obtain ⟨r, r', hc, hd, hr⟩ | ⟨e, hc, hd⟩ := (hR w h).inv
      · rw [hc, hd]
        exact hr
      · rw [hc, hd]
        exact h
    · rw [attempt_of_ne c he, attempt_of_ne d he]
      exact h

end Related

end Contents

/-! ## §4. Writes on tables. -/

/-- A write on a table does to its row what it does to the row alone. -/
theorem Table.write_sameOutcome (t : Table) (w : StagedWrite) :
    SameOutcome (fun t' r => ∀ id, Assoc.find? t' id = if w.id = id then r else Assoc.find? t id)
      (t.write w) (w.onRow (Assoc.find? t w.id)) := by
  obtain ⟨table, key, id, change⟩ := w
  simp only [Table.write, StagedWrite.onRow]
  cases change with
  | insert row =>
    cases Assoc.find? t id with
    | none => exact .ok (find?_put t id · row)
    | some old => exact .error _
  | update row =>
    cases Assoc.find? t id with
    | none => exact .error _
    | some old => exact .ok (find?_put t id · (old.merge row key))
  | delete =>
    cases Assoc.find? t id with
    | none => exact .error _
    | some old => exact .ok (Assoc.find?_erase t id)

namespace Tables

/-- A write on tables is that write on their contents, errors included. -/
theorem contents_write_sameOutcome (ts : Tables) (w : StagedWrite) :
    SameOutcome (fun ts' c => ts'.contents = c) (ts.write w) (ts.contents.write w) := by
  unfold write Contents.write
  obtain ⟨t, r, ht, hr, h⟩ | ⟨e, ht, hr⟩ := ((ts.get w.table).write_sameOutcome w).inv
  · rw [ht, show w.onRow (ts.contents w.table w.id) = .ok r from hr]
    refine .ok ?_
    rw [contents_put]
    funext name id
    unfold Contents.set
    by_cases hn : w.table = name
    · obtain rfl := hn
      by_cases hi : w.id = id <;> simp [h, hi, contents]
    · simp [hn]
  · rw [ht, show w.onRow (ts.contents w.table w.id) = .error e from hr]
    exact .error e

/-- **A replay on tables is that replay on their contents**, errors included. -/
theorem contents_replay_sameOutcome (ts : Tables) (ws : List StagedWrite) :
    SameOutcome (fun ts' c => ts'.contents = c) (ts.replay ws) (ts.contents.replay ws) := by
  induction ws generalizing ts with
  | nil => exact .ok rfl
  | cons w ws ih =>
    simp only [replay, Contents.replay]
    obtain ⟨ts₁, c₁, ht, hc, rfl⟩ | ⟨e, ht, hc⟩ := (ts.contents_write_sameOutcome w).inv
    · rw [ht, hc]
      exact ih ts₁
    · rw [ht, hc]
      exact .error e

end Tables

namespace Table

/-- Executes a write on a table if it applies. -/
def attempt (t : Table) (w : StagedWrite) : Table :=
  match t.write w with
  | .ok t => t
  | .error _ => t

/-- A table that shows what is stored under its name does so after a write. -/
theorem find?_attempt {t : Table} {c : Contents} {w : StagedWrite}
    (h : ∀ id, Assoc.find? t id = c w.table id) (id : Int64) :
    Assoc.find? (t.attempt w) id = c.attempt w w.table id := by
  have hw := t.write_sameOutcome w
  rw [h w.id] at hw
  unfold attempt
  by_cases hi : w.id = id
  · obtain rfl := hi
    rw [Contents.attempt_self]
    obtain ⟨t', r, ht, hr, h'⟩ | ⟨e, ht, hr⟩ := hw.inv
    · rw [ht, hr]
      exact (h' w.id).trans (if_pos rfl)
    · rw [ht, hr]
      exact h w.id
  · rw [Contents.attempt_of_ne c fun he => hi (Prod.mk.inj he).2]
    obtain ⟨t', r, ht, -, h'⟩ | ⟨e, ht, -⟩ := hw.inv
    · rw [ht]
      exact ((h' id).trans (if_neg hi)).trans (h id)
    · rw [ht]
      exact h id

/-- Putting writes on top of a table executes those that apply; the writes on
other tables make no difference. -/
theorem find?_overlay {t : Table} {c : Contents} {name : String}
    (h : ∀ id, Assoc.find? t id = c name id) (ws : List StagedWrite) (id : Int64) :
    Assoc.find? (t.overlay name ws) id = c.attemptAll ws name id := by
  induction ws generalizing t c with
  | nil => exact h id
  | cons w ws ih =>
    by_cases hn : w.table = name
    · obtain rfl := hn
      have hstep := ih (find?_attempt h)
      unfold overlay at hstep ⊢
      rw [List.filter_cons_of_pos (by simp), List.foldl_cons]
      exact hstep
    · have hstay : ∀ other, Assoc.find? t other = c.attempt w name other := by
        intro other
        rw [Contents.attempt_of_ne c fun he => hn (Prod.mk.inj he).1, h]
      have hstep := ih hstay
      unfold overlay at hstep ⊢
      rw [List.filter_cons_of_neg (by simp [hn])]
      exact hstep

end Table

/-- **What a transaction tries a write on**: the committed rows after its
earlier writes, of which those that do not apply any more are passed over. -/
theorem RelationalStore.stage_sameOutcome {s : RelationalStore} (hf : Fault.write ∉ s.faults)
    (ws : List StagedWrite) (v : StagedWrite) :
    SameOutcome (fun vs _ => vs = ws ++ [v]) (s.stage ws v)
      (v.onRow (s.tables.contents.attemptAll ws v.table v.id)) := by
  have hw := ((s.tables.get v.table).overlay v.table ws).write_sameOutcome v
  rw [Table.find?_overlay (c := s.tables.contents) (fun _ => rfl) ws v.id] at hw
  unfold stage
  rw [pass_ok_iff.mpr hf]
  obtain ⟨t, r, ht, hr, -⟩ | ⟨e, ht, hr⟩ := hw.inv
  · rw [ht, hr]
    exact .ok rfl
  · rw [ht, hr]
    exact .error e

end DataAccess
