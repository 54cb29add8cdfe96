/-
  DataAccess.Proofs.Persistence.Refusal — a query is refused for what it says.

  An operation that is given a query looks at it before anything else: before a
  record is turned into a document, and before its store is asked.  A search for
  records looks at the projected fields as well, each of which has to be a
  column.  So whether an operation is refused, and for which fault, is settled
  by its query, whatever the stores hold and whatever fails there; the stores
  stay as they were, and nothing is told.  Whatever else goes wrong is the
  failure of a store, which is never called a refusal.

  Main statements:
    * `projected_error_iff`     — the first projected field that is no column;
    * `checked_perform`         — every operation goes by its query first;
    * `exists_refuses_iff`      — which operations are refused, said outright;
    * `refused_by_query_alone`  — all three, for every operation in any state.
-/
import DataAccess.Proofs.Persistence.LogDiscipline
import DataAccess.Proofs.Query.Grammar

namespace DataAccess

/-! ## §1. What an operation is refused for. -/

/-- A search asks for a field that is no column of its records, the first one
in its projection. -/
def RowType.Lacks {α : Type} (R : RowType α) (q : Query) (e : QueryError) : Prop :=
  ∃ before field after, q.projection = before ++ field :: after
    ∧ (∀ f ∈ before, f ∈ R.columns.map Column.name) ∧ field ∉ R.columns.map Column.name
    ∧ e = .unknownColumn R.table field

namespace Operation

variable {β : Type}

/-- What the query of an operation is refused for: a fault of its own, and in a
search otherwise a field that is no column.  Other operations have no query. -/
def Refuses : Operation β → QueryError → Prop
  | .search R q, e => q.validate = .error e ∨ q.validate = .ok () ∧ R.Lacks q e
  | .findDocument _ q, e => q.validate = .error e
  | .findDocuments _ q, e => q.validate = .error e
  | .updateDocument _ q _, e => q.validate = .error e
  | .deleteDocument _ q, e => q.validate = .error e
  | _, _ => False

/-- The query of an operation makes no sense for it. -/
def HasBadQuery : Operation β → Prop
  | .search R q => q.validate ≠ .ok () ∨ ∃ field ∈ q.projection, field ∉ R.columns.map Column.name
  | .findDocument _ q => q.validate ≠ .ok ()
  | .findDocuments _ q => q.validate ≠ .ok ()
  | .updateDocument _ q _ => q.validate ≠ .ok ()
  | .deleteDocument _ q => q.validate ≠ .ok ()
  | _ => False

end Operation

/-- A query that does not pass has a fault. -/
theorem Query.exists_error_iff {q : Query} :
    (∃ e, q.validate = .error e) ↔ q.validate ≠ .ok () := by
  cases q.validate with
  | ok u => simp
  | error e => simp

/-- What a query is refused for is its fault. -/
theorem FindRequest.translate_error_iff {q : Query} {e : QueryError} :
    translate q = .error e ↔ q.validate = .error e := by
  unfold translate
  cases q.validate with
  | ok u => simp
  | error e' => simp

namespace RowType

variable {α : Type} {R : RowType α} {q : Query}

/-- The column of a name, which there has to be. -/
def column (R : RowType α) (field : String) : Except QueryError Column :=
  match R.columns.find? (·.name == field) with
  | some c => .ok c
  | none => .error (.unknownColumn R.table field)

theorem find?_column_isSome_iff (R : RowType α) (field : String) :
    (R.columns.find? (·.name == field)).isSome = true ↔ field ∈ R.columns.map Column.name := by
  rw [List.find?_isSome, List.mem_map]
  simp only [beq_iff_eq]

theorem column_ok_iff (R : RowType α) (field : String) :
    (∃ c, R.column field = .ok c) ↔ field ∈ R.columns.map Column.name := by
  rw [← find?_column_isSome_iff]
  unfold column
  cases R.columns.find? (·.name == field) with
  | some c => simp
  | none => simp

theorem column_error_iff (R : RowType α) (field : String) (e : QueryError) :
    R.column field = .error e
      ↔ field ∉ R.columns.map Column.name ∧ e = .unknownColumn R.table field := by
  rw [← find?_column_isSome_iff]
  unfold column
  cases R.columns.find? (·.name == field) with
  | some c => simp
  | none => simp [eq_comm]

/-- A projection is looked up field by field. -/
theorem projected_eq (R : RowType α) (q : Query) :
    R.projected q
      = if q.projection.isEmpty then .ok R.columns else q.projection.mapM R.column := rfl

/-- **A projection is refused for its first field that is no column.** -/
theorem projected_error_iff {e : QueryError} : R.projected q = .error e ↔ R.Lacks q e := by
  rw [projected_eq]
  unfold Lacks
  by_cases hempty : q.projection = []
  · -- all columns are asked for
    simp [hempty]
  · rw [if_neg (by simpa using hempty), mapM_error_iff]
    simp only [column_ok_iff, column_error_iff]

/-- A projection with a field that is no column has a first one. -/
theorem exists_lacks_iff :
    (∃ e, R.Lacks q e) ↔ ∃ field ∈ q.projection, field ∉ R.columns.map Column.name := by
  constructor
  · intro h
    obtain ⟨_, before, field, after, hprojection, -, hfield, -⟩ := h
    refine ⟨field, ?_, hfield⟩
    rw [hprojection]
    exact List.mem_append_right _ List.mem_cons_self
  · intro h
    obtain ⟨field, hmem, hfield⟩ := h
    have hsome :
        (q.projection.find? fun f => decide (f ∉ R.columns.map Column.name)).isSome = true :=
      List.find?_isSome.mpr ⟨field, hmem, decide_eq_true hfield⟩
    obtain ⟨first, hfirst⟩ := Option.isSome_iff_exists.mp hsome
    obtain ⟨hlacks, before, after, hprojection, hbefore⟩ := List.find?_eq_some_iff_append.mp hfirst
    refine ⟨_, before, first, after, hprojection, fun f hf => ?_, of_decide_eq_true hlacks, rfl⟩
    simpa using hbefore f hf

end RowType

namespace Operation

variable {β : Type} {o : Operation β}

/-- **Which operations are refused, said outright.** -/
theorem exists_refuses_iff : (∃ e, o.Refuses e) ↔ o.HasBadQuery := by
  cases o with
  | search R q =>
    unfold Refuses HasBadQuery
    rw [exists_or, exists_and_left, Query.exists_error_iff, RowType.exists_lacks_iff]
    tauto
  | findDocument D q => exact Query.exists_error_iff
  | findDocuments D q => exact Query.exists_error_iff
  | updateDocument D q a => exact Query.exists_error_iff
  | deleteDocument D q => exact Query.exists_error_iff
  | _ =>
    constructor
    · intro h
      obtain ⟨e, he⟩ := h
      exact he
    · intro h
      exact h.elim

end Operation

/-! ## §2. Failures of stores are no refusals. -/

namespace Report

variable {α β ε : Type}

/-- The query was not refused. -/
def Admitted (r : Report β) : Prop := ∀ e, r.result ≠ .error (.validation e)

theorem admitted_done (context : LogContext) (message : String) (b : β) :
    (done context message b).Admitted := by
  intro e h
  cases h

/-- **The failure of a store is no refusal**, whatever it is. -/
theorem admitted_failed (context : LogContext) (f : StoreFailure) :
    (failed context f : Report β).Admitted := by
  intro e h
  unfold failed PersistenceError.ofFailure at h
  cases hf : f.isNotFound <;> simp [hf] at h

/-- Lines that are told before make no difference. -/
theorem Admitted.lines {r : Report β} (h : r.Admitted) (lines : List LogLine) :
    { r with lines }.Admitted := h

theorem admitted_ofExcept (context : LogContext) (failure : ε → StoreFailure) (message : String)
    (r : Except ε β) : (ofExcept context failure message r).Admitted := by
  cases r with
  | ok b => exact admitted_done context message b
  | error e => exact admitted_failed context (failure e)

theorem admitted_changed (context : LogContext) (failure : ε → StoreFailure) (message : String)
    (s : α) (r : Except ε α) : (changed context failure message s r).1.Admitted := by
  cases r with
  | ok t => exact admitted_done context message ()
  | error e => exact admitted_failed context (failure e)

end Report

/-! ## §3. Every operation goes by its query first. -/

/-- An operation has gone by its query: for a fault of the query it is refused,
the state left alone and nothing told, and for no other reason. -/
inductive Checked {α β : Type} (refuses : QueryError → Prop) (s : α) : Report β × α → Prop where
  | refused (e : QueryError) (h : refuses e) : Checked refuses s (.refused e, s)
  | admitted {out : Report β × α} (h : ∀ e, ¬ refuses e) (hout : out.1.Admitted) :
      Checked refuses s out

/-- A part of a larger state that has been left alone leaves that one alone. -/
theorem Checked.lift {α β σ : Type} {refuses : QueryError → Prop} {s : α} {out : Report β × α}
    (h : Checked refuses s out) (f : α → σ) : Checked refuses (f s) (out.1, f out.2) := by
  cases h with
  | refused e h => exact .refused e h
  | admitted h hout => exact .admitted h hout

/-- What passes as a request has no fault. -/
theorem Query.no_error_of_translate {q : Query} {r : FindRequest}
    (h : FindRequest.translate q = .ok r) (e : QueryError) : ¬ q.validate = .error e := by
  intro he
  rw [FindRequest.translate_error_iff.mpr he] at h
  cases h

section Queries

variable [Pattern.Engine]

namespace DocumentType

variable {α : Type} (D : DocumentType α) (s : DocumentStore) (q : Query)

theorem checked_findOne : Checked (fun e => q.validate = .error e) s (D.findOne s q, s) := by
  unfold findOne
  cases ht : FindRequest.translate q with
  | error e => exact .refused e (FindRequest.translate_error_iff.mp ht)
  | ok r => exact .admitted (Query.no_error_of_translate ht) (Report.admitted_ofExcept _ _ _ _)

/-- A query with a fault is refused before anything is sorted. -/
theorem find_of_error [Sorter] {q : Query} {e : QueryError} (h : q.validate = .error e) :
    D.find s q = some (.refused e) := by
  unfold find
  rw [FindRequest.translate_error_iff.mpr h]

theorem checked_find [Sorter] {report : Report (List α)} (h : D.find s q = some report) :
    Checked (fun e => q.validate = .error e) s (report, s) := by
  unfold find at h
  cases ht : FindRequest.translate q with
  | error e =>
    rw [ht] at h
    obtain rfl := Option.some.inj h
    exact .refused e (FindRequest.translate_error_iff.mp ht)
  | ok r =>
    rw [ht] at h
    obtain ⟨found, -, rfl⟩ := Option.map_eq_some_iff.mp h
    exact .admitted (Query.no_error_of_translate ht) (Report.admitted_ofExcept _ _ _ _)

theorem checked_update (a : α) :
    Checked (fun e => q.validate = .error e) s (D.update s q a) := by
  unfold update
  cases ht : FindRequest.translate q with
  | error e => exact .refused e (FindRequest.translate_error_iff.mp ht)
  | ok r => exact .admitted (Query.no_error_of_translate ht) (Report.admitted_changed _ _ _ _ _)

theorem checked_delete : Checked (fun e => q.validate = .error e) s (D.delete s q) := by
  unfold delete
  cases ht : FindRequest.translate q with
  | error e => exact .refused e (FindRequest.translate_error_iff.mp ht)
  | ok r => exact .admitted (Query.no_error_of_translate ht) (Report.admitted_changed _ _ _ _ _)

end DocumentType

namespace RowType

variable {α : Type} (R : RowType α) (s : RelationalStore)

/-- A search is refused before its store is asked. -/
theorem search_of_refuses [Sorter] {q : Query} {e : QueryError}
    (h : (Operation.search R q).Refuses e) : R.search s q = (some (.refused e), s) := by
  unfold search
  rcases h with hq | ⟨hq, hlacks⟩
  · rw [hq]
  · rw [hq, projected_error_iff.mpr hlacks]

/-- A search goes by the query and by the columns before it asks the store,
which checks the query once more and finds nothing wrong. -/
theorem checked_search [Sorter] {q : Query} {report : Report (List α)}
    (h : (R.search s q).1 = some report) :
    Checked (Operation.search R q).Refuses s (report, (R.search s q).2) := by
  by_cases hrefused : ∃ e, (Operation.search R q).Refuses e
  · obtain ⟨e, he⟩ := hrefused
    rw [R.search_of_refuses s he] at h ⊢
    obtain rfl := Option.some.inj h
    exact .refused e he
  · refine .admitted (fun e he => hrefused ⟨e, he⟩) ?_
    -- neither check fails, so that the report is on the rows that are selected
    unfold search at h
    cases hq : q.validate with
    | error e => exact absurd ⟨e, .inl hq⟩ hrefused
    | ok u =>
      simp only [hq] at h
      cases hcolumns : R.projected q with
      | error e => exact absurd ⟨e, .inr ⟨hq, projected_error_iff.mp hcolumns⟩⟩ hrefused
      | ok columns =>
        rw [hcolumns] at h
        obtain ⟨selected, -, rfl⟩ := Option.map_eq_some_iff.mp h
        exact (Report.admitted_ofExcept _ _ _ _).lines _

omit [Pattern.Engine] in
/-- A change has no query. -/
theorem admitted_change (ch : RecordChange α) : (R.change s ch).1.Admitted := by
  intro e h
  have hdecided := R.change_decided s ch
  cases hf : R.firstFailure? s ch with
  | none =>
    rw [hf] at hdecided
    rw [hdecided.result] at h
    cases h
  | some p =>
    rw [hf] at hdecided
    rw [hdecided.result] at h
    split at h <;> cases h

end RowType

end Queries

namespace Cache

variable {α : Type} (T : JsonType α) (c : Cache) (now : Nat) (key : String)

theorem admitted_setValue {default ttl : Option Nat} {a : α} {out : Report Unit × Cache}
    (h : c.setValue T default now key a ttl = some out) : out.1.Admitted := by
  unfold setValue at h
  cases hj : T.encode a with
  | error e =>
    rw [hj] at h
    obtain rfl := Option.some.inj h
    exact Report.admitted_failed _ _
  | ok j =>
    simp only [hj] at h
    rcases hset : c.set now key j.render (ttl.or default) with e | ⟨_ | d⟩
    · rw [hset] at h
      obtain rfl := Option.some.inj h
      exact Report.admitted_failed _ _
    · rw [hset] at h
      cases h
    · rw [hset] at h
      obtain rfl := Option.some.inj h
      exact Report.admitted_done _ _ _

theorem admitted_getValue : (c.getValue T now key).1.Admitted := by
  unfold getValue
  rcases c.get now key with e | ⟨_ | text, d⟩
  · exact Report.admitted_failed _ _
  · exact Report.admitted_done _ _ _
  · exact Report.admitted_ofExcept _ _ _ _

theorem admitted_hasValue : (c.hasValue now key).1.Admitted := by
  unfold hasValue
  rcases c.exists? now key with e | ⟨found, d⟩
  · exact Report.admitted_failed _ _
  · exact Report.admitted_done _ _ _

end Cache

namespace Operation

section Refusals

variable [Pattern.Engine] [Sorter] {β : Type} {o : Operation β} {s : Stores} {now : Nat}
  {e e' : QueryError}

/-- **Every operation** goes by its query first. -/
theorem checked_perform {out : Report β × Stores} (h : o.perform s now = some out) :
    Checked o.Refuses s out := by
  cases o with
  | search R q =>
    obtain ⟨report, hreport, rfl⟩ := Option.map_eq_some_iff.mp h
    exact (R.checked_search s.relational hreport).lift fun relational => { s with relational }
  | findDocument D q =>
    obtain rfl := Option.some.inj h
    exact (D.checked_findOne s.documents q).lift fun _ => s
  | findDocuments D q =>
    obtain ⟨report, hreport, rfl⟩ := Option.map_eq_some_iff.mp h
    exact (D.checked_find s.documents q hreport).lift fun _ => s
  | updateDocument D q a =>
    obtain rfl := Option.some.inj h
    exact (D.checked_update s.documents q a).lift fun documents => { s with documents }
  | deleteDocument D q =>
    obtain rfl := Option.some.inj h
    exact (D.checked_delete s.documents q).lift fun documents => { s with documents }
  -- the others have no query
  | change R ch =>
    obtain rfl := Option.some.inj h
    exact .admitted (fun _ he => he) (R.admitted_change s.relational ch)
  | read R id =>
    obtain rfl := Option.some.inj h
    exact .admitted (fun _ he => he) (Report.admitted_ofExcept _ _ _ _)
  | insertDocument D a =>
    obtain rfl := Option.some.inj h
    exact .admitted (fun _ he => he) (Report.admitted_changed _ _ _ _ _)
  | setValue T key a ttl =>
    obtain ⟨kept, hkept, rfl⟩ := Option.map_eq_some_iff.mp h
    exact .admitted (fun _ he => he) (s.cache.admitted_setValue T now key hkept)
  | getValue T key =>
    obtain rfl := Option.some.inj h
    exact .admitted (fun _ he => he) (s.cache.admitted_getValue T now key)
  | deleteValue key =>
    obtain rfl := Option.some.inj h
    exact .admitted (fun _ he => he) (Report.admitted_changed _ _ _ _ _)
  | hasValue key =>
    obtain rfl := Option.some.inj h
    exact .admitted (fun _ he => he) (s.cache.admitted_hasValue now key)
  | insertIndexed T index id a =>
    obtain rfl := Option.some.inj h
    exact .admitted (fun _ he => he) (Report.admitted_changed _ _ _ _ _)
  | searchIndexed T index query =>
    obtain rfl := Option.some.inj h
    exact .admitted (fun _ he => he) (Report.admitted_ofExcept _ _ _ _)
  | deleteIndexed index id =>
    obtain rfl := Option.some.inj h
    exact .admitted (fun _ he => he) (Report.admitted_done _ _ _)

/-- An operation that is refused comes to an end. -/
theorem exists_of_refuses (h : o.Refuses e) (s : Stores) (now : Nat) :
    ∃ out, o.perform s now = some out := by
  cases o with
  | setValue T key a ttl => exact h.elim
  | search R q =>
    simp only [perform, R.search_of_refuses s.relational h]
    exact ⟨_, rfl⟩
  | findDocuments D q =>
    simp only [perform, D.find_of_error s.documents h]
    exact ⟨_, rfl⟩
  | _ => exact ⟨_, rfl⟩

omit [Pattern.Engine] [Sorter] in
/-- A query is refused for one fault alone. -/
theorem Refuses.unique (h : o.Refuses e) (h' : o.Refuses e') : e = e' := by
  have hfault : ∀ {q : Query}, q.validate = .error e → q.validate = .error e' → e = e' := by
    intro q hq hq'
    exact Except.error.inj (hq.symm.trans hq')
  cases o with
  | search R q =>
    unfold Refuses at h h'
    -- the columns only count if the query itself has no fault
    cases hq : q.validate with
    | error e₀ =>
      simp only [hq, reduceCtorEq, false_and, or_false] at h h'
      exact Except.error.inj (h.symm.trans h')
    | ok u =>
      simp only [hq, reduceCtorEq, true_and, false_or, ← RowType.projected_error_iff] at h h'
      exact Except.error.inj (h.symm.trans h')
  | findDocument D q => exact hfault h h'
  | findDocuments D q => exact hfault h h'
  | updateDocument D q a => exact hfault h h'
  | deleteDocument D q => exact hfault h h'
  | _ => exact h.elim

/-- A refusal is what the query is refused for, and leaves everything alone. -/
theorem perform_of_refuses (h : o.Refuses e) (s : Stores) (now : Nat) :
    o.perform s now = some (.refused e, s) := by
  obtain ⟨out, hout⟩ := exists_of_refuses h s now
  cases checked_perform hout with
  | refused e' h' => rw [hout, h.unique h']
  | admitted hnone _ => exact absurd h (hnone e)

/-- Whatever an operation is refused for, its query says so. -/
theorem refuses_of_perform {out : Report β × Stores} (h : o.perform s now = some out)
    (he : out.1.result = .error (.validation e)) : o.Refuses e := by
  cases checked_perform h with
  | refused e' h' =>
    cases he
    exact h'
  | admitted _ hadmitted => exact absurd he (hadmitted e)

/-! ## §4. A query is refused for what it says. -/

/-- **A QUERY IS REFUSED FOR WHAT IT SAYS, AND BEFORE ANYTHING HAPPENS.**
Whatever operation is asked of the stores, in whatever state they are and with
whatever faults: it is answered that the query makes no sense exactly if the
query fails its own checks, or asks a search for a field that is no column;
operations without a query are never answered so.  What is said is the first
fault of the query, the same in every state; the stores stay as they were, and
nothing is told. -/
theorem refused_by_query_alone (o : Operation β) :
    (∀ s now, (∃ out e, o.perform s now = some out ∧ out.1.result = .error (.validation e))
        ↔ o.HasBadQuery)
      ∧ ∀ e, o.Refuses e → ∀ s now, o.perform s now = some (.refused e, s) := by
  constructor
  · intro s now
    rw [← exists_refuses_iff]
    constructor
    · intro h
      obtain ⟨out, e, hout, he⟩ := h
      exact ⟨e, refuses_of_perform hout he⟩
    · intro h
      obtain ⟨e, he⟩ := h
      exact ⟨_, e, perform_of_refuses he s now, rfl⟩
  · intro e he
    exact perform_of_refuses he

end Refusals

/-- Stores that cannot be read or asked for anything. -/
def downStores : Stores :=
  { Stores.empty none with
    relational := (RelationalStore.empty.inject .read).inject .begin
    documents := ⟨[], true⟩ }

/-- The search for what users with a name are called, by a column that there is
not. -/
def nicknames : Query :=
  (Query.empty.select ["name", "nickname", "x"]).whereLike "name" "%"

open DataAccess.Sample in
/-- The search is refused for its first unknown field although nothing can be
read; without that field it fails, and is not refused. -/
theorem refused_by_query_alone_users :
    (Operation.search Sample.User.rowType nicknames).Refuses (.unknownColumn "users" "nickname")
      ∧ (Operation.search Sample.User.rowType nicknames).perform downStores 0
          = some (.refused (.unknownColumn "users" "nickname"), downStores)
      ∧ ¬ ∃ out e, (Operation.search Sample.User.rowType (nicknames.select ["name"])).perform
            downStores 0 = some out ∧ out.1.result = .error (.validation e) := by
  have hrefuses : (Operation.search Sample.User.rowType nicknames).Refuses
      (.unknownColumn "users" "nickname") :=
    .inr ⟨by decide, ["name"], "nickname", ["x"], rfl, by decide, by decide, rfl⟩
  refine ⟨hrefuses, (refused_by_query_alone _).2 _ hrefuses downStores 0, ?_⟩
  rw [(refused_by_query_alone (.search Sample.User.rowType (nicknames.select ["name"]))).1]
  unfold HasBadQuery
  decide

end Operation

end DataAccess
