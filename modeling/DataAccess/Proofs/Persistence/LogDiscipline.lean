/-
  DataAccess.Proofs.Persistence.LogDiscipline — what is told of an operation
  is what came of it.

  Seventeen operations on four stores come to one of four ends, and each end
  is told of by its own entry: a success, data that is not there, a failure
  of the store, and nothing at all if the query makes no sense.  There is one
  entry, not two and not none, however early the operation stops.  Only one
  thing is ever told beside it, and after it: that a change of a record was
  refused, and that its transaction could not be rolled back either.

  So a log is a transcript.  Over any operations, with any faults in between,
  its main entries are, in order, the ends of the operations:

      log.filterMap (·.verdict?) = answers.filterMap verdict?

  Main statements:
    * `told_change`               — changes of records, by their first failing stage;
    * `told_perform`              — every operation tells what came of it;
    * `Diary.Transcript.pass`     — one more operation keeps a log a transcript;
    * `operations_told_exactly`   — both, for all operations and all their runs.
-/
import DataAccess.Persistence.Stores
import DataAccess.Proofs.Persistence.AllOrNothing
import DataAccess.Sample.Engines
import DataAccess.Sample.Rows

namespace DataAccess

/-! ## §1. The operations. -/

/-- An operation on one of the stores, by the type of what it answers. -/
inductive Operation : Type → Type 1 where
  | change {α : Type} (R : RowType α) (ch : RecordChange α) : Operation Unit
  | read {α : Type} (R : RowType α) (id : Int64) : Operation α
  | search {α : Type} (R : RowType α) (q : Query) : Operation (List α)
  | insertDocument {α : Type} (D : DocumentType α) (a : α) : Operation Unit
  | findDocument {α : Type} (D : DocumentType α) (q : Query) : Operation α
  | findDocuments {α : Type} (D : DocumentType α) (q : Query) : Operation (List α)
  | updateDocument {α : Type} (D : DocumentType α) (q : Query) (a : α) : Operation Unit
  | deleteDocument {α : Type} (D : DocumentType α) (q : Query) : Operation Unit
  | setValue {α : Type} (T : JsonType α) (key : String) (a : α) (ttl : Option Nat) : Operation Unit
  | getValue {α : Type} (T : JsonType α) (key : String) : Operation (Option α)
  | deleteValue (key : String) : Operation Unit
  | hasValue (key : String) : Operation Bool
  | insertIndexed {α : Type} (T : JsonType α) (index id : String) (a : α) : Operation Unit
  | searchIndexed {α : Type} (T : JsonType α) (index : String) (query : Json) : Operation (List α)
  | deleteIndexed (index id : String) : Operation Unit

namespace Operation

variable {β : Type}

/-- Asks the store of an operation; none if it panics, as where the clock of the
cache does not reach as far as a value is to live. -/
def perform [Pattern.Engine] [Sorter] (s : Stores) (now : Nat) :
    Operation β → Option (Report β × Stores)
  | .change R ch =>
      let (report, relational) := R.change s.relational ch
      some (report, { s with relational })
  | .read R id => some (R.read s.relational id, s)
  | .search R q =>
      let (report, relational) := R.search s.relational q
      report.map fun report => (report, { s with relational })
  | .insertDocument D a =>
      let (report, documents) := D.insert s.documents a
      some (report, { s with documents })
  | .findDocument D q => some (D.findOne s.documents q, s)
  | .findDocuments D q => (D.find s.documents q).map fun report => (report, s)
  | .updateDocument D q a =>
      let (report, documents) := D.update s.documents q a
      some (report, { s with documents })
  | .deleteDocument D q =>
      let (report, documents) := D.delete s.documents q
      some (report, { s with documents })
  | .setValue T key a ttl =>
      (s.cache.setValue T s.defaultTtl now key a ttl).map fun (report, cache) =>
        (report, { s with cache })
  | .getValue T key =>
      let (report, cache) := s.cache.getValue T now key
      some (report, { s with cache })
  | .deleteValue key =>
      let (report, cache) := s.cache.deleteValue key
      some (report, { s with cache })
  | .hasValue key =>
      let (report, cache) := s.cache.hasValue now key
      some (report, { s with cache })
  | .insertIndexed T index id a =>
      let (report, indices) := s.search.insertValue T index id a
      some (report, { s with search := indices })
  | .searchIndexed T index query => some (s.search.searchValues T index query, s)
  | .deleteIndexed index id =>
      let (report, indices) := s.search.deleteValue index id
      some (report, { s with search := indices })

/-- What the entries of an operation name. -/
def context : Operation β → LogContext
  | .change R ch => R.contextOf ch
  | .read R id => R.context "read" id
  | .search R _ => ⟨"search", R.table, none⟩
  | .insertDocument D _ => D.context "insert"
  | .findDocument D _ => D.context "find_one"
  | .findDocuments D _ => D.context "find"
  | .updateDocument D _ _ => D.context "update"
  | .deleteDocument D _ => D.context "delete"
  | .setValue _ key _ _ => Cache.context "set_cache" key
  | .getValue _ key => Cache.context "get_cache" key
  | .deleteValue key => Cache.context "delete_cache" key
  | .hasValue key => Cache.context "exists_cache" key
  | .insertIndexed _ index id _ => ⟨"index", index, some id⟩
  | .searchIndexed _ index _ => ⟨"search_index", index, none⟩
  | .deleteIndexed index id => ⟨"unindex", index, some id⟩

/-- What is told of an operation that succeeded, by its answer. -/
def message : Operation β → β → String
  | .change _ ch, _ => ch.message
  | .read _ _, _ => "record retrieved"
  | .search _ _, _ => "search executed"
  | .insertDocument _ _, _ => "document inserted"
  | .findDocument _ _, _ => "document retrieved"
  | .findDocuments _ _, _ => "documents retrieved"
  | .updateDocument _ _ _, _ => "document updated"
  | .deleteDocument _ _, _ => "document deleted"
  | .setValue _ _ _ _, _ => "value cached"
  | .getValue _ _, found => if found.isSome then "cache hit" else "cache miss"
  | .deleteValue _, _ => "value evicted"
  | .hasValue _, _ => "existence checked"
  | .insertIndexed _ _ _ _, _ => "document indexed"
  | .searchIndexed _ _ _, _ => "search executed"
  | .deleteIndexed _ _, _ => "document removed"

/-- The operation asks a cache or a search index. -/
def isOnValues : Operation β → Bool
  | .setValue _ _ _ _ => true
  | .getValue _ _ => true
  | .deleteValue _ => true
  | .hasValue _ => true
  | .insertIndexed _ _ _ _ => true
  | .searchIndexed _ _ _ => true
  | .deleteIndexed _ _ => true
  | _ => false

/-- An operation leaves a transaction behind that cannot be rolled back: it is
a change of a record, its transaction began, its write was refused, and then
the rollback failed as well. -/
def RollbackFails (s : Stores) : Operation β → RelationalError → Prop
  | .change R ch, e =>
      ∃ t cause, Transaction.begin s.relational = .ok t
        ∧ t.apply s.relational R.table R.key (R.writeOf ch) = .error cause
        ∧ (t.rollback s.relational).1 = .error e
  | _, _ => False

/-- What may be told beside a failure: a rollback that failed too, or else nothing. -/
def Beside (s : Stores) (o : Operation β) (rest : List LogEntry) : Prop :=
  (∃ e, o.RollbackFails s e ∧ rest = [.suppressed o.context e.message])
    ∨ (∀ e, ¬ o.RollbackFails s e) ∧ rest = []

/-- What is told of an operation is what came of it. -/
structure Told (s : Stores) (o : Operation β) (r : Report β) : Prop where
  /-- A success is told of by one entry and by nothing else. -/
  succeeded : ∀ b, r.result = .ok b → r.entries = [.success o.context (o.message b)]
  /-- Nothing is told of a query that makes no sense. -/
  refused : ∀ e, r.result = .error (.validation e) → r.entries = []
  /-- Data that is not there is told of first, and is not called a failure. -/
  notFound : ∀ f, r.result = .error (.notFound f) →
    ∃ rest, r.entries = .notFound o.context :: rest ∧ o.Beside s rest
  /-- So is a failure, which is not called missing data. -/
  failed : ∀ f, r.result = .error (.backend f) →
    ∃ rest, r.entries = .failure o.context f.message :: rest ∧ o.Beside s rest
  /-- Caches and search indices fail or succeed. -/
  onValues : o.isOnValues = true → ∀ e, r.result = .error e → ∃ f, e = .backend f

end Operation

/-! ## §2. Reports with one entry. -/

/-- The entry that a result asks for; a query that makes no sense asks for none. -/
def mainEntries {β : Type} (context : LogContext) (message : β → String) :
    Except PersistenceError β → List LogEntry
  | .ok b => [.success context (message b)]
  | .error (.validation _) => []
  | .error (.notFound _) => [.notFound context]
  | .error (.backend f) => [.failure context f.message]

namespace Report

/-- A report with the entry that its result asks for and no other. -/
structure Plain {β : Type} (context : LogContext) (message : β → String) (onValues : Bool)
    (r : Report β) : Prop where
  entries : r.entries = mainEntries context message r.result
  onValues : onValues = true → ∀ e, r.result = .error e → ∃ f, e = .backend f

variable {α β ε : Type} {context : LogContext} {message : β → String} {onValues : Bool}

theorem plain_done {text : String} {b : β} (h : message b = text) :
    (done context text b).Plain context message onValues := by
  subst h
  exact ⟨rfl, fun _ e he => by cases he⟩

theorem plain_refused (e : QueryError) :
    (refused e : Report β).Plain context message false := ⟨rfl, by simp⟩

/-- A failure is told of by the name that it has in the error. -/
theorem plain_failed {f : StoreFailure} (h : onValues = true → f.isNotFound = false) :
    (failed context f : Report β).Plain context message onValues := by
  unfold failed PersistenceError.ofFailure LogEntry.ofFailure
  cases hf : f.isNotFound with
  | true =>
    refine ⟨rfl, fun hv => ?_⟩
    rw [h hv] at hf
    cases hf
  | false => exact ⟨rfl, fun _ e he => ⟨f, by cases he; rfl⟩⟩

/-- Lines that are told before are no entries. -/
theorem Plain.lines {r : Report β} (h : r.Plain context message onValues) (lines : List LogLine) :
    { r with lines }.Plain context message onValues := ⟨h.entries, h.onValues⟩

variable {text : String} {failure : ε → StoreFailure}

theorem plain_ofExcept (hm : ∀ b, message b = text)
    (h : onValues = true → ∀ e, (failure e).isNotFound = false) (r : Except ε β) :
    (ofExcept context failure text r).Plain context message onValues := by
  cases r with
  | ok b => exact plain_done (hm b)
  | error e => exact plain_failed fun hv => h hv e

theorem plain_changed {message : Unit → String} (hm : message () = text)
    (h : onValues = true → ∀ e, (failure e).isNotFound = false) (s : α) (r : Except ε α) :
    (changed context failure text s r).1.Plain context message onValues := by
  cases r with
  | ok t => exact plain_done hm
  | error e => exact plain_failed fun hv => h hv e

end Report

/-! ## §3. What each operation tells. -/

theorem RowType.plain_searched {α : Type} (R : RowType α) (q : Query)
    (selected : Except RelationalError (List Row)) :
    (R.searched q selected).Plain ⟨"search", R.table, none⟩ (fun _ => "search executed") false :=
  (Report.plain_ofExcept (fun _ => rfl) nofun _).lines _

theorem RowType.plain_search [Pattern.Engine] [Sorter] {α : Type} (R : RowType α)
    {s : RelationalStore} {q : Query} {r : Report (List α)} (h : (R.search s q).1 = some r) :
    r.Plain ⟨"search", R.table, none⟩ (fun _ => "search executed") false := by
  unfold search at h
  cases hq : q.validate with
  | error e =>
    rw [hq] at h
    obtain rfl := Option.some.inj h
    exact Report.plain_refused e
  | ok u =>
    simp only [hq] at h
    cases hcolumns : R.projected q with
    | error e =>
      rw [hcolumns] at h
      obtain rfl := Option.some.inj h
      exact Report.plain_refused e
    | ok columns =>
      rw [hcolumns] at h
      obtain ⟨selected, -, rfl⟩ := Option.map_eq_some_iff.mp h
      exact R.plain_searched q selected

namespace DocumentType

variable [Pattern.Engine] {α : Type} (D : DocumentType α) (s : DocumentStore) (q : Query)

theorem plain_findOne :
    (D.findOne s q).Plain (D.context "find_one") (fun _ => "document retrieved") false := by
  unfold findOne
  cases FindRequest.translate q with
  | error e => exact Report.plain_refused e
  | ok r => exact Report.plain_ofExcept (fun _ => rfl) nofun _

theorem plain_find [Sorter] {r : Report (List α)} (h : D.find s q = some r) :
    r.Plain (D.context "find") (fun _ => "documents retrieved") false := by
  unfold find at h
  cases hr : FindRequest.translate q with
  | error e =>
    rw [hr] at h
    obtain rfl := Option.some.inj h
    exact Report.plain_refused e
  | ok request =>
    rw [hr] at h
    obtain ⟨found, -, rfl⟩ := Option.map_eq_some_iff.mp h
    exact Report.plain_ofExcept (fun _ => rfl) nofun _

theorem plain_update (a : α) :
    (D.update s q a).1.Plain (D.context "update") (fun _ => "document updated") false := by
  unfold update
  cases FindRequest.translate q with
  | error e => exact Report.plain_refused e
  | ok r => exact Report.plain_changed rfl nofun _ _

theorem plain_delete :
    (D.delete s q).1.Plain (D.context "delete") (fun _ => "document deleted") false := by
  unfold delete
  cases FindRequest.translate q with
  | error e => exact Report.plain_refused e
  | ok r => exact Report.plain_changed rfl nofun _ _

end DocumentType

namespace Cache

variable {α : Type} (T : JsonType α) (c : Cache) (now : Nat) (key : String)

/-- A value that cannot be written is told of once, and so is one that cannot
be kept. -/
theorem plain_setValue {default ttl : Option Nat} {a : α} {out : Report Unit × Cache}
    (h : c.setValue T default now key a ttl = some out) :
    out.1.Plain (context "set_cache" key) (fun _ => "value cached") true := by
  unfold setValue at h
  cases hj : T.encode a with
  | error e =>
    -- told of before the cache is asked at all
    rw [hj] at h
    obtain rfl := Option.some.inj h
    exact Report.plain_failed fun _ => rfl
  | ok j =>
    simp only [hj] at h
    cases hset : c.set now key j.render (ttl.or default) with
    | error e =>
      rw [hset] at h
      obtain rfl := Option.some.inj h
      exact Report.plain_failed fun _ => rfl
    | ok kept =>
      cases kept with
      | none =>
        -- the clock does not reach so far, and there is no report
        rw [hset] at h
        cases h
      | some d =>
        rw [hset] at h
        obtain rfl := Option.some.inj h
        exact Report.plain_done rfl

/-- A miss is a success, and a value that cannot be read a failure. -/
theorem plain_getValue :
    (c.getValue T now key).1.Plain (context "get_cache" key)
      (fun found => if found.isSome then "cache hit" else "cache miss") true := by
  unfold getValue
  rcases c.get now key with e | ⟨_ | text, d⟩
  · exact Report.plain_failed fun _ => rfl
  · exact Report.plain_done rfl
  · simp only
    cases T.ofText text with
    | error e => exact Report.plain_failed fun _ => rfl
    | ok a => exact Report.plain_done rfl

theorem plain_hasValue :
    (c.hasValue now key).1.Plain (context "exists_cache" key) (fun _ => "existence checked")
      true := by
  unfold hasValue
  rcases c.exists? now key with e | ⟨found, d⟩
  · exact Report.plain_failed fun _ => rfl
  · exact Report.plain_done rfl

end Cache

namespace Operation

variable {α β : Type} {s : Stores}

/-- One entry, and something beside it only after a failure. -/
theorem Told.of_entries {o : Operation β} {r : Report β} {rest : List LogEntry}
    (hentries : r.entries = mainEntries o.context o.message r.result ++ rest)
    (hrest : o.Beside s rest)
    (hquiet : (∀ f, r.result ≠ .error (.notFound f)) → (∀ f, r.result ≠ .error (.backend f)) →
      rest = [])
    (honValues : o.isOnValues = true → ∀ e, r.result = .error e → ∃ f, e = .backend f) :
    o.Told s r where
  succeeded := fun b hb => by
    rw [hentries, hquiet (by simp [hb]) (by simp [hb]), hb]
    rfl
  refused := fun e he => by
    rw [hentries, hquiet (by simp [he]) (by simp [he]), he]
    rfl
  notFound := fun f hf => ⟨rest, by rw [hentries, hf]; rfl, hrest⟩
  failed := fun f hf => ⟨rest, by rw [hentries, hf]; rfl, hrest⟩
  onValues := honValues

/-- Without a transaction that is left behind, one entry is all. -/
theorem Told.of_plain {o : Operation β} {r : Report β} (hnone : ∀ e, ¬ o.RollbackFails s e)
    (h : r.Plain o.context o.message o.isOnValues) : o.Told s r :=
  .of_entries (by rw [h.entries, List.append_nil]) (.inr ⟨hnone, rfl⟩) (fun _ _ => rfl) h.onValues

/-- What rolling back an active transaction comes to. -/
theorem rollback_on_error_iff (s : RelationalStore) (ws : List StagedWrite)
    (e : RelationalError) :
    ((Transaction.on ⟨ws, false⟩).rollback s).1 = .error e
      ↔ Fault.rollback ∈ s.faults ∧ e = .injected .rollback := by
  show s.pass .rollback = .error e ↔ _
  by_cases hf : Fault.rollback ∈ s.faults
  · rw [RelationalStore.pass_of_mem hf]
    simp [hf, eq_comm]
  · rw [RelationalStore.pass_ok_iff.mpr hf]
    simp [hf]

/-- A rollback fails exactly if the write is the first stage of a change that
fails and the store refuses rollbacks. -/
theorem rollbackFails_change_iff (R : RowType α) (ch : RecordChange α) (e : RelationalError) :
    (Operation.change R ch).RollbackFails s e
      ↔ (∃ cause, R.firstFailure? s.relational ch = some (.operation, cause))
        ∧ Fault.rollback ∈ s.relational.faults ∧ e = .injected .rollback := by
  unfold RowType.firstFailure?
  by_cases hb : Fault.begin ∈ s.relational.faults
  · -- nothing began, so that nothing can be left behind
    simp [RollbackFails, RelationalStore.begin_of_mem hb, hb]
  have hbegun : (Operation.change R ch).RollbackFails s e
      ↔ (∃ cause, (Transaction.on ⟨[], false⟩).apply s.relational R.table R.key (R.writeOf ch)
          = .error cause)
        ∧ ((Transaction.on ⟨[], false⟩).rollback s.relational).1 = .error e := by
    simp [RollbackFails, RelationalStore.begin_of_not_mem hb]
  rw [hbegun, rollback_on_error_iff, if_neg hb]
  refine and_congr_left fun _ => ?_
  rcases s.relational.write_nil R.table R.key (R.writeOf ch) with
    ⟨cause, hr, hw⟩ | ⟨v, hr, -, -, hw, -⟩
  · -- refused, by the write and by the transaction alike
    have happly : (Transaction.on ⟨[], false⟩).apply s.relational R.table R.key (R.writeOf ch)
        = .error cause := by
      rw [Transaction.apply_on, hw]
      rfl
    exact iff_of_true ⟨cause, happly⟩ ⟨cause, by rw [hr]⟩
  · -- accepted, so that at most the commit fails
    simp only [R.apply_accepted hw, hr, reduceCtorEq, exists_false, false_iff, not_exists]
    intro cause
    split <;> simp

/-- What is told beside a change that fails at a stage. -/
theorem beside_change {R : RowType α} {ch : RecordChange α} {stage : Stage} {e : RelationalError}
    (hf : R.firstFailure? s.relational ch = some (stage, e)) :
    (Operation.change R ch).Beside s
      (if stage = .operation ∧ Fault.rollback ∈ s.relational.faults
        then [.suppressed (R.contextOf ch) (RelationalError.injected .rollback).message]
        else []) := by
  unfold Beside
  simp only [rollbackFails_change_iff, hf]
  by_cases h : stage = .operation ∧ Fault.rollback ∈ s.relational.faults
  · rw [if_pos h]
    exact .inl ⟨_, ⟨⟨e, by rw [h.1]⟩, h.2, rfl⟩, rfl⟩
  · rw [if_neg h]
    refine .inr ⟨fun e' ⟨⟨cause, hstage⟩, hr, _⟩ => ?_, rfl⟩
    cases hstage
    exact h ⟨rfl, hr⟩

/-- A change tells of its first stage that fails. -/
theorem told_change (R : RowType α) (ch : RecordChange α) :
    (Operation.change R ch).Told s (R.change s.relational ch).1 := by
  have hdecided := R.change_decided s.relational ch
  cases hf : R.firstFailure? s.relational ch with
  | none =>
    rw [hf] at hdecided
    refine .of_plain (fun e he => ?_) ⟨?_, nofun⟩
    · rw [rollbackFails_change_iff, hf] at he
      obtain ⟨⟨_, hnone⟩, -⟩ := he
      cases hnone
    · rw [hdecided.entries, hdecided.result]
      rfl
  | some p =>
    obtain ⟨stage, e⟩ := p
    rw [hf] at hdecided
    have hresult := hdecided.result
    have hentries := hdecided.entries
    -- a refusal that finds nothing is told apart from all other failures
    by_cases hn : stage = .operation ∧ e = .notFound
    · rw [if_pos hn] at hresult hentries
      exact .of_entries (by rw [hentries, hresult]; rfl) (beside_change hf)
        (fun hnever _ => absurd hresult (hnever _)) nofun
    · rw [if_neg hn] at hresult hentries
      exact .of_entries (by rw [hentries, hresult]; rfl) (beside_change hf)
        (fun _ hnever => absurd hresult (hnever _)) nofun

/-- **Every operation** tells what came of it. -/
theorem told_perform [Pattern.Engine] [Sorter] {o : Operation β} {now : Nat}
    {out : Report β × Stores} (h : o.perform s now = some out) : o.Told s out.1 := by
  -- a change of a record has a rollback to tell of, every other operation one line
  cases o with
  | change R ch =>
    obtain rfl := Option.some.inj h
    exact told_change R ch
  | setValue T key a ttl =>
    obtain ⟨kept, hkept, rfl⟩ := Option.map_eq_some_iff.mp h
    exact .of_plain (fun _ he => he) (s.cache.plain_setValue T now key hkept)
  | read R id =>
    obtain rfl := Option.some.inj h
    exact .of_plain (fun _ he => he) (Report.plain_ofExcept (fun _ => rfl) nofun _)
  | search R q =>
    obtain ⟨report, hreport, rfl⟩ := Option.map_eq_some_iff.mp h
    exact .of_plain (fun _ he => he) (R.plain_search hreport)
  | insertDocument D a =>
    obtain rfl := Option.some.inj h
    exact .of_plain (fun _ he => he) (Report.plain_changed rfl nofun _ _)
  | findDocument D q =>
    obtain rfl := Option.some.inj h
    exact .of_plain (fun _ he => he) (D.plain_findOne s.documents q)
  | findDocuments D q =>
    obtain ⟨report, hreport, rfl⟩ := Option.map_eq_some_iff.mp h
    exact .of_plain (fun _ he => he) (D.plain_find s.documents q hreport)
  | updateDocument D q a =>
    obtain rfl := Option.some.inj h
    exact .of_plain (fun _ he => he) (D.plain_update s.documents q a)
  | deleteDocument D q =>
    obtain rfl := Option.some.inj h
    exact .of_plain (fun _ he => he) (D.plain_delete s.documents q)
  | getValue T key =>
    obtain rfl := Option.some.inj h
    exact .of_plain (fun _ he => he) (s.cache.plain_getValue T now key)
  | deleteValue key =>
    obtain rfl := Option.some.inj h
    exact .of_plain (fun _ he => he) (Report.plain_changed rfl (fun _ _ => rfl) _ _)
  | hasValue key =>
    obtain rfl := Option.some.inj h
    exact .of_plain (fun _ he => he) (s.cache.plain_hasValue now key)
  | insertIndexed T index id a =>
    obtain rfl := Option.some.inj h
    exact .of_plain (fun _ he => he) (Report.plain_changed rfl (fun _ _ => rfl) _ _)
  | searchIndexed T index query =>
    obtain rfl := Option.some.inj h
    exact .of_plain (fun _ he => he) (Report.plain_ofExcept (fun _ => rfl) (fun _ _ => rfl) _)
  | deleteIndexed index id =>
    obtain rfl := Option.some.inj h
    exact .of_plain (fun _ he => he) (Report.plain_done rfl)

end Operation

/-! ## §4. A log is a transcript. -/

/-- What came of an operation that was not refused for its query. -/
inductive Verdict where
  | succeeded
  | notFound
  | failed
  deriving DecidableEq

/-- The verdict of a result; a query that makes no sense has none. -/
def verdict? {β : Type} : Except PersistenceError β → Option Verdict
  | .ok _ => some .succeeded
  | .error (.validation _) => none
  | .error (.notFound _) => some .notFound
  | .error (.backend _) => some .failed

/-- The verdict that an entry gives; what is told beside a failure gives none. -/
def LogEntry.verdict? : LogEntry → Option Verdict
  | success _ _ => some .succeeded
  | notFound _ => some .notFound
  | failure _ _ => some .failed
  | suppressed _ _ => none

/-- The result is a failure that something else may be told beside. -/
def isFailure {β : Type} (result : Except PersistenceError β) : Bool :=
  verdict? result == some .notFound || verdict? result == some .failed

/-- What exactly was answered does not count. -/
theorem verdict?_map {α β : Type} (f : α → β) (result : Except PersistenceError α) :
    verdict? (result.map f) = verdict? result := by
  rcases result with e | a
  · cases e <;> rfl
  · rfl

namespace Operation

variable {β : Type} {s : Stores} {o : Operation β}

/-- What is told beside a failure is one entry at most, and gives no verdict. -/
theorem Beside.no_verdict {rest : List LogEntry} (h : o.Beside s rest) :
    rest.filterMap LogEntry.verdict? = []
      ∧ rest.countP (fun e => e.verdict?.isNone) ≤ 1 := by
  obtain ⟨e, -, rfl⟩ | ⟨-, rfl⟩ := h
  · exact ⟨rfl, Nat.le_refl _⟩
  · exact ⟨rfl, Nat.zero_le _⟩

/-- The entries of an operation give one verdict, that of its result, and none
if it has none; something beside it is only told of a failure. -/
theorem Told.verdicts {r : Report β} (h : o.Told s r) :
    r.entries.filterMap LogEntry.verdict? = (verdict? r.result).toList
      ∧ r.entries.countP (fun e => e.verdict?.isNone) ≤ (isFailure r.result).toNat := by
  cases hr : r.result with
  | ok b =>
    rw [h.succeeded b hr]
    exact ⟨rfl, Nat.le_refl _⟩
  | error e =>
    cases e with
    | validation e =>
      rw [h.refused e hr]
      exact ⟨rfl, Nat.le_refl _⟩
    | notFound f =>
      obtain ⟨rest, hentries, hrest⟩ := h.notFound f hr
      rw [hentries, List.filterMap_cons, List.countP_cons, hrest.no_verdict.1]
      exact ⟨rfl, hrest.no_verdict.2⟩
    | backend f =>
      obtain ⟨rest, hentries, hrest⟩ := h.failed f hr
      rw [hentries, List.filterMap_cons, List.countP_cons, hrest.no_verdict.1]
      exact ⟨rfl, hrest.no_verdict.2⟩

end Operation

/-- Stores with the log of the operations on them, and what came of these. -/
structure Diary where
  stores : Stores
  log : List LogEntry
  /-- The results, in order, but for what was answered. -/
  answers : List (Except PersistenceError Unit)

/-- Something that happens to stores. -/
inductive Turn where
  | operation {β : Type} (o : Operation β) (now : Nat)
  /-- Others leave the stores like this, with other faults and other data. -/
  | meanwhile (s : Stores)

namespace Diary

section Turns

variable [Pattern.Engine] [Sorter]

/-- Lets a turn happen; none if the operation does not come to an end. -/
def pass (d : Diary) : Turn → Option Diary
  | .meanwhile s => some { d with stores := s }
  | .operation o now =>
      (o.perform d.stores now).map fun (report, stores) =>
        ⟨stores, d.log ++ report.entries, d.answers ++ [report.result.map fun _ => ()]⟩

/-- Lets some turns happen, one after the other. -/
def run (d : Diary) (turns : List Turn) : Option Diary := turns.foldlM pass d

/-- A log gives the verdicts of the operations, in order and each of them
once, and says something beside them at most once for each failure. -/
structure Transcript (d : Diary) : Prop where
  verdicts : d.log.filterMap LogEntry.verdict? = d.answers.filterMap verdict?
  beside : d.log.countP (fun e => e.verdict?.isNone) ≤ d.answers.countP isFailure

/-- **One turn** keeps a log a transcript. -/
theorem Transcript.pass {d e : Diary} (hd : d.Transcript) {turn : Turn}
    (h : d.pass turn = some e) : e.Transcript := by
  cases turn with
  | meanwhile s =>
    obtain rfl := Option.some.inj h
    exact ⟨hd.verdicts, hd.beside⟩
  | operation o now =>
    obtain ⟨⟨report, stores⟩, hperform, rfl⟩ := Option.map_eq_some_iff.mp h
    obtain ⟨hverdicts, hbeside⟩ := (Operation.told_perform hperform).verdicts
    have hresult := verdict?_map (fun _ => ()) report.result
    constructor
    · show (d.log ++ report.entries).filterMap _
        = (d.answers ++ [report.result.map fun _ => ()]).filterMap verdict?
      rw [List.filterMap_append, List.filterMap_append, hd.verdicts, hverdicts,
        List.filterMap_cons, hresult]
      cases verdict? report.result <;> rfl
    · show (d.log ++ report.entries).countP _
        ≤ (d.answers ++ [report.result.map fun _ => ()]).countP isFailure
      have hfailure : isFailure (report.result.map fun _ => ()) = isFailure report.result := by
        unfold isFailure
        rw [hresult]
      rw [List.countP_append, List.countP_append, List.countP_singleton, hfailure]
      have hbefore := hd.beside
      -- what is told beside a failure is counted against that failure
      cases hf : isFailure report.result with
      | true =>
        rw [hf] at hbeside
        exact Nat.add_le_add hbefore hbeside
      | false =>
        rw [hf] at hbeside
        exact Nat.add_le_add hbefore hbeside

/-- So do any number of turns. -/
theorem Transcript.run {turns : List Turn} :
    ∀ {d e : Diary}, d.Transcript → d.run turns = some e → e.Transcript := by
  -- the diary so far varies along the turns
  induction turns with
  | nil =>
    intro d e hd h
    obtain rfl := Option.some.inj h
    exact hd
  | cons turn turns ih =>
    intro d e hd h
    obtain ⟨c, hc, he⟩ := Option.bind_eq_some_iff.mp h
    exact ih (hd.pass hc) he

end Turns

end Diary

/-! ## §5. Every operation is told of exactly. -/

/-- **WHAT IS TOLD IS WHAT CAME OF IT.**  Whatever operation is asked of the
stores that does not panic, in whatever state they are: a success is told of by one entry, data
that is not there by one, a failure by one, and a query that makes no sense by
none; only a rollback that fails after a refused write is told of besides.
And so a log is a transcript of all that was asked. -/
theorem operations_told_exactly [Pattern.Engine] [Sorter] :
    (∀ (β : Type) (o : Operation β) s now out, o.perform s now = some out → o.Told s out.1)
      ∧ ∀ s turns d, Diary.run ⟨s, [], []⟩ turns = some d → d.Transcript := by
  constructor
  · intro β o s now out h
    exact Operation.told_perform h
  · intro s turns d h
    exact Diary.Transcript.run ⟨rfl, Nat.le_refl _⟩ h

/-- Empty stores in which no transaction can be rolled back. -/
def withoutRollback : Stores :=
  { Stores.empty none with relational := RelationalStore.empty.inject .rollback }

open DataAccess.Sample in
/-- A user that is not there is deleted while rollbacks fail: both are told of,
the outcome first. -/
theorem operations_told_exactly_beside :
    ∃ out, (Operation.change Sample.User.rowType (.delete 3)).perform withoutRollback 0 = some out
      ∧ out.1.result = .error (.notFound (.relational .notFound))
      ∧ out.1.entries = [.notFound ⟨"delete", "users", some "3"⟩,
          .suppressed ⟨"delete", "users", some "3"⟩
            "connection error :: injected Rollback failure"] := by
  refine ⟨_, rfl, rfl, ?_⟩
  have htold := operations_told_exactly.1 Unit (.change Sample.User.rowType (.delete 3))
    withoutRollback 0 _ rfl
  obtain ⟨rest, hentries, hbeside⟩ := htold.notFound (.relational .notFound) rfl
  rw [hentries]
  obtain ⟨e, hfails, rfl⟩ | ⟨hnone, -⟩ := hbeside
  · rw [Operation.rollbackFails_change_iff] at hfails
    rw [hfails.2.2]
    rfl
  · -- the transaction began, its write was refused, and the rollback failed
    exact absurd ⟨.on ⟨[], false⟩, .notFound, rfl, rfl, rfl⟩ (hnone (.injected .rollback))

end DataAccess
