/-
  DataAccess.Proofs.Persistence.RecordList — records in a collection are a list
  of records.

  A collection holds the documents of records in the order in which these were
  added.  A record is changed by writing the fields of another one over its
  document, which leaves the document of the other one only because all
  documents of a record type have the same fields in the same order.  The
  first document that matches is looked for in three ways, and all of them
  come to

      the place of the first record whose document meets the conditions.

  Main statements:
    * `insertAll_document`    — a document that is written over is replaced;
    * `Lists.place_eq`        — the place that the three operations share;
    * `lists_call`            — a call changes the list as its result says;
    * `run_keeps_list`        — so a collection is a list of records after every
                                run.
-/
import Mathlib.Data.List.InsertIdx
import DataAccess.Proofs.Document.FirstMatch
import DataAccess.Proofs.Relational.SameAnswers
import DataAccess.Sample.Documents

namespace DataAccess

/-! ## §1. Documents of records. -/

/-- Hooks of a record type that fit together: a record is read back from its
document, which has each field once, and all documents have the same fields in
the same order. -/
structure DocumentType.Lawful {α : Type} (D : DocumentType α) : Prop where
  roundTrip : ∀ a, (do D.ofDocument (← D.toDocument a)) = .ok a
  nodup : ∀ a d, D.toDocument a = .ok d → (Assoc.keys d).Nodup
  keys : ∀ a b d e, D.toDocument a = .ok d → D.toDocument b = .ok e → Assoc.keys d = Assoc.keys e

/-- **A query that sorts and cuts nothing** finds all documents for which its
conditions hold. -/
theorem DocumentStore.find_all [Pattern.Engine] [Sorter] {s : DocumentStore}
    (havailable : s.unavailable = false) {q : Query}
    (hcompiles : q.Compiles) (hprojection : q.projection = []) (hsort : q.sort = [])
    (hlimit : q.limit = 0) (hoffset : q.offset = 0) (name : String) :
    s.find name (FindRequest.ofQuery q)
      = some (.ok ((s.collection name).filter
          (·.holdsAll (Pattern.occurs Pattern.anyCase) q.conditions))) := by
  have hshape : q.shape = id := by
    funext d
    exact if_pos (List.isEmpty_iff.mpr hprojection)
  have hnokeys : (FindRequest.sortDocument q.sort).isEmpty = true := by
    rw [hsort]
    rfl
  rw [find_of_meets havailable fun d _ => Document.meets_of_compiled hcompiles d, hshape,
    Document.sortBy_of_isEmpty hnokeys, Option.map_some, List.map_id,
    Query.window_all hlimit hoffset]

namespace DocumentType

variable {α : Type} (D : DocumentType α)

/-- The document of a record. -/
def document (a : α) : Document := (D.toDocument a).toOption.getD []

/-- A record is one that a query asks for: in its document, the field of each
condition leads to a value that is as asked. -/
def Satisfies (q : Query) (a : α) : Prop :=
  ∃ d, D.toDocument a = .ok d
    ∧ ∀ c ∈ q.conditions.toList, ∃ x, d.Leads c.1.toList x ∧ c.2.Asks Pattern.anyCase x

variable {D}

theorem toDocument_eq (hD : D.Lawful) (a : α) : D.toDocument a = .ok (D.document a) := by
  have hround := hD.roundTrip a
  unfold document
  cases h : D.toDocument a with
  | error e =>
    rw [h] at hround
    cases hround
  | ok d => rfl

theorem ofDocument_document (hD : D.Lawful) (a : α) : D.ofDocument (D.document a) = .ok a := by
  have hround := hD.roundTrip a
  rw [toDocument_eq hD] at hround
  exact hround

/-- Writing the document of a record over that of another one replaces it. -/
theorem insertAll_document (hD : D.Lawful) (a b : α) :
    Assoc.insertAll (D.document b) (D.document a) = D.document a :=
  Assoc.insertAll_of_keys_eq (hD.keys b a _ _ (toDocument_eq hD b) (toDocument_eq hD a))
    (hD.nodup b _ (toDocument_eq hD b))

theorem satisfies_iff_exists {q : Query} {a : α} :
    (D.toDocument a).toOption.any (·.holdsAll (Pattern.occurs Pattern.anyCase) q.conditions) = true
      ↔ D.Satisfies q a := by
  unfold Satisfies
  cases D.toDocument a with
  | error e => simp [Except.toOption]
  | ok d => simpa [Except.toOption] using Document.holdsAll_iff

/-- Whether a record is asked for can be decided. -/
instance (q : Query) : DecidablePred (D.Satisfies q) :=
  fun _ => decidable_of_iff _ satisfies_iff_exists

/-- The conditions hold of the document of a record that is asked for. -/
theorem holdsAll_document (hD : D.Lawful) (q : Query) (a : α) :
    (D.document a).holdsAll (Pattern.occurs Pattern.anyCase) q.conditions
      = decide (D.Satisfies q a) := by
  rw [Bool.eq_iff_iff, decide_eq_true_iff, ← satisfies_iff_exists, toDocument_eq hD]
  rfl

/-! ## §2. Lists of records. -/

variable (D)

/-- The collection of a record type holds the documents of a list of records. -/
def Lists (s : DocumentStore) (as : List α) : Prop :=
  s.collection D.collection = as.map D.document

variable {D} {s : DocumentStore} {as : List α} {q : Query}

section Requests

variable [Pattern.Engine]

/-- A place that is found is that of the first record that is asked for. -/
theorem Lists.findIdx?_of_place (h : D.Lists s as) (hD : D.Lawful) {i : Nat}
    (hplace : s.place D.collection (FindRequest.filterDocument q.conditions) = .ok i) :
    as.findIdx? (D.Satisfies q ·) = some i := by
  unfold DocumentStore.place at hplace
  cases hready : s.ready with
  | error e =>
    rw [hready] at hplace
    cases hplace
  | ok u =>
    rw [hready] at hplace
    have hfound := Document.findIdx?_of_position hplace
    rw [h, List.findIdx?_map] at hfound
    simpa only [Function.comp_def, holdsAll_document hD] using hfound

/-- **The place that the three operations share** is that of the first record
that is asked for. -/
theorem Lists.place_eq (h : D.Lists s as) (hD : D.Lawful) (havailable : s.unavailable = false)
    (hcompiles : q.Compiles) :
    s.place D.collection (FindRequest.filterDocument q.conditions)
      = (as.findIdx? (D.Satisfies q ·)).elim (.error .noDocuments) .ok := by
  unfold DocumentStore.place
  rw [DocumentStore.ready_of_available havailable]
  show Document.position _ (s.collection D.collection) = _
  rw [Document.position_of_meets fun d _ => Document.meets_of_compiled hcompiles d, h,
    List.findIdx?_map]
  simp only [Function.comp_def, holdsAll_document hD]

end Requests

/-- A record put in its place has its document put there. -/
theorem modify_map_document (hD : D.Lawful) (as : List α) (i : Nat) (a : α) :
    (as.map D.document).modify i (fun d => Assoc.insertAll d (D.document a))
      = (as.set i a).map D.document := by
  induction as generalizing i with
  | nil => cases i <;> rfl
  | cons b as ih =>
    cases i with
    | zero =>
      show Assoc.insertAll (D.document b) (D.document a) :: as.map D.document = _
      rw [insertAll_document hD]
      rfl
    | succ i => exact congrArg (D.document b :: ·) (ih i)

/-- A store in which the documents of other records are put lists these. -/
theorem lists_setCollection {docs : List Document} (h : docs = as.map D.document) :
    D.Lists (s.setCollection D.collection docs) as := by
  rw [Lists, DocumentStore.collection_setCollection, if_pos rfl, h]

end DocumentType

/-- What is there after an operation: something new if it succeeded. -/
def Report.settle {β : Type} (r : Report Unit) (changed unchanged : β) : β :=
  match r.result with
  | .ok () => changed
  | .error _ => unchanged

namespace DocumentType

section Operations

variable {α : Type} {D : DocumentType α} {s : DocumentStore} {as : List α} {q : Query}

/-- An operation that fails leaves the list alone. -/
theorem Lists.changed (h : D.Lists s as) {x : Except DocumentError DocumentStore} {new : List α}
    (hnew : ∀ t, x = .ok t → D.Lists t new) (context : LogContext) (message : String) :
    D.Lists (Report.changed context .document message s x).2
      ((Report.changed context .document message s x).1.settle new as) := by
  cases x with
  | ok t => exact hnew t rfl
  | error e => exact h

theorem Lists.insert (h : D.Lists s as) (hD : D.Lawful) (a : α) :
    D.Lists (D.insert s a).2 ((D.insert s a).1.settle (as ++ [a]) as) := by
  unfold DocumentType.insert
  rw [toDocument_eq hD]
  refine h.changed (fun t ht => ?_) _ _
  rw [Lists, DocumentStore.collection_insert ht, if_pos rfl, h, List.map_append]
  rfl

section Changes

variable [Pattern.Engine]

/-- A change in the place that is found is one in the place of the first record
that is asked for. -/
theorem Lists.at_place (h : D.Lists s as) (hD : D.Lawful) {change : Nat → DocumentStore}
    {new : List α} (hnew : D.Lists (change (as.findIdx (D.Satisfies q ·))) new) :
    ∀ t, (s.place D.collection (FindRequest.filterDocument q.conditions)).map change = .ok t →
      D.Lists t new := by
  intro t ht
  cases hplace : s.place D.collection (FindRequest.filterDocument q.conditions) with
  | error e =>
    rw [hplace] at ht
    cases ht
  | ok i =>
    rw [hplace] at ht
    obtain ⟨-, rfl⟩ := List.findIdx?_eq_some_iff_findIdx_eq.mp (h.findIdx?_of_place hD hplace)
    cases ht
    exact hnew

/-- **An update replaces the first record that is asked for.** -/
theorem Lists.update (h : D.Lists s as) (hD : D.Lawful) (q : Query) (a : α) :
    D.Lists (D.update s q a).2
      ((D.update s q a).1.settle (as.set (as.findIdx (D.Satisfies q ·)) a) as) := by
  unfold DocumentType.update
  cases hr : FindRequest.translate q with
  | error e => exact h
  | ok r =>
    obtain ⟨-, rfl⟩ := FindRequest.translate_ok_iff.mp hr
    rw [toDocument_eq hD]
    refine h.changed (fun t ht => ?_) _ _
    have ht : s.update D.collection (FindRequest.filterDocument q.conditions) (D.document a)
      = .ok t := ht
    rw [DocumentStore.update_eq] at ht
    refine h.at_place hD (lists_setCollection ?_) t ht
    rw [h, modify_map_document hD]

/-- **A deletion removes the first record that is asked for.** -/
theorem Lists.delete (h : D.Lists s as) (hD : D.Lawful) (q : Query) :
    D.Lists (D.delete s q).2
      ((D.delete s q).1.settle (as.eraseIdx (as.findIdx (D.Satisfies q ·))) as) := by
  unfold DocumentType.delete
  cases hr : FindRequest.translate q with
  | error e => exact h
  | ok r =>
    obtain ⟨-, rfl⟩ := FindRequest.translate_ok_iff.mp hr
    refine h.changed (fun t ht => ?_) _ _
    rw [DocumentStore.delete_eq] at ht
    refine h.at_place hD (lists_setCollection ?_) t ht
    rw [h, List.eraseIdx_map]

end Changes

/-! ## §3. Answers. -/

/-- There is no such record. -/
def nothing : PersistenceError := .notFound (.document .noDocuments)

theorem findIdx?_eq_none_iff :
    as.findIdx? (D.Satisfies q ·) = none ↔ ¬ ∃ a ∈ as, D.Satisfies q a := by
  simp

section Answers

variable [Pattern.Engine]

/-- **Whether a change is made** is up to there being a record that is asked
for. -/
theorem Lists.result_changed (h : D.Lists s as) (hD : D.Lawful) (havailable : s.unavailable = false)
    (hcompiles : q.Compiles) (change : Nat → DocumentStore) (context : LogContext)
    (message : String) :
    (Report.changed context .document message s
        ((s.place D.collection (FindRequest.filterDocument q.conditions)).map change)).1.result
      = if ∃ a ∈ as, D.Satisfies q a then .ok () else .error nothing := by
  rw [h.place_eq hD havailable hcompiles]
  cases hi : as.findIdx? (D.Satisfies q ·) with
  | none =>
    rw [if_neg (findIdx?_eq_none_iff.mp hi)]
    rfl
  | some i =>
    rw [if_pos]
    · rfl
    · by_contra hno
      rw [findIdx?_eq_none_iff.mpr hno] at hi
      cases hi

omit [Pattern.Engine] in
theorem result_insert (hD : D.Lawful) (havailable : s.unavailable = false) (a : α) :
    (D.insert s a).1.result = .ok () := by
  unfold DocumentType.insert
  rw [toDocument_eq hD]
  show (Report.changed _ _ _ s (s.insert D.collection (D.document a))).1.result = .ok ()
  unfold DocumentStore.insert
  rw [DocumentStore.ready_of_available havailable]
  rfl

theorem Lists.result_update (h : D.Lists s as) (hD : D.Lawful) (havailable : s.unavailable = false)
    (hq : q.validate = .ok ()) (hcompiles : q.Compiles) (a : α) :
    (D.update s q a).1.result
      = if ∃ b ∈ as, D.Satisfies q b then .ok () else .error nothing := by
  unfold DocumentType.update
  rw [FindRequest.translate_ok_iff.mpr ⟨hq, rfl⟩]
  dsimp only
  rw [toDocument_eq hD]
  show (Report.changed _ _ _ s (s.update D.collection (FindRequest.filterDocument q.conditions)
    (D.document a))).1.result = _
  rw [DocumentStore.update_eq]
  exact h.result_changed hD havailable hcompiles _ _ _

theorem Lists.result_delete (h : D.Lists s as) (hD : D.Lawful) (havailable : s.unavailable = false)
    (hq : q.validate = .ok ()) (hcompiles : q.Compiles) :
    (D.delete s q).1.result = if ∃ b ∈ as, D.Satisfies q b then .ok () else .error nothing := by
  unfold DocumentType.delete
  rw [FindRequest.translate_ok_iff.mpr ⟨hq, rfl⟩]
  dsimp only
  rw [DocumentStore.delete_eq]
  exact h.result_changed hD havailable hcompiles _ _ _

/-- **What is found first** is the first record that is asked for. -/
theorem Lists.result_findOne (h : D.Lists s as) (hD : D.Lawful) (havailable : s.unavailable = false)
    (hq : q.validate = .ok ()) (hcompiles : q.Compiles) :
    (D.findOne s q).result = (as.find? (D.Satisfies q ·)).elim (.error nothing) .ok := by
  unfold DocumentType.findOne
  rw [FindRequest.translate_ok_iff.mpr ⟨hq, rfl⟩]
  dsimp only
  show (Report.ofExcept _ _ _ (do
    D.ofDocument (← s.findOne D.collection (FindRequest.filterDocument q.conditions)))).result = _
  rw [DocumentStore.findOne_eq, h.place_eq hD havailable hcompiles, h,
    List.find?_eq_bind_findIdx?_getElem?]
  cases hi : as.findIdx? (D.Satisfies q ·) with
  | none => rfl
  | some i =>
    obtain ⟨hlt, -⟩ := List.findIdx?_eq_some_iff_findIdx_eq.mp hi
    simp [hlt, ofDocument_document hD, Report.ofExcept, Report.done]

omit [Pattern.Engine] in
theorem mapM_ofDocument (hD : D.Lawful) (as : List α) :
    (as.map D.document).mapM D.ofDocument = .ok as := by
  induction as with
  | nil => rfl
  | cons a as ih =>
    rw [List.map_cons, List.mapM_cons, ofDocument_document hD, ih]
    rfl

omit [Pattern.Engine] in
theorem mapM_toDocument (hD : D.Lawful) (as : List α) :
    as.mapM D.toDocument = .ok (as.map D.document) := by
  induction as with
  | nil => rfl
  | cons a as ih =>
    rw [List.mapM_cons, toDocument_eq hD, ih]
    rfl

/-- **What is found** are all records that are asked for, if nothing is sorted
and nothing is cut. -/
theorem Lists.result_find [Sorter] (h : D.Lists s as) (hD : D.Lawful)
    (havailable : s.unavailable = false)
    (hq : q.validate = .ok ()) (hcompiles : q.Compiles) (hprojection : q.projection = [])
    (hsort : q.sort = []) (hlimit : q.limit = 0) (hoffset : q.offset = 0) :
    (D.find s q).map Report.result = some (.ok (as.filter (D.Satisfies q ·))) := by
  unfold DocumentType.find
  rw [FindRequest.translate_ok_iff.mpr ⟨hq, rfl⟩]
  dsimp only
  rw [DocumentStore.find_all havailable hcompiles hprojection hsort hlimit hoffset, h,
    List.filter_map]
  show some (Report.ofExcept _ _ _ ((List.map D.document _).mapM D.ofDocument)).result = _
  rw [mapM_ofDocument hD]
  simp only [Function.comp_def, holdsAll_document hD]
  rfl

end Answers

end Operations

end DocumentType

/-! ## §4. Runs. -/

/-- A call on the records of a collection, or on their store. -/
inductive DocumentCall (α : Type) where
  | insert (a : α)
  | findOne (q : Query)
  | find (q : Query)
  | update (q : Query) (a : α)
  | delete (q : Query)
  | setUnavailable (unavailable : Bool)

/-- A document store, and the list of records that the calls on it have left. -/
structure DocumentLedger (α : Type) where
  store : DocumentStore
  records : List α

namespace DocumentType

section Runs

variable [Pattern.Engine] {α : Type} (D : DocumentType α)

/-- Makes one call.  The list changes only if the call succeeds: a record is
added at the end, or takes the place of the first one that is asked for, or
this one is removed. -/
def call (l : DocumentLedger α) : DocumentCall α → DocumentLedger α
  | .insert a =>
      let r := D.insert l.store a
      ⟨r.2, r.1.settle (l.records ++ [a]) l.records⟩
  | .findOne _ => l
  | .find _ => l
  | .update q a =>
      let r := D.update l.store q a
      ⟨r.2, r.1.settle (l.records.set (l.records.findIdx (D.Satisfies q ·)) a) l.records⟩
  | .delete q =>
      let r := D.delete l.store q
      ⟨r.2, r.1.settle (l.records.eraseIdx (l.records.findIdx (D.Satisfies q ·))) l.records⟩
  | .setUnavailable b => ⟨{ l.store with unavailable := b }, l.records⟩

/-- Makes calls one after the other, where there are no records yet. -/
def run (s : DocumentStore) (calls : List (DocumentCall α)) : DocumentLedger α :=
  calls.foldl D.call ⟨s, []⟩

variable {D}

/-- **Every call keeps a collection the list of its records.** -/
theorem lists_call (hD : D.Lawful) {l : DocumentLedger α} (h : D.Lists l.store l.records)
    (c : DocumentCall α) : D.Lists (D.call l c).store (D.call l c).records := by
  cases c with
  | insert a => exact h.insert hD a
  | findOne q => exact h
  | find q => exact h
  | update q a => exact h.update hD q a
  | delete q => exact h.delete hD q
  | setUnavailable b => exact h

theorem lists_run (hD : D.Lawful) {s : DocumentStore} (hempty : s.collection D.collection = [])
    (calls : List (DocumentCall α)) : D.Lists (D.run s calls).store (D.run s calls).records :=
  List.foldlRecOn (motive := fun l : DocumentLedger α => D.Lists l.store l.records)
    calls D.call hempty fun _ h c _ => lists_call hD h c

/-- **A COLLECTION IS A LIST OF RECORDS.**  Let the hooks of a record type fit
together and its collection be empty.  Make any calls, with the store going
unavailable and coming back in between, and follow in a list of records the
changes that succeed.  The collection holds the documents of the list, in its
order.  While the store is available, every record can be added; and for a
query that makes sense, and whose patterns the machine takes,

  * what is found first is the first record of the list that it asks for;
  * an update and a deletion succeed if there is one;
  * if there is none, all three say that there is no such record;
  * and what is found are all records that it asks for, as they stand in the
    list, if it wants whole records and neither sorts nor cuts them. -/
theorem run_keeps_list [Sorter] (hD : D.Lawful) {s : DocumentStore}
    (hempty : s.collection D.collection = []) (calls : List (DocumentCall α)) :
    (D.run s calls).records.mapM D.toDocument = .ok ((D.run s calls).store.collection D.collection)
      ∧ ((D.run s calls).store.unavailable = false →
        (∀ a, (D.insert (D.run s calls).store a).1.result = .ok ())
        ∧ ∀ q : Query, q.validate = .ok () → q.Compiles →
          (D.findOne (D.run s calls).store q).result
              = ((D.run s calls).records.find? (D.Satisfies q ·)).elim (.error nothing) .ok
            ∧ (∀ a, (D.update (D.run s calls).store q a).1.result
              = if ∃ b ∈ (D.run s calls).records, D.Satisfies q b then .ok () else .error nothing)
            ∧ (D.delete (D.run s calls).store q).1.result
              = (if ∃ b ∈ (D.run s calls).records, D.Satisfies q b then .ok () else .error nothing)
            ∧ (q.projection = [] → q.sort = [] → q.limit = 0 → q.offset = 0 →
              (D.find (D.run s calls).store q).map Report.result
                = some (.ok ((D.run s calls).records.filter (D.Satisfies q ·))))) := by
  have h := lists_run hD hempty calls
  refine ⟨?_, fun havailable => ⟨result_insert hD havailable,
    fun q hq hcompiles => ⟨?_, ?_, ?_, ?_⟩⟩⟩
  · rw [mapM_toDocument hD, h]
  · exact h.result_findOne hD havailable hq hcompiles
  · exact h.result_update hD havailable hq hcompiles
  · exact h.result_delete hD havailable hq hcompiles
  · exact h.result_find hD havailable hq hcompiles

end Runs

end DocumentType

namespace Sample.Person

/-- The hooks of persons fit together. -/
theorem lawful : documentType.Lawful where
  roundTrip := by
    intro p
    show (ofDocument _).mapError DocumentError.decoding = .ok p
    rw [ofDocument_toDocument p rfl]
    rfl
  nodup := by
    intro p d h
    cases h
    show ["name", "status", "age"].Nodup
    decide
  keys := by
    intro p p' d e h h'
    cases h
    cases h'
    rfl

/-- The persons of a name. -/
def named (name : String) : Query := Query.empty.filter "name" (.equals (.text name))

/-- Persons that come and go; one deletion falls into an outage. -/
def calls : List (DocumentCall Person) :=
  [.insert ⟨"ada", "active", 30⟩, .insert ⟨"bob", "active", 17⟩, .setUnavailable true,
    .delete (named "bob"), .setUnavailable false, .update (named "ada") ⟨"ada", "away", 31⟩]

theorem compiles_named [Pattern.Engine] (name : String) : (named name).Compiles := by
  intro c hc pattern hp
  obtain rfl : c = ("name", .equals (.text name)) := List.mem_singleton.mp hc
  cases hp

/-- The record that was changed last is found, the one that an outage kept is
there, and nobody is deleted who never came. -/
theorem run_keeps_list_persons :
    documentType.Lawful ∧ DocumentStore.empty.collection documentType.collection = []
      ∧ (documentType.findOne (documentType.run .empty calls).store (named "ada")).result
        = .ok ⟨"ada", "away", 31⟩
      ∧ (documentType.find (documentType.run .empty calls).store (named "bob")).map Report.result
        = some (.ok [⟨"bob", "active", 17⟩])
      ∧ (documentType.delete (documentType.run .empty calls).store (named "cy")).1.result
        = .error DocumentType.nothing := by
  have hrecords : (documentType.run .empty calls).records
      = [⟨"ada", "away", 31⟩, ⟨"bob", "active", 17⟩] := by
    decide
  obtain ⟨-, hanswers⟩ := DocumentType.run_keeps_list lawful (s := .empty) rfl calls
  obtain ⟨-, hqueries⟩ := hanswers rfl
  refine ⟨lawful, rfl, ?_, ?_, ?_⟩
  · obtain ⟨hfirst, -⟩ := hqueries (named "ada") rfl (compiles_named "ada")
    rw [hfirst, hrecords]
    rfl
  · obtain ⟨-, -, -, hfind⟩ := hqueries (named "bob") rfl (compiles_named "bob")
    rw [hfind rfl rfl rfl rfl, hrecords]
    rfl
  · obtain ⟨-, -, hdelete, -⟩ := hqueries (named "cy") rfl (compiles_named "cy")
    rw [hdelete, hrecords, if_neg (by decide)]

end Sample.Person

end DataAccess
