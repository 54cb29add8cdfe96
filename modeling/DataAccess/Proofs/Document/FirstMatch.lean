/-
  DataAccess.Proofs.Document.FirstMatch — requests on the first match.

  The first document that matches a filter can be returned, written over or
  removed.  Each of the three requests looks for it with a scan of its own,
  and two of them change the collection while they are at it.  All scans stop
  in one place:

      first, updateFirst, deleteFirst  =  position, and an access there

  Telling whether a document matches can fail, and it fails for some documents
  and not for others.  A scan that comes to such a document goes no further, so
  a match behind it is none.

  Main statements:
    * `position_ok_iff`, `noMatch_of_position` — where the scans stop;
    * `first_eq`, `updateFirst_eq` — the scans that return and write over the
                                     first match;
    * `inPlace_eq`              — a request that fails leaves the store alone;
    * `written_insertAll`       — what writing over a document makes of it;
    * `first_match_requests`    — the requests act on one and the same document.
-/
import DataAccess.Document.Store
import DataAccess.Proofs.Document.Request
import DataAccess.Sample.Engines

namespace DataAccess

/-! ## §1. The first match. -/

namespace Document

variable [Pattern.Engine] {filter d d' : Document} {docs : List Document} {i : Nat}

/-- A document is the first match in its place: it matches, and the documents
before it are told not to. -/
structure FirstMatch (filter : Document) (docs : List Document) (i : Nat) (d : Document) :
    Prop where
  found : docs[i]? = some d
  isMatch : d.meets filter = .ok true
  before : ∀ j d', j < i → docs[j]? = some d' → d'.meets filter = .ok false

/-- What is wrong where there is no first match: all documents are told not to
match, or the first one that is not fails to be told. -/
inductive NoMatch (filter : Document) (docs : List Document) : DocumentError → Prop where
  | absent (h : ∀ d ∈ docs, d.meets filter = .ok false) : NoMatch filter docs .noDocuments
  | failing {i : Nat} {d : Document} {e : DocumentError} (found : docs[i]? = some d)
      (fails : d.meets filter = .error e)
      (before : ∀ j d', j < i → docs[j]? = some d' → d'.meets filter = .ok false) :
      NoMatch filter docs e

theorem firstMatch_zero_iff :
    FirstMatch filter (d :: docs) 0 d' ↔ d = d' ∧ d.meets filter = .ok true := by
  constructor
  · intro h
    obtain rfl : d = d' := Option.some.inj h.found
    exact ⟨rfl, h.isMatch⟩
  · intro h
    obtain ⟨rfl, hmeets⟩ := h
    exact ⟨rfl, hmeets, fun j _ hj => absurd hj (Nat.not_lt_zero j)⟩

/-- A document that is told not to match stands before everything behind it. -/
theorem before_succ_iff :
    (∀ j d', j < i + 1 → (d :: docs)[j]? = some d' → d'.meets filter = .ok false)
      ↔ d.meets filter = .ok false
        ∧ ∀ j d', j < i → docs[j]? = some d' → d'.meets filter = .ok false := by
  constructor
  · intro h
    exact ⟨h 0 d (Nat.succ_pos i) rfl, fun j d' hj => h (j + 1) d' (Nat.succ_lt_succ hj)⟩
  · intro h j d' hj hd'
    cases j with
    | zero =>
      obtain rfl : d = d' := Option.some.inj hd'
      exact h.1
    | succ j => exact h.2 j d' (Nat.lt_of_succ_lt_succ hj) hd'

theorem firstMatch_succ_iff :
    FirstMatch filter (d :: docs) (i + 1) d'
      ↔ d.meets filter = .ok false ∧ FirstMatch filter docs i d' := by
  constructor
  · intro h
    obtain ⟨hfalse, hbefore⟩ := before_succ_iff.mp h.before
    exact ⟨hfalse, h.found, h.isMatch, hbefore⟩
  · intro h
    obtain ⟨hfalse, hmatch⟩ := h
    exact ⟨hmatch.found, hmatch.isMatch, before_succ_iff.mpr ⟨hfalse, hmatch.before⟩⟩

/-- What is wrong with the documents behind one that is told not to match is
wrong with all of them. -/
theorem NoMatch.cons {e : DocumentError} (h : NoMatch filter docs e)
    (hd : d.meets filter = .ok false) : NoMatch filter (d :: docs) e := by
  cases h with
  | absent h => exact .absent (List.forall_mem_cons.mpr ⟨hd, h⟩)
  | @failing i _ _ found fails before =>
    exact .failing (i := i + 1) found fails (before_succ_iff.mpr ⟨hd, before⟩)

/-! ## §2. Scans. -/

theorem position_cons (filter d : Document) (docs : List Document) :
    position filter (d :: docs)
      = d.meets filter >>= fun b =>
          if b then .ok 0 else (position filter docs).map (· + 1) := by
  rw [position]
  cases d.meets filter with
  | error e => rfl
  | ok b =>
    cases b with
    | true => rfl
    | false => cases position filter docs <;> rfl

/-- **A place that is found is that of the first match.** -/
theorem position_ok_iff : position filter docs = .ok i ↔ ∃ d, FirstMatch filter docs i d := by
  induction docs generalizing i with
  | nil => exact iff_of_false (fun h => nomatch h) (fun ⟨d, h⟩ => nomatch h.found)
  | cons d docs ih =>
    rw [position_cons]
    -- the first document is the match, or it is told not to match and the scan goes on
    cases i with
    | zero =>
      simp only [firstMatch_zero_iff, exists_eq_left']
      cases d.meets filter with
      | error e => exact iff_of_false (fun h => nomatch h) (fun h => nomatch h)
      | ok b =>
        cases b with
        | true => exact iff_of_true rfl rfl
        | false =>
          refine iff_of_false (fun h => ?_) (fun h => nomatch h)
          cases hp : position filter docs with
          | error e => simp [hp] at h
          | ok i => simp [hp] at h
    | succ i =>
      simp only [firstMatch_succ_iff, exists_and_left, ← ih]
      cases d.meets filter with
      | error e => exact iff_of_false (fun h => nomatch h) (fun h => nomatch h.1)
      | ok b =>
        cases b with
        | true => exact iff_of_false (fun h => nomatch h) (fun h => nomatch h.1)
        | false => cases hp : position filter docs <;> simp

/-- **A place that is not found** is missing for a reason. -/
theorem noMatch_of_position {e : DocumentError} (h : position filter docs = .error e) :
    NoMatch filter docs e := by
  induction docs with
  | nil =>
    cases h
    exact .absent (List.forall_mem_nil _)
  | cons d docs ih =>
    rw [position_cons] at h
    cases hd : d.meets filter with
    | error e' =>
      rw [hd] at h
      cases h
      exact .failing (i := 0) rfl hd fun j _ hj => absurd hj (Nat.not_lt_zero j)
    | ok b =>
      rw [hd] at h
      cases b with
      | true => cases h
      | false =>
        -- what is wrong is wrong with the documents behind
        cases hp : position filter docs with
        | error e' =>
          rw [hp] at h
          cases h
          exact (ih hp).cons hd
        | ok i =>
          rw [hp] at h
          cases h

/-- The first document of which something holds that a filter tells. -/
theorem position_of_meets {p : Document → Bool}
    (h : ∀ d ∈ docs, d.meets filter = .ok (p d)) :
    position filter docs = (docs.findIdx? p).elim (.error .noDocuments) .ok := by
  induction docs with
  | nil => rfl
  | cons d docs ih =>
    rw [position, h d List.mem_cons_self, ih fun d' hd' => h d' (List.mem_cons_of_mem _ hd'),
      List.findIdx?_cons]
    cases p d with
    | true => rfl
    | false => cases docs.findIdx? p <;> rfl

/-- A place that is found is that of the first document for which the conditions
hold. -/
theorem findIdx?_of_position {cs : ConditionSet}
    (h : position (FindRequest.filterDocument cs) docs = .ok i) :
    docs.findIdx? (·.holdsAll (Pattern.occurs Pattern.anyCase) cs) = some i := by
  obtain ⟨d, hfirst⟩ := position_ok_iff.mp h
  obtain ⟨hlt, rfl⟩ := List.getElem?_eq_some_iff.mp hfirst.found
  refine List.findIdx?_eq_some_iff_getElem.mpr ⟨hlt, holdsAll_of_meets hfirst.isMatch, ?_⟩
  intro j hj
  have hmeets := hfirst.before j _ hj (List.getElem?_eq_getElem (Nat.lt_trans hj hlt))
  rw [holdsAll_of_meets hmeets]
  exact Bool.false_ne_true

/-- What comes of a change in a place, if there is one, and what is left. -/
def atPlace {α : Type} (place : Except DocumentError Nat) (changed : Nat → α) (kept : α) :
    Except DocumentError Unit × α :=
  match place with
  | .ok i => (.ok (), changed i)
  | .error e => (.error e, kept)

/-- The document that is returned is the one in the place of the first match. -/
theorem first_eq (filter : Document) (docs : List Document) :
    first filter docs
      = position filter docs >>= fun i => (docs[i]?).elim (.error .noDocuments) .ok := by
  induction docs with
  | nil => rfl
  | cons d docs ih =>
    rw [position_cons, first]
    cases d.meets filter with
    | error e => rfl
    | ok b =>
      cases b with
      | true => rfl
      | false =>
        -- both scans go on, and places move by one
        show first filter docs = _
        rw [ih]
        cases position filter docs <;> rfl

/-- The document that is written over is the one in the place of the first
match. -/
theorem updateFirst_eq (filter changes : Document) (docs : List Document) :
    updateFirst filter changes docs
      = atPlace (position filter docs) (fun i => docs.modify i fun d => Assoc.insertAll d changes)
          docs := by
  induction docs with
  | nil => rfl
  | cons d docs ih =>
    rw [position_cons, updateFirst]
    cases d.meets filter with
    | error e => rfl
    | ok b =>
      cases b with
      | true => rfl
      | false =>
        -- the document stays in front of what the scan leaves of the others
        dsimp only
        rw [ih]
        cases position filter docs <;> rfl

theorem deleteFirst_eq (filter : Document) (docs : List Document) :
    deleteFirst filter docs = atPlace (position filter docs) docs.eraseIdx docs := by
  unfold deleteFirst
  cases position filter docs <;> rfl

/-! ## §3. Documents that are written over. -/

/-- Fields were written into a document one by one: its own keys keep their
places, the new ones follow, and of the values of a key the last one is
read. -/
structure Written (d changes d' : Document) : Prop where
  keys : Assoc.keys d'
    = Assoc.keys d ++ ((Assoc.keys changes).filter fun key => key ∉ Assoc.keys d).eraseDups
  values : ∀ key, Assoc.find? d' key = (Assoc.find? changes.reverse key).or (Assoc.find? d key)

omit [Pattern.Engine] in
/-- **What writing over a document makes of it.** -/
theorem written_insertAll (d changes : Document) : Written d changes (Assoc.insertAll d changes) :=
  ⟨Assoc.keys_insertAll d changes, Assoc.find?_insertAll d changes⟩

end Document

/-! ## §4. Requests. -/

namespace DocumentStore

section Requests

variable [Pattern.Engine] (s : DocumentStore) (name : String) (filter : Document)

/-- The place of the first document that matches, in a store that is
available. -/
def place (s : DocumentStore) (name : String) (filter : Document) : Except DocumentError Nat := do
  s.ready
  Document.position filter (s.collection name)

/-- **The three requests on the first match share its place.** -/
theorem findOne_eq :
    s.findOne name filter = s.place name filter >>= fun i =>
      ((s.collection name)[i]?).elim (.error .noDocuments) .ok := by
  unfold findOne place
  cases s.ready with
  | error e => rfl
  | ok u => exact Document.first_eq filter (s.collection name)

/-- **A request that fails leaves the store alone**, and the others change the
collection in the place of the first match. -/
theorem inPlace_eq {work : List Document → Except DocumentError Unit × List Document}
    {change : List Document → Nat → List Document}
    (hwork : ∀ docs,
      work docs = Document.atPlace (Document.position filter docs) (change docs) docs) :
    s.inPlace name work
      = Document.atPlace (s.place name filter)
          (fun i => s.setCollection name (change (s.collection name) i)) s := by
  unfold inPlace place collection
  cases s.ready with
  | error e => rfl
  | ok u =>
    cases hdocs : Assoc.find? s.collections name with
    | none => rfl
    | some docs =>
      -- documents that are left as they are go back to where they came from
      have hsame : s.setCollection name docs = s := by
        unfold setCollection
        rw [Assoc.insert_of_find? hdocs]
      dsimp only
      rw [hwork]
      show _ = Document.atPlace (Document.position filter docs) _ s
      cases Document.position filter docs with
      | error e => exact congrArg (Prod.mk _) hsame
      | ok i => rfl

theorem updateInPlace_eq (changes : Document) :
    s.updateInPlace name filter changes
      = Document.atPlace (s.place name filter) (fun i => s.setCollection name
          ((s.collection name).modify i fun d => Assoc.insertAll d changes)) s :=
  s.inPlace_eq name filter (Document.updateFirst_eq filter changes)

theorem deleteInPlace_eq :
    s.deleteInPlace name filter
      = Document.atPlace (s.place name filter)
          (fun i => s.setCollection name ((s.collection name).eraseIdx i)) s :=
  s.inPlace_eq name filter (Document.deleteFirst_eq filter)

omit [Pattern.Engine] in
theorem left_atPlace (r : Except DocumentError Nat) (changed : Nat → DocumentStore) :
    left (Document.atPlace r changed s) = r.map changed := by
  cases r <;> rfl

theorem update_eq (changes : Document) :
    s.update name filter changes = (s.place name filter).map fun i =>
      s.setCollection name ((s.collection name).modify i fun d => Assoc.insertAll d changes) := by
  unfold update
  rw [updateInPlace_eq, left_atPlace]

theorem delete_eq :
    s.delete name filter = (s.place name filter).map fun i =>
      s.setCollection name ((s.collection name).eraseIdx i) := by
  unfold delete
  rw [deleteInPlace_eq, left_atPlace]

/-- A store differs from another one in the documents of a collection, and in
nothing else. -/
structure DiffersIn (s : DocumentStore) (name : String) (docs : List Document)
    (t : DocumentStore) : Prop where
  collection : t.collection name = docs
  others : ∀ other, other ≠ name → Assoc.find? t.collections other = Assoc.find? s.collections other
  unavailable : t.unavailable = s.unavailable

omit [Pattern.Engine] in
theorem differsIn_setCollection (docs : List Document) :
    s.DiffersIn name docs (s.setCollection name docs) where
  collection := by rw [collection_setCollection, if_pos rfl]
  others other hother := by
    unfold setCollection
    rw [Assoc.find?_insert, if_neg (Ne.symm hother)]
  unavailable := rfl

/-- What is wrong with a request on the first match. -/
inductive Refuses (s : DocumentStore) (name : String) (filter : Document) :
    DocumentError → Prop where
  | unavailable (h : s.unavailable = true) :
      Refuses s name filter (.connection "document store unavailable")
  | noMatch {e : DocumentError} (h : s.unavailable = false)
      (he : Document.NoMatch filter (s.collection name) e) : Refuses s name filter e

/-- A request that finds no place fails for a reason. -/
theorem refuses_of_place {e : DocumentError} (h : s.place name filter = .error e) :
    s.Refuses name filter e := by
  unfold place at h
  cases hs : s.unavailable with
  | true =>
    unfold ready at h
    rw [hs] at h
    cases h
    exact .unavailable hs
  | false =>
    rw [ready_of_available hs] at h
    exact .noMatch hs (Document.noMatch_of_position h)

/-- **REQUESTS ON THE FIRST MATCH.**  In a store that is available, let a
document be the first match of a filter in its collection.  Then it is what is
returned; an update writes the changes over it and a deletion removes it, and
neither does anything else to the store.

In every other case the three requests fail, all with the same error, and leave
the store as it is.  The error tells that the store is not available, or why
there is no first match: none of the documents matches, as in a collection that
is not there, or the filter cannot be told of one before any matches. -/
theorem first_match_requests (changes : Document) :
    (∀ i d, s.unavailable = false → Document.FirstMatch filter (s.collection name) i d →
        s.findOne name filter = .ok d
          ∧ (∃ d' t, d.Written changes d' ∧ s.updateInPlace name filter changes = (.ok (), t)
            ∧ s.DiffersIn name ((s.collection name).set i d') t)
          ∧ ∃ t, s.deleteInPlace name filter = (.ok (), t)
            ∧ s.DiffersIn name ((s.collection name).eraseIdx i) t)
      ∧ ((s.unavailable = true ∨ ¬ ∃ i d, Document.FirstMatch filter (s.collection name) i d) →
        ∃ e, s.Refuses name filter e ∧ s.findOne name filter = .error e
          ∧ s.updateInPlace name filter changes = (.error e, s)
          ∧ s.deleteInPlace name filter = (.error e, s)) := by
  rw [findOne_eq, updateInPlace_eq, deleteInPlace_eq]
  constructor
  · intro i d hs hfirst
    have hplace : s.place name filter = .ok i := by
      unfold place
      rw [ready_of_available hs]
      exact Document.position_ok_iff.mpr ⟨d, hfirst⟩
    have hmodify : (s.collection name).modify i (fun d => Assoc.insertAll d changes)
        = (s.collection name).set i (Assoc.insertAll d changes) := by
      rw [List.modify_eq_set, hfirst.found]
      rfl
    rw [hplace]
    refine ⟨?_, ⟨_, _, Document.written_insertAll d changes, rfl, ?_⟩, _, rfl, ?_⟩
    · show ((s.collection name)[i]?).elim _ _ = _
      rw [hfirst.found]
      rfl
    · rw [← hmodify]
      exact s.differsIn_setCollection name _
    · exact s.differsIn_setCollection name _
  · intro hnone
    cases hplace : s.place name filter with
    | error e => exact ⟨e, s.refuses_of_place name filter hplace, rfl, rfl, rfl⟩
    | ok i =>
      -- a place is found only in a store that is available
      exfalso
      unfold place at hplace
      cases hs : s.unavailable with
      | true =>
        unfold ready at hplace
        rw [hs] at hplace
        cases hplace
      | false =>
        rw [ready_of_available hs] at hplace
        obtain ⟨d, hfirst⟩ := Document.position_ok_iff.mp hplace
        rw [hs] at hnone
        exact (hnone.resolve_left Bool.false_ne_true) ⟨i, d, hfirst⟩

end Requests

/-- Fruit, of which the first kind has run out. -/
def fruitStore : DocumentStore :=
  ⟨[("tools", [[("kind", .string "spade")]]),
    ("fruit", [
      [("kind", .string "pear"), ("left", .int32 0)],
      [("kind", .string "fig"), ("left", .int32 4)],
      [("kind", .string "plum"), ("left", .int64 9)]])], false⟩

/-- What is left of a kind. -/
def leftFilter : Document := [("left", .document [("$gt", .int32 0)])]

/-- What is left, and asked for in a way that nothing is told of. -/
def nearFilter : Document := leftFilter ++ [("kind", .document [("$near", .string "fig")])]

open DataAccess.Sample in
/-- The first kind that is left is found, and an operator that is not known is
met after a document that does not match. -/
theorem first_match_requests_fruit :
    (Document.FirstMatch leftFilter (fruitStore.collection "fruit") 1
        [("kind", .string "fig"), ("left", .int32 4)]
      ∧ fruitStore.findOne "fruit" leftFilter
          = .ok [("kind", .string "fig"), ("left", .int32 4)]
      ∧ (∃ d' t, Document.Written [("kind", .string "fig"), ("left", .int32 4)]
            [("price", .double 1.5), ("left", .int32 3)] d'
          ∧ fruitStore.updateInPlace "fruit" leftFilter
              [("price", .double 1.5), ("left", .int32 3)] = (.ok (), t)
          ∧ fruitStore.DiffersIn "fruit" ((fruitStore.collection "fruit").set 1 d') t)
      ∧ ∃ t, fruitStore.deleteInPlace "fruit" leftFilter = (.ok (), t)
          ∧ fruitStore.DiffersIn "fruit" ((fruitStore.collection "fruit").eraseIdx 1) t)
    ∧ ∃ e, fruitStore.Refuses "fruit" nearFilter e
        ∧ fruitStore.findOne "fruit" nearFilter = .error e
        ∧ fruitStore.updateInPlace "fruit" nearFilter [] = (.error e, fruitStore)
        ∧ fruitStore.deleteInPlace "fruit" nearFilter = (.error e, fruitStore) := by
  have hfirst : Document.FirstMatch leftFilter (fruitStore.collection "fruit") 1
      [("kind", .string "fig"), ("left", .int32 4)] := by
    refine ⟨rfl, rfl, fun j d' hj hd' => ?_⟩
    obtain rfl : j = 0 := by omega
    cases hd'
    rfl
  have hnone : ¬ ∃ i d, Document.FirstMatch nearFilter (fruitStore.collection "fruit") i d := by
    intro ⟨i, hplace⟩
    have hstop : Document.position nearFilter (fruitStore.collection "fruit")
      = .error (.unsupportedOperator "$near") := rfl
    have hfound := Document.position_ok_iff.mpr hplace
    rw [hstop] at hfound
    cases hfound
  exact ⟨⟨hfirst, (first_match_requests fruitStore "fruit" leftFilter
      [("price", .double 1.5), ("left", .int32 3)]).1 1 _ rfl hfirst⟩,
    (first_match_requests fruitStore "fruit" nearFilter []).2 (.inr hnone)⟩

end DocumentStore

end DataAccess
