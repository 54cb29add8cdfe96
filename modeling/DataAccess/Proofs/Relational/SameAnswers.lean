/-
  DataAccess.Proofs.Relational.SameAnswers — one query, two stores, the same
  answers.

  The relational store filters rows, always sorts them, and cuts and projects
  them with its own means; the document store works from a request that was
  translated from the query, sorts only if it is asked to, and restricts
  documents by the keys of a document.  Rows that become documents at the
  start or at the end make no difference.

  Main statements:
    * `toDocument_project`      — a projected row is a restricted document;
    * `restrict_keys_ofList`    — a name that is repeated restricts once;
    * `find_of_meets`           — what a document store finds, said outright;
    * `select_same_as_find`     — both stores give the same answers.
-/
import DataAccess.Document.Store
import DataAccess.Proofs.Relational.Select
import Mathlib.Data.List.Induction

namespace DataAccess

/-! ## §1. Restricted documents. -/

namespace Document

/-- Adds a field of a document to others, if it has the field. -/
def copy (d acc : Document) (name : String) : Document :=
  match Assoc.find? d name with
  | some x => Assoc.insert acc name x
  | none => acc

theorem restrict_concat (d : Document) (names : List String) (name : String) :
    d.restrict (names ++ [name]) = d.copy (d.restrict names) name := by
  rw [restrict, List.foldl_append]
  rfl

/-- A restriction has the fields that are named. -/
theorem find?_restrict (d : Document) (names : List String) (name : String) :
    Assoc.find? (d.restrict names) name = if name ∈ names then Assoc.find? d name else none := by
  induction names using List.reverseRecOn with
  | nil => rfl
  | append_singleton names n ih =>
    rw [restrict_concat]
    unfold copy
    cases hn : Assoc.find? d n with
    | none =>
      simp only [ih, List.mem_append, List.mem_singleton]
      by_cases he : name = n
      · subst he
        simp [hn]
      · simp [he]
    | some x =>
      simp only [Assoc.find?_insert, ih, List.mem_append, List.mem_singleton]
      by_cases he : n = name
      · subst he
        simp [hn]
      · have he' : ¬ name = n := fun h => he h.symm
        simp [he, he']

/-- Copying a field once more changes nothing. -/
theorem copy_restrict_of_mem (d : Document) {names : List String} {name : String}
    (h : name ∈ names) : d.copy (d.restrict names) name = d.restrict names := by
  unfold copy
  split
  · next x hx =>
    apply Assoc.insert_of_find?
    rw [find?_restrict, if_pos h, hx]
  · rfl

/-- **A name that is repeated restricts once.** -/
theorem restrict_keys_ofList (d : Document) (mark : Datum) (names : List String) :
    d.restrict (Assoc.keys (Assoc.ofList (names.map fun n => (n, mark)))) = d.restrict names := by
  induction names using List.reverseRecOn with
  | nil => rfl
  | append_singleton names n ih =>
    have hkeys : Assoc.keys (names.map fun n => (n, mark)) = names := by
      rw [Assoc.keys, List.map_map]
      exact List.map_id names
    rw [List.map_append, List.map_singleton, Assoc.ofList_concat, Assoc.keys_insert,
      restrict_concat]
    split
    · next hmem =>
      -- the name is there already, and its field has been copied
      rw [Assoc.mem_keys_ofList, hkeys] at hmem
      rw [ih, copy_restrict_of_mem d hmem]
    · rw [restrict_concat, ih]

end Document

/-- **A projected row is a restricted document.** -/
theorem Row.toDocument_project {r : Row} (hr : (Assoc.keys r.cells).Nodup)
    (columns : List Column) :
    (r.project columns).toDocument = r.toDocument.restrict (columns.map (·.name)) := by
  induction columns using List.reverseRecOn with
  | nil => rfl
  | append_singleton columns c ih =>
    rw [List.map_append, List.map_singleton, Document.restrict_concat, ← ih]
    unfold Document.copy
    rw [find?_toDocument, last?_eq_find? hr]
    cases hc : r.find? c.name with
    | none => simp [project, hc]
    | some v => simp [project, hc, toDocument, Assoc.ofList_concat]

/-! ## §2. What a document store finds. -/

section Finding

variable [Pattern.Engine] [Sorter]

omit [Sorter] in
/-- Documents that can be told apart by a filter are filtered by it. -/
theorem Document.matching_eq {filter : Document} {f : Document → Bool} {docs : List Document}
    (h : ∀ d ∈ docs, d.meets filter = .ok (f d)) :
    Document.matching filter docs = .ok (docs.filter f) := by
  induction docs with
  | nil => rfl
  | cons d docs ih =>
    have hrest := ih fun d' hd' => h d' (List.mem_cons_of_mem _ hd')
    rw [Document.matching, h d List.mem_cons_self, hrest, List.filter_cons]
    cases f d <;> rfl

omit [Pattern.Engine] in
/-- Sorting may be left out if there are no keys to sort by. -/
theorem Document.sortBy_of_isEmpty {sort : Document} (h : sort.isEmpty = true)
    (docs : List Document) : Document.sortBy sort docs = some docs := by
  rw [List.isEmpty_iff.mp h]
  exact Sorter.sort_of_level fun _ _ _ _ => rfl

omit [Pattern.Engine] [Sorter] in
/-- The window of a request is that of the query. -/
theorem DocumentStore.window_ofQuery (q : Query) (docs : List Document) :
    DocumentStore.window (FindRequest.ofQuery q) docs = q.window docs := by
  have hskip : (FindRequest.ofQuery q).skip.getD 0 = q.offset.toInt.toNat := by
    show (if 0 < q.offset.toInt then some q.offset.toInt.toNat else none).getD 0 = _
    split
    · rfl
    · show 0 = _
      omega
  unfold DocumentStore.window Query.window
  rw [hskip]
  by_cases h : 0 < q.limit.toInt
  · have hlimit : (FindRequest.ofQuery q).limit = some q.limit := if_pos h
    have hnot : ¬ q.limit.toInt < 0 := by omega
    simp only [hlimit, if_pos h, if_neg hnot]
  · have hlimit : (FindRequest.ofQuery q).limit = none := if_neg h
    simp only [hlimit, if_neg h]

omit [Pattern.Engine] [Sorter] in
/-- A window on answers that are changed one by one. -/
theorem Query.window_map {α β : Type} (q : Query) (f : α → β) (answers : List α) :
    q.window (answers.map f) = (q.window answers).map f := by
  unfold Query.window
  split
  · simp only [List.map_drop, List.map_take]
  · simp only [List.map_drop]

omit [Pattern.Engine] [Sorter] in
/-- Without patterns, rows are put to the filter that documents are put to. -/
theorem rowFilter_of_plain {cs : ConditionSet}
    (h : ∀ c ∈ cs.toList, ∀ pattern, c.2 ≠ .like pattern) :
    rowFilter cs = FindRequest.filterDocument cs := by
  rw [rowFilter_eq, Document.filterDocument_eq]
  refine List.map_congr_left fun c hc => ?_
  have hplain := h c hc
  obtain ⟨field, p⟩ := c
  cases p with
  | like pattern => exact absurd rfl (hplain pattern)
  | _ => rfl

/-- What a query wants of a document: all of it, or the fields that it
projects. -/
def Query.shape (q : Query) (d : Document) : Document :=
  if q.projection.isEmpty then d else d.restrict q.projection

omit [Pattern.Engine] in
/-- **What a request for a query makes of documents**, given those that meet
the conditions. -/
theorem DocumentStore.arrange_ofQuery (q : Query) (found : List Document) :
    arrange (FindRequest.ofQuery q) found
      = (Document.sortBy (FindRequest.sortDocument q.sort) found).map fun sorted =>
          (q.window sorted).map q.shape := by
  -- sorting only if there are keys is the same as sorting always
  have hsorted : ordered (FindRequest.ofQuery q) found
      = Document.sortBy (FindRequest.sortDocument q.sort) found := by
    unfold ordered
    split
    · next h => exact (Document.sortBy_of_isEmpty h found).symm
    · rfl
  -- a document is restricted to the names of the projection, if there are any
  have hshape : shape (FindRequest.ofQuery q) = q.shape := by
    funext d
    unfold shape Query.shape
    cases hprojection : q.projection.isEmpty with
    | true =>
      have hnone : (FindRequest.ofQuery q).projection = none := if_pos hprojection
      simp only [hnone, if_true]
    | false =>
      have hsome : (FindRequest.ofQuery q).projection
          = some (Assoc.ofList (q.projection.map fun f => (f, .int32 1))) :=
        if_neg (Bool.eq_false_iff.mp hprojection)
      simp only [hsome, if_neg Bool.false_ne_true, Document.restrict_keys_ofList]
  rw [arrange, hsorted, hshape]
  simp only [window_ofQuery]

/-- **What a document store finds**, if it can be told which documents the
conditions of a query hold for. -/
theorem DocumentStore.find_of_meets {t : DocumentStore} {collection : String} {q : Query}
    {p : Document → Bool} (hready : t.unavailable = false)
    (hmeets : ∀ d ∈ t.collection collection,
      d.meets (FindRequest.filterDocument q.conditions) = .ok (p d)) :
    t.find collection (FindRequest.ofQuery q)
      = (Document.sortBy (FindRequest.sortDocument q.sort)
          ((t.collection collection).filter p)).map fun sorted =>
            .ok ((q.window sorted).map q.shape) := by
  have hmatching : t.matching collection (FindRequest.ofQuery q).filter
      = .ok ((t.collection collection).filter p) := by
    rw [matching, ready_of_available hready]
    exact Document.matching_eq hmeets
  rw [find, hmatching]
  simp only [arrange_ofQuery, Option.map_map]
  rfl

/-- What it finds for a query without patterns that wants some fields only. -/
theorem DocumentStore.find_eq {q : Query} (t : DocumentStore) (collection : String)
    (hready : t.unavailable = false)
    (hplain : ∀ c ∈ q.conditions.toList, ∀ pattern, c.2 ≠ .like pattern)
    (hprojection : q.projection ≠ []) :
    t.find collection (FindRequest.ofQuery q)
      = (Document.sortBy (FindRequest.sortDocument q.sort)
          ((t.collection collection).filter fun d => d.holdsAll Sql.like q.conditions)).map
            fun sorted => .ok ((q.window sorted).map (·.restrict q.projection)) := by
  have hmeets : ∀ d ∈ t.collection collection, d.meets (FindRequest.filterDocument q.conditions)
      = .ok (d.holdsAll Sql.like q.conditions) := by
    intro d _
    rw [← rowFilter_of_plain hplain, rowFilter_eq]
    exact Document.meets_map fun c hc =>
      isAsExpected_rowDatum (fun pattern hp => absurd hp (hplain c hc pattern)) _
  have hshape : q.shape = (·.restrict q.projection) := by
    funext d
    exact if_neg (by simpa using hprojection)
  rw [find_of_meets hready hmeets, hshape]

end Finding

/-! ## §3. Rows and documents. -/

/-- **Rows that are in an order are sorted as their documents are.** -/
theorem Row.sortBy_toDocument [Sorter] {q : Query} {rows : List Row} (h : q.Orders rows) :
    ∃ sorted : List Row, sorted.Perm rows ∧ Row.sortBy q.sort rows = some sorted
      ∧ Document.sortBy (FindRequest.sortDocument q.sort) (rows.map Row.toDocument)
        = some (sorted.map Row.toDocument) := by
  have hdocuments : ConsistentOn (Document.compareBy (FindRequest.sortDocument q.sort))
      (rows.map Row.toDocument) := (consistentOn_map _ _ _).mpr h
  have hsorted : Sorter.sort (fun a b : Row =>
      Document.compareBy (FindRequest.sortDocument q.sort) a.toDocument b.toDocument) rows = _ :=
    Row.sortBy_of_orders h
  refine ⟨_, List.mergeSort_perm _ _, hsorted, ?_⟩
  rw [Document.sortBy, Sorter.sort_map hdocuments, hsorted]
  rfl

theorem Query.mem_of_mem_window {α : Type} {q : Query} {answers : List α} {a : α}
    (h : a ∈ q.window answers) : a ∈ answers := by
  unfold window at h
  split at h
  · exact List.mem_of_mem_drop (List.mem_of_mem_take h)
  · exact List.mem_of_mem_drop h

/-- **What a query makes of rows is what it makes of their documents.** -/
theorem Query.map_toDocument_window (q : Query) {rows : List Row}
    (hrows : ∀ r ∈ rows, (Assoc.keys r.cells).Nodup) (columns : List Column) :
    ((q.window rows).map (·.project columns)).map Row.toDocument
      = (q.window (rows.map Row.toDocument)).map (·.restrict (columns.map (·.name))) := by
  have hproject : ∀ r ∈ q.window rows,
      (r.project columns).toDocument = r.toDocument.restrict (columns.map (·.name)) :=
    fun r hr => Row.toDocument_project (hrows r (mem_of_mem_window hr)) columns
  calc ((q.window rows).map (·.project columns)).map Row.toDocument
      = (q.window rows).map fun r => (r.project columns).toDocument := List.map_map
    _ = (q.window rows).map fun r => r.toDocument.restrict (columns.map (·.name)) :=
        List.map_congr_left hproject
    _ = ((q.window rows).map Row.toDocument).map (·.restrict (columns.map (·.name))) := by
        rw [List.map_map]
        rfl
    _ = _ := by rw [← window_map]

/-- **THE SAME ANSWERS.**  A collection holding the rows of a table as
documents, and no column being listed twice in a row: if the sort keys of a
query put the rows that meet its conditions in an order, and the query has no
patterns and wants some fields only, it has an answer from both stores, and
the rows that the one selects are the documents that the other finds, in the
same order. -/
theorem select_same_as_find [Pattern.Engine] [Sorter] {s : RelationalStore} {t : DocumentStore}
    {q : Query} {table collection : String} {columns : List Column}
    (hread : Fault.read ∉ s.faults) (hready : t.unavailable = false)
    (hrows : ∀ r ∈ s.rows table, (Assoc.keys r.cells).Nodup)
    (hcollection : t.collection collection = (s.rows table).map Row.toDocument)
    (hq : q.validate = .ok ())
    (hplain : ∀ c ∈ q.conditions.toList, ∀ pattern, c.2 ≠ .like pattern)
    (hprojection : q.projection ≠ []) (hcolumns : columns.map (·.name) = q.projection)
    (horders :
      q.Orders ((s.rows table).filter fun r => r.toDocument.holdsAll Sql.like q.conditions)) :
    ∃ rows request docs, (s.select table columns q).1 = some (.ok rows)
      ∧ FindRequest.translate q = .ok request ∧ t.find collection request = some (.ok docs)
      ∧ rows.map Row.toDocument = docs := by
  -- where there are no patterns, none can be too large
  have hfits : q.Fits := fun c hc pattern hp => absurd hp (hplain c hc pattern)
  have hselect := RelationalStore.selected_eq hfits s table columns
  have hfind := DocumentStore.find_eq t collection hready hplain hprojection
  have hmeeting : ((s.rows table).map Row.toDocument).filter
        (fun d => d.holdsAll Sql.like q.conditions)
      = ((s.rows table).filter fun r => r.toDocument.holdsAll Sql.like q.conditions).map
          Row.toDocument := List.filter_map
  obtain ⟨sorted, hperm, hrowsorted, hdocsorted⟩ := Row.sortBy_toDocument horders
  -- sorting makes up no row
  have hkept : ∀ r ∈ sorted, (Assoc.keys r.cells).Nodup :=
    fun r hr => hrows r (List.mem_of_mem_filter (hperm.mem_iff.mp hr))
  rw [Query.arrange, hrowsorted] at hselect
  rw [hcollection, hmeeting, hdocsorted] at hfind
  rw [RelationalStore.select_eq hread hq]
  refine ⟨_, _, _, hselect, FindRequest.translate_ok_iff.mpr ⟨hq, rfl⟩, hfind, ?_⟩
  rw [q.map_toDocument_window hkept, hcolumns]

open DataAccess.Sample in
/-- Some people; one of them gives no age. -/
def peopleStore : RelationalStore :=
  (Run.of [
    .seed "people" "id"
      (Row.ofList [("id", .integer 1), ("name", .text "Ada"), ("age", .integer 36)]),
    .seed "people" "id" (Row.ofList [("id", .integer 2), ("name", .text "Bo")]),
    .seed "people" "id"
      (Row.ofList [("id", .integer 3), ("age", .integer 36), ("name", .text "Cy")]),
    .seed "people" "id"
      (Row.ofList [("id", .integer 4), ("name", .text "Di"), ("age", .integer 29)])]
  ).session.store

/-- The same people as documents. -/
def peopleDocuments : DocumentStore :=
  ⟨[("people", (peopleStore.rows "people").map Row.toDocument)], false⟩

/-- The oldest but one; a field is projected twice, and a sort key repeated. -/
def oldestQuery : Query :=
  ((((Query.empty.select ["name", "age", "name"]).filter "id"
    (.between (.integer 1) (.integer 9))).sortBy ["-age", "name", "age", "-age"]).withLimit
    2).withOffset 1

open DataAccess.Sample in
/-- Ties, a missing age, and fields and sort keys that are repeated make no
difference. -/
theorem select_same_as_find_people :
    Fault.read ∉ peopleStore.faults ∧ peopleDocuments.unavailable = false
      ∧ (∀ r ∈ peopleStore.rows "people", (Assoc.keys r.cells).Nodup)
      ∧ peopleDocuments.collection "people" = (peopleStore.rows "people").map Row.toDocument
      ∧ oldestQuery.validate = .ok ()
      ∧ (∀ c ∈ oldestQuery.conditions.toList, ∀ pattern, c.2 ≠ .like pattern)
      ∧ oldestQuery.projection ≠ []
      ∧ [⟨"name", .text⟩, ⟨"age", .integer⟩, ⟨"name", .text⟩].map Column.name
          = oldestQuery.projection
      ∧ oldestQuery.Orders ((peopleStore.rows "people").filter fun r =>
          r.toDocument.holdsAll Sql.like oldestQuery.conditions)
      ∧ ∃ rows request docs,
        (peopleStore.select "people"
            [⟨"name", .text⟩, ⟨"age", .integer⟩, ⟨"name", .text⟩] oldestQuery).1 = some (.ok rows)
          ∧ FindRequest.translate oldestQuery = .ok request
          ∧ peopleDocuments.find "people" request = some (.ok docs)
          ∧ rows.map Row.toDocument = docs := by
  have hread : Fault.read ∉ peopleStore.faults := by decide
  have hrows : ∀ r ∈ peopleStore.rows "people", (Assoc.keys r.cells).Nodup := by decide
  have hq : oldestQuery.validate = .ok () := by decide
  have hplain : ∀ c ∈ oldestQuery.conditions.toList, ∀ pattern, c.2 ≠ .like pattern := by
    intro c hc pattern hp
    obtain rfl : c = ("id", .between (.integer 1) (.integer 9)) := List.mem_singleton.mp hc
    cases hp
  have horders : oldestQuery.Orders ((peopleStore.rows "people").filter fun r =>
      r.toDocument.holdsAll Sql.like oldestQuery.conditions) := by decide
  exact ⟨hread, rfl, hrows, rfl, hq, hplain, by decide, rfl, horders,
    select_same_as_find hread rfl hrows rfl hq hplain (by decide) rfl horders⟩

/-! ## §4. Stores that panic. -/

namespace RelationalStore

/-- The rows with scores as documents. -/
def scoreDocuments : DocumentStore := ⟨[("t", scoreRows.map Row.toDocument)], false⟩

/-- One of their fields, by their scores. -/
def constantQuery : Query := scoreQuery.select ["k"]

open DataAccess.Sample in
/-- **Both stores may panic** over the same rows, for a query without patterns
that makes sense to both and wants some fields only. -/
theorem select_and_find_panic :
    Fault.read ∉ scoreStore.faults ∧ scoreDocuments.unavailable = false
      ∧ (∀ r ∈ scoreStore.rows "t", (Assoc.keys r.cells).Nodup)
      ∧ scoreDocuments.collection "t" = (scoreStore.rows "t").map Row.toDocument
      ∧ constantQuery.validate = .ok () ∧ constantQuery.conditions.toList = []
      ∧ constantQuery.projection = ["k"]
      ∧ (scoreStore.select "t" [⟨"k", .integer⟩] constantQuery).1 = none
      ∧ scoreDocuments.find "t" (FindRequest.ofQuery constantQuery) = none := by
  have hread : Fault.read ∉ scoreStore.faults := by decide
  have hrows : scoreStore.rows "t" = scoreRows := by decide
  have hq : constantQuery.validate = .ok () := by decide
  have hfits : constantQuery.Fits := fun c hc => by cases hc
  have hplain : ∀ c ∈ constantQuery.conditions.toList, ∀ pattern, c.2 ≠ .like pattern :=
    fun c hc => by cases hc
  have hall : ∀ d : Document, d.holdsAll Sql.like constantQuery.conditions = true := fun _ => rfl
  have horders : ¬ constantQuery.Orders scoreRows := not_orders_scoreRows
  have hdocuments : ¬ ConsistentOn
      (Document.compareBy (FindRequest.sortDocument constantQuery.sort))
      (scoreRows.map Row.toDocument) := fun h => horders ((consistentOn_map _ _ _).mp h)
  refine ⟨hread, rfl, ?_, ?_, hq, rfl, rfl, ?_, ?_⟩
  · rw [hrows]
    decide
  · rw [hrows]
    rfl
  · rw [select_eq hread hq, selected_eq hfits, hrows]
    simp only [hall, List.filter_true]
    rw [Query.arrange, Row.sortBy, sort_eq_none horders (by decide)]
    rfl
  · rw [DocumentStore.find_eq scoreDocuments "t" rfl hplain (by decide)]
    simp only [hall, List.filter_true]
    rw [Document.sortBy]
    show Option.map _ (Sorter.sort _ (scoreRows.map Row.toDocument)) = none
    rw [sort_eq_none hdocuments (by decide)]
    rfl

end RelationalStore

end DataAccess
