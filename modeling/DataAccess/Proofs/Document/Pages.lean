/-
  DataAccess.Proofs.Document.Pages — sorted answers, and their pages.

  A query that wants whole documents finds those that its conditions hold for,
  sorted by its keys; documents that no key tells apart stay in the order in
  which they were inserted.  What it means for a key to put one document before
  another is said by kinds of values, without the comparison that sorts them.

  A page is a window on these answers.  Reading page after page until one is
  empty gives all of them once, as long as the offsets can be counted.

  Main statements:
    * `compare?_lt_iff`        — what it means for a value to be below another;
    * `precedes_iff`           — the keys of a query put documents as they are
                                 compared;
    * `pairwise_sorted`        — so sorted answers are in the order of the keys;
    * `Pages.eq_drop`          — pages that are read one by one are the answers;
    * `find_sorted_in_pages`   — sorted answers, and their pages.
-/
import DataAccess.Proofs.Document.Comparator
import DataAccess.Proofs.Document.Request
import DataAccess.Proofs.Text.BytesAndWords
import DataAccess.Sample.Engines

namespace DataAccess

/-! ## §1. The order of values. -/

/-- A value is below another one of its kind. -/
inductive Datum.Below : Datum → Datum → Prop where
  /-- Integers of either width stand in the order of integers. -/
  | integer {x y : Datum} {m n : Int} (hx : x.integer? = some m) (hy : y.integer? = some n)
      (h : m < n) : Below x y
  | double {a b : Float} (h : a < b) : Below (.double a) (.double b)
  /-- Texts stand in the order of their bytes. -/
  | string {s t : String} (h : Text.bytes s < Text.bytes t) : Below (.string s) (.string t)
  | boolean : Below (.boolean false) (.boolean true)
  | dateTime {s t : Int64} (h : s.toInt < t.toInt) : Below (.dateTime s) (.dateTime t)

/-- A place in a document is below another one: it has no value where the other
has one, or a value below that of the other. -/
inductive PlaceBelow : Option Datum → Option Datum → Prop where
  | missing (y : Datum) : PlaceBelow none (some y)
  | present {x y : Datum} (h : x.Below y) : PlaceBelow (some x) (some y)

/-- A sort key puts a document before another one. -/
def SortKey.Puts (k : SortKey) (a b : Document) : Prop :=
  match k.direction with
  | .ascending => PlaceBelow (a.path? k.field) (b.path? k.field)
  | .descending => PlaceBelow (b.path? k.field) (a.path? k.field)

/-- Sort keys put a document before another one: the first key that tells them
apart does. -/
inductive Document.Precedes : List SortKey → Document → Document → Prop where
  | here {k : SortKey} {keys : List SortKey} {a b : Document} (h : k.Puts a b) :
      Precedes (k :: keys) a b
  | later {k : SortKey} {keys : List SortKey} {a b : Document} (h : ¬ k.Puts a b)
      (h' : ¬ k.Puts b a) (hrest : Precedes keys a b) : Precedes (k :: keys) a b

theorem orderInt_lt_iff {m n : Int} : orderInt m n = .lt ↔ m < n := by
  show compare m n = .lt ↔ m < n
  exact Int.compare_eq_lt

theorem orderFloat?_lt_iff {a b : Float} : orderFloat? a b = some .lt ↔ a < b := by
  unfold orderFloat?
  by_cases h : a < b
  · rw [if_pos h]
    exact iff_of_true rfl h
  · rw [if_neg h]
    refine iff_of_false ?_ h
    split
    · decide
    · split <;> decide

/-- **A value is below another one of its kind if it compares as less.** -/
theorem Datum.compare?_lt_iff {x y : Datum} {k : DatumKind} (hx : x.kind? = some k)
    (hy : y.kind? = some k) : x.compare? y = some .lt ↔ x.Below y := by
  have hkind := ofKind_of_kind? hy
  constructor
  · intro h
    cases ofKind_of_kind? hx with
    | integer hm =>
      cases hkind with
      | integer hn =>
        rw [compare?_of_integers hm hn] at h
        exact .integer hm hn (orderInt_lt_iff.mp (Option.some.inj h))
    | double ha => cases hkind with | double hb => exact .double (orderFloat?_lt_iff.mp h)
    | text s =>
      cases hkind with | text t => exact .string (Text.orderText_eq_lt_iff.mp (Option.some.inj h))
    | boolean p =>
      cases hkind with
      | boolean q =>
        -- only false is below true
        cases p <;> cases q
        · cases h
        · exact .boolean
        · cases h
        · cases h
    | time t =>
      cases hkind with
      | time u => exact .dateTime (orderInt_lt_iff.mp (Option.some.inj h))
  · intro h
    cases h with
    | integer hm hn h => rw [compare?_of_integers hm hn, orderInt_lt_iff.mpr h]
    | double h => exact orderFloat?_lt_iff.mpr h
    | string h => exact congrArg some (Text.orderText_eq_lt_iff.mpr h)
    | boolean => rfl
    | dateTime h => exact congrArg some (orderInt_lt_iff.mpr h)

/-! ## §2. The order of documents. -/

namespace Document

variable {docs : List Document} {a b : Document}

theorem comparePlaces_lt_iff {field : String} (h : Datum.OneKind (valuesAt docs field))
    (ha : a ∈ docs) (hb : b ∈ docs) :
    comparePlaces (a.path? field) (b.path? field) = .lt
      ↔ PlaceBelow (a.path? field) (b.path? field) := by
  obtain ⟨k, hk⟩ := h
  cases hx : a.path? field with
  | none =>
    cases b.path? field with
    | none => exact iff_of_false (by decide) (fun h => nomatch h)
    | some y => exact iff_of_true rfl (.missing y)
  | some x =>
    cases hy : b.path? field with
    | none => exact iff_of_false (fun h => nomatch h) (fun h => nomatch h)
    | some y =>
      have hkx : x.kind? = some k := hk x (mem_valuesAt ha hx)
      have hky : y.kind? = some k := hk y (mem_valuesAt hb hy)
      have hcmp : (x.compare? y).getD .eq = .lt ↔ x.compare? y = some .lt := by
        rw [Datum.compare?_of_kind hkx hky]
        exact Option.some_inj.symm
      show (x.compare? y).getD .eq = .lt ↔ PlaceBelow (some x) (some y)
      rw [hcmp, Datum.compare?_lt_iff hkx hky]
      exact ⟨fun h => .present h, fun h => by cases h with | present h => exact h⟩

/-- A key puts documents as they are compared by it. -/
theorem puts_iff {k : SortKey} (h : Datum.OneKind (valuesAt docs k.field)) (ha : a ∈ docs)
    (hb : b ∈ docs) :
    k.direction.orient (comparePlaces (a.path? k.field) (b.path? k.field)) = .lt ↔ k.Puts a b := by
  unfold SortKey.Puts
  cases k.direction with
  | ascending => exact comparePlaces_lt_iff h ha hb
  | descending =>
    show (comparePlaces (a.path? k.field) (b.path? k.field)).swap = .lt ↔ _
    rw [← comparePlaces_swap]
    exact comparePlaces_lt_iff h hb ha

/-- The document of directions that sort keys make, if no field is repeated. -/
def directions (keys : List SortKey) : Document :=
  keys.map fun k => (k.field, FindRequest.directionDatum k.direction)

theorem compareBy_directions_cons (k : SortKey) (keys : List SortKey) (a b : Document) :
    compareBy (directions (k :: keys)) a b
      = (k.direction.orient (comparePlaces (a.path? k.field) (b.path? k.field))).then
          (compareBy (directions keys) a b) := by
  show Ordering.then (if isDescending _ then _ else _) _ = _
  rw [isDescending_directionDatum]
  rfl

/-- **Sort keys put documents as they are compared.** -/
theorem precedes_iff {keys : List SortKey}
    (h : ∀ k ∈ keys, Datum.OneKind (valuesAt docs k.field)) (ha : a ∈ docs) (hb : b ∈ docs) :
    compareBy (directions keys) a b = .lt ↔ Precedes keys a b := by
  induction keys with
  | nil => exact iff_of_false (fun h => nomatch h) (fun h => nomatch h)
  | cons k keys ih =>
    have hk := h k List.mem_cons_self
    have hrest := ih fun k' hk' => h k' (List.mem_cons_of_mem _ hk')
    have hab := puts_iff hk ha hb
    have hba := puts_iff hk hb ha
    rw [compareBy_directions_cons, Ordering.then_eq_lt, hab, hrest]
    -- the key does not tell them apart if it puts neither before the other
    have hlevel : k.direction.orient (comparePlaces (a.path? k.field) (b.path? k.field)) = .eq
        ↔ ¬ k.Puts a b ∧ ¬ k.Puts b a := by
      rw [← hab, ← hba, comparePlaces_swap (a.path? k.field)]
      cases k.direction <;> cases comparePlaces (a.path? k.field) (b.path? k.field) <;> decide
    rw [hlevel]
    constructor
    · intro hlt
      rcases hlt with hput | ⟨⟨hnot, hnot'⟩, hlater⟩
      · exact .here hput
      · exact .later hnot hnot' hlater
    · intro hprecedes
      cases hprecedes with
      | here hput => exact .inl hput
      | later hnot hnot' hlater => exact .inr ⟨⟨hnot, hnot'⟩, hlater⟩

end Document

/-- The document of directions of a query is that of its last keys. -/
theorem Query.sortDocument_lastKeys (q : Query) :
    FindRequest.sortDocument q.sort = Document.directions q.lastKeys := by
  rw [sortDocument_eq, ofList_ordering, List.map_map]
  rfl

/-- The last keys of a query are among its keys. -/
theorem Query.mem_of_mem_lastKeys {q : Query} {k : SortKey} (h : k ∈ q.lastKeys) : k ∈ q.sort := by
  obtain ⟨field, -, hfind⟩ := List.mem_filterMap.mp h
  exact List.mem_reverse.mp (List.mem_of_find?_eq_some hfind)

/-! ## §3. Sorted answers. -/

/-- A query asks for a document: the field of each condition leads to a value
that is as asked. -/
def Query.Wants (q : Query) (d : Document) : Prop :=
  ∀ c ∈ q.conditions.toList, ∃ x, d.Leads c.1.toList x ∧ c.2.Asks Pattern.anyCase x

/-- Whether a document is asked for can be decided. -/
instance (q : Query) : DecidablePred q.Wants := fun d =>
  decidable_of_iff (d.holdsAll (Pattern.occurs Pattern.anyCase) q.conditions = true)
    Document.holdsAll_iff

theorem Query.holdsAll_eq (q : Query) (d : Document) :
    d.holdsAll (Pattern.occurs Pattern.anyCase) q.conditions = decide (q.Wants d) := by
  rw [Bool.eq_iff_iff, decide_eq_true_iff]
  exact Document.holdsAll_iff

/-- The documents of a collection that a query asks for, each with its place
there. -/
def DocumentStore.wanted (s : DocumentStore) (name : String) (q : Query) :
    List (Document × Nat) :=
  (s.collection name).zipIdx.filter fun e => q.Wants e.1

/-- The same answers, sorted. -/
def DocumentStore.sorted (s : DocumentStore) (name : String) (q : Query) : List (Document × Nat) :=
  (s.wanted name q).mergeSort fun e f =>
    Document.compareBy (FindRequest.sortDocument q.sort) e.1 f.1 != .gt

namespace DocumentStore

variable {s : DocumentStore} {name : String} {q : Query}

theorem mem_collection_of_mem_wanted {e : Document × Nat} (h : e ∈ s.wanted name q) :
    e.1 ∈ s.collection name := by
  have hmem : e.1 ∈ (s.collection name).zipIdx.map Prod.fst :=
    List.mem_map_of_mem (List.mem_of_mem_filter h)
  rwa [List.zipIdx_map_fst] at hmem

theorem pairwise_wanted : (s.wanted name q).Pairwise fun e f => e.2 < f.2 := by
  have hplaces : ((s.collection name).zipIdx.map Prod.snd).Pairwise (· < ·) := by
    rw [List.zipIdx_map_snd]
    exact List.pairwise_lt_range'
  exact List.Pairwise.sublist List.filter_sublist (List.pairwise_map.mp hplaces)

/-- Values of one kind are on one scale. -/
theorem scales_of_kinds
    (h : ∀ k ∈ q.sort, Datum.OneKind (Document.valuesAt (s.collection name) k.field)) :
    ∀ k ∈ FindRequest.sortDocument q.sort,
      Datum.OneScale (Document.valuesAt (s.collection name) k.1) := by
  rw [Query.sortDocument_lastKeys]
  intro k hk
  obtain ⟨key, hkey, rfl⟩ := List.mem_map.mp hk
  exact .inl (h key (Query.mem_of_mem_lastKeys hkey))

/-- **Sorted answers are in the order of the keys**, and those that the keys do
not tell apart are in the order of their places. -/
theorem pairwise_sorted
    (h : ∀ k ∈ q.sort, Datum.OneKind (Document.valuesAt (s.collection name) k.field)) :
    (s.sorted name q).Pairwise fun e f =>
      Document.Precedes q.lastKeys e.1 f.1
        ∨ ¬ Document.Precedes q.lastKeys f.1 e.1 ∧ e.2 < f.2 := by
  have hlast : ∀ k ∈ q.lastKeys, Datum.OneKind (Document.valuesAt (s.collection name) k.field) :=
    fun k hk => h k (Query.mem_of_mem_lastKeys hk)
  -- on one scale, comparing is an order
  obtain ⟨cmp, hcmp, heq⟩ := Document.exists_transCmp (scales_of_kinds h)
  have hentries : Std.TransCmp fun e f : Document × Nat => cmp e.1 f.1 := transCmp_comap Prod.fst
  -- on the documents of the collection, sorting is sorting by an order
  have hsorted : s.sorted name q = (s.wanted name q).mergeSort fun e f => cmp e.1 f.1 != .gt := by
    refine mergeSort_congr fun e he f hf => ?_
    rw [heq _ (mem_collection_of_mem_wanted he) _ (mem_collection_of_mem_wanted hf)]
  rw [hsorted]
  refine (pairwise_mergeSort_stable pairwise_wanted).imp_of_mem fun {e f} he hf hef => ?_
  have he' := mem_collection_of_mem_wanted (List.mem_mergeSort.mp he)
  have hf' := mem_collection_of_mem_wanted (List.mem_mergeSort.mp hf)
  rw [← heq _ he' _ hf', Query.sortDocument_lastKeys] at hef
  rcases hef with hlt | ⟨hlevel, hplace⟩
  · exact .inl ((Document.precedes_iff hlast he' hf').mp hlt)
  · refine .inr ⟨fun hfe => ?_, hplace⟩
    have hgt := (Document.precedes_iff hlast hf' he').mpr hfe
    rw [Document.compareBy_swap, hlevel] at hgt
    cases hgt

/-- So what answers a query is sorted. -/
theorem sortBy_wanted [Sorter]
    (h : ∀ k ∈ q.sort, Datum.OneKind (Document.valuesAt (s.collection name) k.field)) :
    Document.sortBy (FindRequest.sortDocument q.sort) ((s.wanted name q).map Prod.fst)
      = some ((s.sorted name q).map Prod.fst) := by
  have horder : ConsistentOn (Document.compareBy (FindRequest.sortDocument q.sort))
      ((s.wanted name q).map Prod.fst) := by
    refine (Document.consistentOn_of_scales (scales_of_kinds h)).of_subset fun d hd => ?_
    obtain ⟨e, he, rfl⟩ := List.mem_map.mp hd
    exact mem_collection_of_mem_wanted he
  rw [Document.sortBy, Sorter.sort_of_consistentOn horder]
  exact congrArg some (List.map_mergeSort (f := Prod.fst) fun _ _ _ _ => rfl).symm

/-! ## §4. Pages. -/

/-- A page is a window on the answers. -/
theorem window_page {n o : Int64} (hn : 0 < n.toInt) (docs : List Document) :
    ((q.withLimit n).withOffset o).window docs
      = (docs.drop o.toInt.toNat).take n.toInt.toNat := by
  unfold Query.window
  exact if_pos hn

/-- There is nothing behind the last answer. -/
theorem window_behind {n o : Int64} {docs : List Document} (ho : (docs.length : Int) ≤ o.toInt) :
    ((q.withLimit n).withOffset o).window docs = [] := by
  have hnone : docs.drop o.toInt.toNat = [] := List.drop_eq_nil_of_le (by omega)
  unfold Query.window
  show (if 0 < n.toInt then (docs.drop o.toInt.toNat).take n.toInt.toNat
    else docs.drop o.toInt.toNat) = []
  rw [hnone, List.take_nil, ite_self]

section Finding

variable [Pattern.Engine] [Sorter]

/-- A query makes sense and finds these documents. -/
def Finds (s : DocumentStore) (name : String) (q : Query) (docs : List Document) : Prop :=
  ∃ r, FindRequest.translate q = .ok r ∧ s.find name r = some (.ok docs)

/-- What a query finds is what it finds. -/
theorem Finds.unique {docs docs' : List Document} (h : s.Finds name q docs)
    (h' : s.Finds name q docs') : docs = docs' := by
  obtain ⟨r, hr, hfind⟩ := h
  obtain ⟨r', hr', hfind'⟩ := h'
  obtain rfl : r = r' := Except.ok.inj (hr.symm.trans hr')
  exact Except.ok.inj (Option.some.inj (hfind.symm.trans hfind'))

/-- Page after page of so many documents is read from an offset on, until one
is empty. -/
inductive Pages (s : DocumentStore) (name : String) (q : Query) (n : Int64) :
    Int64 → List Document → Prop where
  | last {o : Int64} (h : s.Finds name ((q.withLimit n).withOffset o) []) : Pages s name q n o []
  | more {o o' : Int64} {page rest : List Document}
      (h : s.Finds name ((q.withLimit n).withOffset o) page) (hpage : page ≠ [])
      (ho' : o'.toInt = o.toInt + n.toInt) (hrest : Pages s name q n o' rest) :
      Pages s name q n o (page ++ rest)

/-- The sorted answers to a query that makes sense and wants whole documents,
in a window. -/
theorem finds_window (havailable : s.unavailable = false) (hq : q.validate = .ok ())
    (hprojection : q.projection = []) (hcompiles : q.Compiles)
    (hkinds : ∀ k ∈ q.sort, Datum.OneKind (Document.valuesAt (s.collection name) k.field))
    {n o : Int64} (hn : 0 ≤ n.toInt) (ho : 0 ≤ o.toInt) :
    s.Finds name ((q.withLimit n).withOffset o)
      (((q.withLimit n).withOffset o).window ((s.sorted name q).map Prod.fst)) := by
  have hvalid : ((q.withLimit n).withOffset o).validate = .ok () := by
    obtain ⟨hfields, hconditions, hsort, -, -⟩ := (Query.validate_ok_iff q).mp hq
    exact (Query.validate_ok_iff _).mpr ⟨hfields, hconditions, hsort, hn, ho⟩
  -- the window changes neither what is found nor how it is shown
  have hmeets : ∀ d ∈ s.collection name,
      d.meets (FindRequest.filterDocument ((q.withLimit n).withOffset o).conditions)
        = .ok (decide (q.Wants d)) := by
    intro d _
    rw [← Query.holdsAll_eq]
    exact Document.meets_of_compiled hcompiles d
  have hshape : ((q.withLimit n).withOffset o).shape = id := by
    funext d
    exact if_pos (List.isEmpty_iff.mpr hprojection)
  have hwanted : (s.wanted name q).map Prod.fst
      = (s.collection name).filter fun d => decide (q.Wants d) := by
    have hcollection : (s.collection name).zipIdx.map Prod.fst = s.collection name :=
      List.zipIdx_map_fst 0 _
    conv => rhs; rw [← hcollection, List.filter_map]
    rfl
  refine ⟨_, FindRequest.translate_ok_iff.mpr ⟨hvalid, rfl⟩, ?_⟩
  rw [find_of_meets havailable hmeets, hshape, ← hwanted]
  simp only [List.map_id]
  show Option.map _ (Document.sortBy (FindRequest.sortDocument q.sort) _) = _
  rw [sortBy_wanted hkinds]
  rfl

section

variable {found : List Document} {n : Int64} (hn : 0 < n.toInt)
  (hwindow : ∀ o : Int64, 0 ≤ o.toInt → s.Finds name ((q.withLimit n).withOffset o)
    ((found.drop o.toInt.toNat).take n.toInt.toNat))

include hn hwindow

/-- **Pages that are read one by one are the answers from the first offset
on.** -/
theorem Pages.eq_drop {o : Int64} {docs : List Document} (h : s.Pages name q n o docs)
    (ho : 0 ≤ o.toInt) : docs = found.drop o.toInt.toNat := by
  have hpos : n.toInt.toNat ≠ 0 := by omega
  induction h with
  | last h =>
    have hempty := h.unique (hwindow _ ho)
    exact ((List.take_eq_nil_iff.mp hempty.symm).resolve_left hpos).symm
  | @more o o' page rest h hpage ho' hrest ih =>
    have hskip : o'.toInt.toNat = o.toInt.toNat + n.toInt.toNat := by omega
    rw [h.unique (hwindow o ho), ih (by omega), hskip, ← List.drop_drop]
    exact List.take_append_drop _ _

/-- All pages can be read from an offset on, if the next ones can be counted. -/
theorem pages_drop (hbound : 2 * (found.length : Int) ≤ Int64.maxValue.toInt) (o : Int64)
    (ho : 0 ≤ o.toInt) (hfirst : o = 0 ∨ n.toInt ≤ o.toInt) :
    s.Pages name q n o (found.drop o.toInt.toNat) := by
  -- every page takes something away from what is left
  induction hleft : found.length - o.toInt.toNat using Nat.strongRecOn generalizing o with
  | ind left ih =>
    have hpage := hwindow o ho
    by_cases hend : found.length ≤ o.toInt.toNat
    · have hnone : found.drop o.toInt.toNat = [] := List.drop_eq_nil_of_le hend
      rw [hnone, List.take_nil] at hpage
      rw [hnone]
      exact .last hpage
    · have hsum : o.toInt + n.toInt ≤ Int64.maxValue.toInt := by
        rcases hfirst with rfl | hle
        · have hmax := n.toInt_le
          have hzero : (0 : Int64).toInt = 0 := rfl
          have hvalue : Int64.maxValue.toInt = 9223372036854775807 := rfl
          omega
        · omega
      obtain ⟨o', ho'⟩ : ∃ o' : Int64, o'.toInt = o.toInt + n.toInt := by
        have hmin : Int64.minValue.toInt ≤ o.toInt + n.toInt := by
          have hvalue : Int64.minValue.toInt = -9223372036854775808 := rfl
          omega
        refine ⟨.ofInt (o.toInt + n.toInt), Int64.toInt_ofInt_of_le hmin ?_⟩
        exact Int.lt_of_le_of_lt hsum (by decide)
      -- the next page starts where this one ends, and the last offset is below twice the length
      have hskip : o'.toInt.toNat = o.toInt.toNat + n.toInt.toNat := by omega
      have hrest :=
        ih (found.length - o'.toInt.toNat) (by omega) o' (by omega) (.inr (by omega)) rfl
      have hsome : (found.drop o.toInt.toNat).take n.toInt.toNat ≠ [] := by
        intro hnil
        have hlength := congrArg List.length hnil
        rw [List.length_take, List.length_drop, List.length_nil] at hlength
        omega
      have hall := Pages.more hpage hsome ho' hrest
      rwa [hskip, ← List.drop_drop, List.take_append_drop] at hall

end

/-- **SORTED ANSWERS, AND THEIR PAGES.**  Let a store be available and a query
make sense, want whole documents and have patterns that the machine takes, and
let under each of its sort keys every document of a collection have no value
or one of the same kind: an integer of either width, a double, a text, a truth
value or a point in time.  There is a list of documents with their places in
the collection, which holds exactly those that the query asks for, each once;
which is in the order of the sort keys, of which a repeated field has its
first place and its last direction, and else in the order of the places; and

  * without a limit and an offset, the query finds the documents of this list;
  * from an offset at or behind its end, it finds nothing;
  * reading page after page, until one is empty, gives nothing but this list,
    and it comes to an end, unless the collection has so many documents that
    the offsets run out. -/
theorem find_sorted_in_pages (havailable : s.unavailable = false) (hq : q.validate = .ok ())
    (hprojection : q.projection = []) (hcompiles : q.Compiles)
    (hkinds : ∀ k ∈ q.sort, Datum.OneKind (Document.valuesAt (s.collection name) k.field)) :
    ∃ found : List (Document × Nat),
      found.Perm ((s.collection name).zipIdx.filter fun e => q.Wants e.1)
        ∧ found.Pairwise (fun e f => Document.Precedes q.lastKeys e.1 f.1
          ∨ ¬ Document.Precedes q.lastKeys f.1 e.1 ∧ e.2 < f.2)
        ∧ s.Finds name ((q.withLimit 0).withOffset 0) (found.map Prod.fst)
        ∧ (∀ n o : Int64, 0 ≤ n.toInt → (found.length : Int) ≤ o.toInt →
          s.Finds name ((q.withLimit n).withOffset o) [])
        ∧ ∀ n : Int64, 0 < n.toInt →
          (∀ docs, s.Pages name q n 0 docs → docs = found.map Prod.fst)
            ∧ (2 * ((s.collection name).length : Int) ≤ Int64.maxValue.toInt →
              s.Pages name q n 0 (found.map Prod.fst)) := by
  have hperm : (s.sorted name q).Perm (s.wanted name q) := List.mergeSort_perm _ _
  have hfinds : ∀ {n o : Int64}, 0 ≤ n.toInt → 0 ≤ o.toInt →
      s.Finds name ((q.withLimit n).withOffset o)
        (((q.withLimit n).withOffset o).window ((s.sorted name q).map Prod.fst)) :=
    finds_window havailable hq hprojection hcompiles hkinds
  -- each answer is a window of the one sorted list
  refine ⟨s.sorted name q, hperm, pairwise_sorted hkinds, ?_, ?_, ?_⟩
  · exact hfinds (Int.le_refl 0) (Int.le_refl 0)
  · intro n o hn ho
    have hpage := hfinds (n := n) (o := o) hn (Int.le_trans (Int.natCast_nonneg _) ho)
    rwa [window_behind (by rwa [List.length_map])] at hpage
  · intro n hn
    have hwindow : ∀ o : Int64, 0 ≤ o.toInt → s.Finds name ((q.withLimit n).withOffset o)
        ((((s.sorted name q).map Prod.fst).drop o.toInt.toNat).take n.toInt.toNat) := by
      intro o ho
      have hpage := hfinds (n := n) (o := o) (Int.le_of_lt hn) ho
      rwa [window_page hn] at hpage
    constructor
    · intro docs hpages
      exact hpages.eq_drop hn hwindow (Int.le_refl 0)
    · intro hbound
      have hlength : ((s.sorted name q).map Prod.fst).length ≤ (s.collection name).length := by
        rw [List.length_map, hperm.length_eq]
        have hzip := List.length_zipIdx (l := s.collection name) (i := 0)
        exact Nat.le_trans (List.length_filter_le _ _) (Nat.le_of_eq hzip)
      exact pages_drop hn hwindow (by omega) 0 (Int.le_refl 0) (.inl rfl)

end Finding

/-- Some tasks: one has no day, and two are for the same one. -/
def taskStore : DocumentStore :=
  ⟨[("tasks", [
    [("name", .string "dig"), ("plan", .document [("day", .int32 2)])],
    [("name", .string "sow")],
    [("name", .string "reap"), ("plan", .document [("day", .int64 9)])],
    [("name", .string "weed"), ("plan", .document [("day", .int64 2)])],
    [("name", .string "rest"), ("plan", .document [("day", .int32 7)])]])], false⟩

/-- The work, and what comes last first; a sort key is repeated. -/
def taskQuery : Query :=
  (Query.empty.filter "name"
    (.oneOf [.text "dig", .text "sow", .text "reap", .text "weed"])).sortBy
    ["plan.day", "-plan.day"]

open DataAccess.Sample in
/-- Nested values, a missing one, a tie and a repeated sort key: pages of three
tasks are the sorted answers. -/
theorem find_sorted_in_pages_tasks :
    taskStore.unavailable = false ∧ taskQuery.validate = .ok () ∧ taskQuery.projection = []
      ∧ taskQuery.Compiles
      ∧ (∀ k ∈ taskQuery.sort,
          Datum.OneKind (Document.valuesAt (taskStore.collection "tasks") k.field))
      ∧ ∃ found : List (Document × Nat),
        found.Perm ((taskStore.collection "tasks").zipIdx.filter fun e => taskQuery.Wants e.1)
          ∧ found.Pairwise (fun e f => Document.Precedes taskQuery.lastKeys e.1 f.1
            ∨ ¬ Document.Precedes taskQuery.lastKeys f.1 e.1 ∧ e.2 < f.2)
          ∧ taskStore.Pages "tasks" taskQuery 3 0 (found.map Prod.fst)
          ∧ taskStore.Finds "tasks" ((taskQuery.withLimit 3).withOffset 6) [] := by
  have hq : taskQuery.validate = .ok () := by decide
  have hcompiles : taskQuery.Compiles := by
    intro c hc pattern hp
    obtain rfl := List.mem_singleton.mp hc
    cases hp
  have hday : Datum.OneKind (Document.valuesAt (taskStore.collection "tasks") "plan.day") :=
    ⟨.integer, by decide⟩
  have hkinds : ∀ k ∈ taskQuery.sort,
      Datum.OneKind (Document.valuesAt (taskStore.collection "tasks") k.field) := by
    intro k hk
    have hfield : k.field = "plan.day" := by
      revert k
      decide
    rw [hfield]
    exact hday
  obtain ⟨found, hperm, hsorted, -, hbehind, hpages⟩ :=
    find_sorted_in_pages rfl hq rfl hcompiles hkinds
  have hfew : found.length ≤ 5 := by
    rw [hperm.length_eq]
    exact List.length_filter_le _ _
  have hall := (hpages 3 (by decide)).2 (by decide)
  refine ⟨rfl, hq, rfl, hcompiles, hkinds, found, hperm, hsorted, hall, hbehind 3 6 (by decide) ?_⟩
  show (found.length : Int) ≤ 6
  omega

end DocumentStore

end DataAccess
