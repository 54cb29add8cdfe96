/-
  DataAccess.Proofs.Relational.Ordering — in which order rows are selected.

  The clause of a query lists its sort keys as they were given, while rows are
  sorted by a document of directions.  In such a document a field that is
  repeated keeps its first place but takes its last direction, and a name with
  dots is a path, which leads to nothing in a row.  So rows are sorted by the
  keys that the document leaves, and these say the same as the clause if no
  column has dots and no direction is turned around by a later key.

  Main statements:
    * `lexicographic_eq`       — one key decides, the first that makes a
                                 difference;
    * `lexicographic_ofList`   — a repeated key does not matter if it keeps its
                                 direction;
    * `compareBy_sortDocument` — what documents of directions make of rows;
    * `pairwise_mergeSort_stable` — what is sorted is in order, ties as before;
    * `select_ordered`         — so rows are selected in order.
-/
import DataAccess.Proofs.Relational.SameAnswers

namespace DataAccess

/-! ## §1. Orders by several keys. -/

/-- The sort keys of a query as columns with directions. -/
def Query.ordering (q : Query) : Assoc String Direction :=
  q.sort.map fun k => (k.field, k.direction)

/-- An order in its direction. -/
def Direction.orient : Direction → Ordering → Ordering
  | .ascending, o => o
  | .descending, o => o.swap

theorem Direction.orient_eq (d : Direction) : d.orient .eq = .eq := by
  cases d <;> rfl

theorem Direction.then_of_ne (d : Direction) {o : Ordering} (h : o ≠ .eq) (rest : Ordering) :
    (d.orient o).then rest = d.orient o := by
  cases d <;> cases o <;> first | rfl | exact absurd rfl h

/-- Compares by one column after the other, each in its direction: a later one
decides only where the earlier ones do not. -/
def lexicographic {α : Type} (cmp : String → α → α → Ordering) :
    Assoc String Direction → α → α → Ordering
  | [], _, _ => .eq
  | (column, d) :: keys, a, b => (d.orient (cmp column a b)).then (lexicographic cmp keys a b)

section Keys

variable {α : Type} (cmp : String → α → α → Ordering)

/-- **One key decides**: the first with a column that makes a difference. -/
theorem lexicographic_eq (keys : Assoc String Direction) (a b : α) :
    lexicographic cmp keys a b
      = match (Assoc.keys keys).find? fun c => cmp c a b != .eq with
        | some c => ((Assoc.find? keys c).getD .ascending).orient (cmp c a b)
        | none => .eq := by
  induction keys with
  | nil => rfl
  | cons k keys ih =>
    obtain ⟨column, d⟩ := k
    show (d.orient (cmp column a b)).then (lexicographic cmp keys a b)
      = match List.find? (fun c => cmp c a b != .eq) (column :: Assoc.keys keys) with
        | some c => ((Assoc.find? ((column, d) :: keys) c).getD .ascending).orient (cmp c a b)
        | none => .eq
    by_cases hc : cmp column a b = .eq
    · rw [List.find?_cons_of_neg (by simp [hc]), hc, Direction.orient_eq, ih]
      cases hfind : (Assoc.keys keys).find? fun c => cmp c a b != .eq with
      | none => rfl
      | some other =>
        -- the column that decides is another one
        have hne : column ≠ other := by
          rintro rfl
          have hdecides := List.find?_some hfind
          rw [hc] at hdecides
          cases hdecides
        simp only [Assoc.find?_cons, if_neg hne]
        rfl
    · rw [List.find?_cons_of_pos (by simp [hc]), Direction.then_of_ne d hc]
      simp only [Assoc.find?_cons, if_true, Option.getD_some]

/-- Keys that compare alike give one order. -/
theorem lexicographic_congr {cmp cmp' : String → α → α → Ordering}
    {keys : Assoc String Direction} {a b : α}
    (h : ∀ k ∈ keys, cmp k.1 a b = cmp' k.1 a b) :
    lexicographic cmp keys a b = lexicographic cmp' keys a b := by
  induction keys with
  | nil => rfl
  | cons k keys ih =>
    unfold lexicographic
    rw [h k List.mem_cons_self, ih fun k' hk' => h k' (List.mem_cons_of_mem _ hk')]

end Keys

/-- Writing pairs one by one leaves the first key that is looked for the
first. -/
theorem Assoc.find?_keys_ofList {κ α : Type} [DecidableEq κ] (pairs : Assoc κ α) (p : κ → Bool) :
    (keys (ofList pairs)).find? p = (keys pairs).find? p := by
  induction pairs using List.reverseRecOn with
  | nil => rfl
  | append_singleton pairs x ih =>
    have hkeys : keys (pairs ++ [x]) = keys pairs ++ [x.1] := List.map_append
    rw [ofList_concat, keys_insert, hkeys, List.find?_append, ← ih]
    split
    · next hmem =>
      -- the key is there already, so that it is found before if at all
      cases hfind : (keys (ofList pairs)).find? p with
      | some k => rfl
      | none =>
        have hno := List.find?_eq_none.mp hfind x.1 hmem
        simp [hno]
    · rw [List.find?_append]

/-- Writing pairs one by one makes up no key. -/
theorem Assoc.exists_of_mem_ofList {κ α : Type} [DecidableEq κ] {pairs : Assoc κ α} {p : κ × α}
    (h : p ∈ ofList pairs) : ∃ p' ∈ pairs, p'.1 = p.1 :=
  List.mem_map.mp (mem_keys_ofList.mp (List.mem_map_of_mem h))

/-- **A repeated key does not matter if it keeps its direction.** -/
theorem lexicographic_ofList {α : Type} (cmp : String → α → α → Ordering)
    {keys : Assoc String Direction}
    (h : ∀ k ∈ keys, Assoc.find? keys.reverse k.1 = Assoc.find? keys k.1) (a b : α) :
    lexicographic cmp (Assoc.ofList keys) a b = lexicographic cmp keys a b := by
  rw [lexicographic_eq, lexicographic_eq, Assoc.find?_keys_ofList]
  -- the same column decides in both, so that only its direction is at stake
  cases hfind : (Assoc.keys keys).find? fun c => cmp c a b != .eq with
  | none => rfl
  | some c =>
    obtain ⟨k, hk, rfl⟩ := List.mem_map.mp (List.mem_of_find?_eq_some hfind)
    show ((Assoc.find? (Assoc.ofList keys) k.1).getD .ascending).orient _ = _
    rw [Assoc.find?_ofList, h k hk]

/-! ## §2. Rows in the order of documents. -/

/-- How two rows compare by their cells in a column. -/
def Row.compareCells (column : String) (a b : Row) : Ordering :=
  match a.last? column, b.last? column with
  | some v, some w => (v.compare? w).getD .eq
  | _, _ => .eq

/-- Every row has a cell in the column, all of one kind, which is not that of
doubles. -/
def Uniform (rows : List Row) (column : String) : Prop :=
  ∃ kind, kind ≠ Kind.float ∧ ∀ r ∈ rows, (r.last? column).map Scalar.kind = some kind

/-- Two of the rows have cells of one kind there. -/
theorem Uniform.exists_cells {rows : List Row} {column : String} (h : Uniform rows column)
    {a b : Row} (ha : a ∈ rows) (hb : b ∈ rows) :
    ∃ v w, a.last? column = some v ∧ b.last? column = some w ∧ v.kind = w.kind
      ∧ v.kind ≠ .float := by
  obtain ⟨kind, hfloat, hrows⟩ := h
  obtain ⟨v, hv, hkv⟩ := Option.map_eq_some_iff.mp (hrows a ha)
  obtain ⟨w, hw, hkw⟩ := Option.map_eq_some_iff.mp (hrows b hb)
  exact ⟨v, w, hv, hw, hkv.trans hkw.symm, hkv ▸ hfloat⟩

/-- The keys that rows are sorted by: a column that is repeated has its first
place and its last direction, and columns with dots are left out. -/
def Query.effective (q : Query) : Assoc String Direction :=
  (Assoc.ofList q.ordering).filter fun k => '.' ∉ k.1.toList

/-- Changing values one by one and writing pairs one by one can be
exchanged. -/
theorem Assoc.ofList_map {κ α β : Type} [DecidableEq κ] (f : α → β) (pairs : Assoc κ α) :
    ofList (pairs.map fun p => (p.1, f p.2)) = (ofList pairs).map fun p => (p.1, f p.2) := by
  have hinsert : ∀ (m : Assoc κ α) (k : κ) (a : α),
      insert (m.map fun p => (p.1, f p.2)) k (f a) = (insert m k a).map fun p => (p.1, f p.2) := by
    intro m k a
    induction m with
    | nil => rfl
    | cons p m ih =>
      simp only [List.map_cons, insert]
      split
      · rfl
      · rw [List.map_cons, ih]
  induction pairs using List.reverseRecOn with
  | nil => rfl
  | append_singleton pairs p ih =>
    rw [List.map_append, List.map_singleton, ofList_concat, ofList_concat, ih, hinsert]

/-- The document of directions has the columns of the keys. -/
theorem Query.sortDocument_eq (q : Query) :
    FindRequest.sortDocument q.sort
      = (Assoc.ofList q.ordering).map fun k => (k.1, FindRequest.directionDatum k.2) := by
  rw [← Assoc.ofList_map, ordering, List.map_map]
  rfl

theorem isDescending_directionDatum (d : Direction) (o : Ordering) :
    (if Document.isDescending (FindRequest.directionDatum d) then o.swap else o) = d.orient o := by
  cases d with
  | ascending => rw [if_neg (by decide)]; rfl
  | descending => rw [if_pos (by decide)]; rfl

/-- Cells of one kind compare as the values that stand for them. -/
theorem Datum.compare?_ofScalar {v w : Scalar} (hkind : v.kind = w.kind) (hv : v.kind ≠ .float) :
    (ofScalar v).compare? (ofScalar w) = v.compare? w := by
  cases v <;> cases w <;> simp_all [Scalar.kind, ofScalar, compare?, integer?, numeric?,
    Scalar.compare?]

namespace Row

/-- A name with dots leads to nothing in a row. -/
theorem path?_of_dot (r : Row) {column : String} (h : '.' ∈ column.toList) :
    r.toDocument.path? column = none := by
  obtain ⟨name, path, hname, hcolumn⟩ := (Document.exists_first_dot column.toList).resolve_left
    (not_not_intro h)
  unfold Document.path? FieldPath.segments
  rw [hcolumn, Document.along?_dot hname, find?_toDocument]
  -- the value in front of the dot is no document
  cases r.last? (String.ofList name) with
  | none => rfl
  | some v => cases v <;> rfl

/-- Where two rows have cells of one kind, the values of their documents
compare as the cells. -/
theorem comparePlaces_toDocument {rows : List Row} {column : String} (h : Uniform rows column)
    (hdots : '.' ∉ column.toList) {a b : Row} (ha : a ∈ rows) (hb : b ∈ rows) :
    Document.comparePlaces (a.toDocument.path? column) (b.toDocument.path? column)
      = compareCells column a b := by
  obtain ⟨v, w, hv, hw, hkind, hfloat⟩ := h.exists_cells ha hb
  rw [path?_toDocument a hdots, path?_toDocument b hdots]
  unfold compareCells
  rw [hv, hw]
  show ((Datum.ofScalar v).compare? (Datum.ofScalar w)).getD .eq = (v.compare? w).getD .eq
  rw [Datum.compare?_ofScalar hkind hfloat]

/-- **What a document of directions makes of rows**: it compares them by the
columns without dots. -/
theorem compareBy_toDocument {rows : List Row} {keys : Assoc String Direction}
    (h : ∀ k ∈ keys, Uniform rows k.1) {a b : Row} (ha : a ∈ rows) (hb : b ∈ rows) :
    Document.compareBy (keys.map fun k => (k.1, FindRequest.directionDatum k.2))
        a.toDocument b.toDocument
      = lexicographic compareCells (keys.filter fun k => '.' ∉ k.1.toList) a b := by
  induction keys with
  | nil => rfl
  | cons k keys ih =>
    have hrest := ih fun k' hk' => h k' (List.mem_cons_of_mem _ hk')
    rw [List.map_cons, Document.compareBy, hrest, isDescending_directionDatum]
    by_cases hdots : '.' ∈ k.1.toList
    · -- neither row has a value at the path, so that the key decides nothing
      rw [path?_of_dot a hdots, path?_of_dot b hdots,
        List.filter_cons_of_neg (by simpa using hdots)]
      show (k.2.orient .eq).then _ = _
      rw [Direction.orient_eq]
      rfl
    · rw [comparePlaces_toDocument (h k List.mem_cons_self) hdots ha hb,
        List.filter_cons_of_pos (by simpa using hdots)]
      rfl

end Row

namespace Query

theorem uniform_ofList {q : Query} {rows : List Row} (h : ∀ k ∈ q.sort, Uniform rows k.field) :
    ∀ k ∈ Assoc.ofList q.ordering, Uniform rows k.1 := by
  intro k hk
  obtain ⟨k', hk', hfield⟩ := Assoc.exists_of_mem_ofList hk
  obtain ⟨key, hkey, rfl⟩ := List.mem_map.mp hk'
  exact hfield ▸ h key hkey

theorem uniform_effective {q : Query} {rows : List Row} (h : ∀ k ∈ q.sort, Uniform rows k.field) :
    ∀ k ∈ q.effective, Uniform rows k.1 :=
  fun k hk => uniform_ofList h k (List.mem_of_mem_filter hk)

/-- Rows are compared by the keys that are left of a query. -/
theorem compareBy_sortDocument {q : Query} {rows : List Row}
    (h : ∀ k ∈ q.sort, Uniform rows k.field) {a b : Row} (ha : a ∈ rows) (hb : b ∈ rows) :
    Document.compareBy (FindRequest.sortDocument q.sort) a.toDocument b.toDocument
      = lexicographic Row.compareCells q.effective a b := by
  rw [sortDocument_eq, effective]
  exact Row.compareBy_toDocument (uniform_ofList h) ha hb

end Query

/-! ## §3. Sorting. -/

/-- The numbers by which scalars of one kind are ordered. -/
def Scalar.code : Scalar → List Int
  | .integer n => [n.toInt]
  | .float _ => []
  | .text s => s.toList.map fun c => (c.toNat : Int)
  | .boolean b => [(b.toNat : Int)]

theorem Scalar.orderChars_eq (as bs : List Char) :
    orderChars as bs
      = compare (as.map fun c => (c.toNat : Int)) (bs.map fun c => (c.toNat : Int)) := by
  induction as generalizing bs with
  | nil => cases bs <;> rfl
  | cons a as ih =>
    cases bs with
    | nil => rfl
    | cons b bs =>
      rw [orderChars, List.map_cons, List.map_cons, List.compare_cons_cons, ih]
      by_cases hab : a = b
      · obtain rfl := hab
        simp
      · rw [if_neg hab]
        have hne : a.toNat ≠ b.toNat := fun h => hab (Char.toNat_inj.mp h)
        by_cases hlt : a.toNat < b.toNat
        · rw [if_pos hlt, Int.compare_eq_lt.mpr (by omega)]
          rfl
        · rw [if_neg hlt, Int.compare_eq_gt.mpr (by omega)]
          rfl

/-- Scalars of one kind compare as their numbers. -/
theorem Scalar.compare?_eq {v w : Scalar} (hkind : v.kind = w.kind) (hv : v.kind ≠ .float) :
    v.compare? w = some (compare v.code w.code) := by
  have hint : ∀ m n : Int, orderInt m n = compare [m] [n] := by
    intro m n
    rw [List.compare_cons_cons, List.compare_nil_nil, Ordering.then_eq]
    rfl
  cases v <;> cases w <;> simp_all [kind, compare?, code, orderText, orderChars_eq, orderBool]

/-- The numbers by which rows are ordered by a column. -/
def Row.code (column : String) (r : Row) : List Int := ((r.last? column).map Scalar.code).getD []

theorem Row.compareCells_eq {rows : List Row} {column : String} (h : Uniform rows column)
    {a b : Row} (ha : a ∈ rows) (hb : b ∈ rows) :
    compareCells column a b = compare (a.code column) (b.code column) := by
  obtain ⟨v, w, hv, hw, hkind, hfloat⟩ := h.exists_cells ha hb
  unfold compareCells code
  rw [hv, hw]
  show (v.compare? w).getD .eq = compare v.code w.code
  rw [Scalar.compare?_eq hkind hfloat]
  rfl

section Sorting

open Std

/-- Comparing by what is read off is transitive if it is so for that. -/
theorem transCmp_comap {α β : Type} {cmp : β → β → Ordering} [TransCmp cmp] (f : α → β) :
    TransCmp fun a b => cmp (f a) (f b) where
  eq_swap := OrientedCmp.eq_swap
  isLE_trans := TransCmp.isLE_trans

/-- An order turned around is one. -/
theorem transCmp_swap {α : Type} {cmp : α → α → Ordering} [TransCmp cmp] :
    TransCmp fun a b => (cmp a b).swap := by
  have hswap : (fun a b => (cmp a b).swap) = fun a b => cmp b a := by
    funext a b
    exact OrientedCmp.eq_swap.symm
  rw [hswap]
  exact TransCmp.opposite

/-- Comparing by several columns is transitive if it is so by each. -/
theorem transCmp_lexicographic {α : Type} {cmp : String → α → α → Ordering}
    (h : ∀ column, TransCmp (cmp column)) (keys : Assoc String Direction) :
    TransCmp (lexicographic cmp keys) := by
  induction keys with
  | nil => exact { eq_swap := rfl, isLE_trans := fun _ _ => rfl }
  | cons k keys ih =>
    obtain ⟨column, d⟩ := k
    have hcolumn := h column
    have hd : TransCmp fun a b => d.orient (cmp column a b) := by
      cases d with
      | ascending => exact hcolumn
      | descending => exact transCmp_swap
    show TransCmp (compareLex (fun a b => d.orient (cmp column a b)) (lexicographic cmp keys))
    infer_instance

/-- Two orders that agree on a list sort it alike. -/
theorem mergeSort_congr {α : Type} {le le' : α → α → Bool} {l : List α}
    (h : ∀ a ∈ l, ∀ b ∈ l, le a b = le' a b) : l.mergeSort le = l.mergeSort le' := by
  -- the one sorts the image of the list under the identity as the other
  have hsort : (l.mergeSort le).map id = (l.map id).mergeSort le' := List.map_mergeSort h
  rwa [List.map_id, List.map_id] at hsort

/-- **What is sorted is in order, and ties are as before.** -/
theorem pairwise_mergeSort_stable {α : Type} {cmp : α → α → Ordering} [TransCmp cmp]
    {R : α → α → Prop} {l : List α} (h : l.Pairwise R) :
    (l.mergeSort fun a b => cmp a b != .gt).Pairwise
      fun a b => cmp a b = .lt ∨ cmp a b = .eq ∧ R a b := by
  have hle : ∀ a b, (cmp a b != .gt) = (cmp a b).isLE := by
    intro a b
    cases cmp a b <;> rfl
  simp only [hle]
  have htrans : ∀ a b c, (cmp a b).isLE = true → (cmp b c).isLE = true → (cmp a c).isLE = true :=
    fun _ _ _ => TransCmp.isLE_trans
  have htotal : ∀ a b, ((cmp a b).isLE || (cmp b a).isLE) = true := by
    intro a b
    have hswap : cmp b a = (cmp a b).swap := OrientedCmp.eq_swap
    rw [hswap]
    cases cmp a b <;> rfl
  -- on the list as it was: its first element is put between what sorts
  -- strictly below it and the rest, and nothing else moves
  induction h with
  | nil =>
    rw [List.mergeSort_nil]
    exact List.Pairwise.nil
  | @cons a l hR _ ih =>
    obtain ⟨before, after, hsorted, hrest, hbefore⟩ := List.mergeSort_cons htrans htotal a l
    have hall := List.pairwise_mergeSort htrans htotal (a :: l)
    rw [hsorted, List.pairwise_append] at hall
    rw [hrest, List.pairwise_append] at ih
    rw [hsorted, List.pairwise_append]
    refine ⟨ih.1, List.pairwise_cons.mpr ⟨fun b hb => ?_, ih.2.1⟩, fun b hb c hc => ?_⟩
    · -- what is sorted behind the first element stood behind it
      have hle := (List.pairwise_cons.mp hall.2.1).1 b hb
      have hmem : b ∈ l := List.mem_mergeSort.mp (hrest ▸ List.mem_append_right _ hb)
      cases hcmp : cmp a b with
      | lt => exact .inl rfl
      | eq => exact .inr ⟨rfl, hR b hmem⟩
      | gt => rw [hcmp] at hle; cases hle
    · rcases List.mem_cons.mp hc with rfl | hc
      · -- what is sorted in front of it is below it
        have hgt := hbefore b hb
        have hswap : cmp c b = (cmp b c).swap := OrientedCmp.eq_swap
        rw [hswap] at hgt
        cases hcmp : cmp b c with
        | lt => exact .inl rfl
        | eq => rw [hcmp] at hgt; cases hgt
        | gt => rw [hcmp] at hgt; cases hgt
      · exact ih.2.2 b hb c hc

/-- Compares rows by the numbers of one column after the other. -/
def Row.compareByCodes (keys : Assoc String Direction) : Row → Row → Ordering :=
  lexicographic (fun column a b => compare (a.code column) (b.code column)) keys

theorem Row.transCmp_compareByCodes (keys : Assoc String Direction) :
    TransCmp (compareByCodes keys) :=
  transCmp_lexicographic (fun column => transCmp_comap (Row.code column)) keys

/-- On rows with cells of one kind in each column, the numbers are as good as
the cells. -/
theorem Row.compareByCodes_eq {rows : List Row} {keys : Assoc String Direction}
    (h : ∀ k ∈ keys, Uniform rows k.1) {a b : Row} (ha : a ∈ rows) (hb : b ∈ rows) :
    compareByCodes keys a b = lexicographic compareCells keys a b :=
  lexicographic_congr fun k hk => (compareCells_eq (h k hk) ha hb).symm

end Sorting

/-! ## §4. Rows in the order of the clause. -/

/-- The entries of a table, sorted as their rows are. -/
def Table.sortBy (keys : List SortKey) (t : Table) : Table :=
  t.mergeSort fun e f =>
    Document.compareBy (FindRequest.sortDocument keys) e.2.toDocument f.2.toDocument != .gt

/-- On rows with cells of one kind in each column, the keys of a query are an
order. -/
theorem Query.orders_of_uniform {q : Query} {rows found : List Row}
    (h : ∀ k ∈ q.sort, Uniform rows k.field) (hfound : ∀ r ∈ found, r ∈ rows) :
    q.Orders found := by
  have htrans : Std.TransCmp (Row.compareByCodes q.effective) :=
    Row.transCmp_compareByCodes q.effective
  have hcodes : ConsistentOn (Row.compareByCodes q.effective) found :=
    consistentOn_of_transCmp found
  refine hcodes.congr fun a ha b hb => ?_
  rw [compareBy_sortDocument h (hfound a ha) (hfound b hb),
    Row.compareByCodes_eq (uniform_effective h) (hfound a ha) (hfound b hb)]

namespace RelationalStore

/-- An entry of a table comes before another one by some keys; entries that
tie are in the order of their primary keys. -/
def Precedes (keys : Assoc String Direction) (e f : Int64 × Row) : Prop :=
  lexicographic Row.compareCells keys e.2 f.2 = .lt
    ∨ lexicographic Row.compareCells keys e.2 f.2 = .eq ∧ e.1.toInt < f.1.toInt

/-- The entries of a table whose rows meet the conditions of a query. -/
def entries (s : RelationalStore) (table : String) (q : Query) : Table :=
  (s.tables.get table).filter fun e => e.2.toDocument.holdsAll Sql.like q.conditions

/-- A query selects the rows that meet its conditions in the order of some
keys. -/
def SelectsInOrder [Pattern.Engine] [Sorter] (s : RelationalStore) (table : String)
    (columns : List Column) (q : Query) (keys : Assoc String Direction) : Prop :=
  ∃ found : Table, found.Perm (s.entries table q) ∧ found.Pairwise (Precedes keys)
    ∧ (s.select table columns q).1 = some (.ok ((Assoc.values found).map (·.project columns)))

end RelationalStore

/-- Sort keys by which rows can be sorted as the clause says: no column has
dots, and of several keys for one the last has the direction of the first. -/
def Query.Sortable (q : Query) : Prop :=
  ∀ k ∈ q.ordering, '.' ∉ k.1.toList
    ∧ Assoc.find? q.ordering.reverse k.1 = Assoc.find? q.ordering k.1

instance (q : Query) : Decidable q.Sortable :=
  inferInstanceAs (Decidable (∀ k ∈ q.ordering, '.' ∉ k.1.toList
    ∧ Assoc.find? q.ordering.reverse k.1 = Assoc.find? q.ordering k.1))

/-- Such keys order rows as they were given. -/
theorem Query.Sortable.lexicographic_effective {q : Query} (h : q.Sortable) {α : Type}
    (cmp : String → α → α → Ordering) (a b : α) :
    lexicographic cmp q.effective a b = lexicographic cmp q.ordering a b := by
  have hkeep : q.effective = Assoc.ofList q.ordering := by
    refine List.filter_eq_self.mpr fun k hk => ?_
    obtain ⟨k', hk', hfield⟩ := Assoc.exists_of_mem_ofList hk
    exact decide_eq_true (hfield ▸ (h k' hk').1)
  rw [hkeep]
  exact lexicographic_ofList cmp (fun k hk => (h k hk).2) a b

namespace RelationalStore

theorem mem_rows_of_mem_entries {s : RelationalStore} {table : String} {q : Query}
    {e : Int64 × Row} (he : e ∈ s.entries table q) : e.2 ∈ s.rows table :=
  List.mem_map_of_mem (List.mem_of_mem_filter he)

section Selecting

variable [Pattern.Engine] [Sorter]

/-- **A query selects entries of the table**, sorted as their rows are, if its
keys put them in an order. -/
theorem select_entries {s : RelationalStore} {q : Query} (hread : Fault.read ∉ s.faults)
    (hq : q.validate = .ok ()) (hfits : q.Fits) {table : String}
    (horders : q.Orders (Assoc.values (s.entries table q))) (columns : List Column) :
    (s.select table columns q).1
      = some (.ok ((Assoc.values (q.window (Table.sortBy q.sort (s.entries table q)))).map
          (·.project columns))) := by
  have hvalues : (s.rows table).filter (fun r => r.toDocument.holdsAll Sql.like q.conditions)
      = Assoc.values (s.entries table q) := by
    rw [rows, Assoc.values, List.filter_map]
    rfl
  have hsort : Row.sortBy q.sort (Assoc.values (s.entries table q))
      = some (Assoc.values (Table.sortBy q.sort (s.entries table q))) := by
    rw [Row.sortBy_of_orders horders]
    exact congrArg some (List.map_mergeSort (f := Prod.snd) fun _ _ _ _ => rfl).symm
  rw [select_eq hread hq, selected_eq hfits, Query.arrange, hvalues, hsort, Assoc.values,
    Assoc.values, ← Query.window_map]
  rfl

omit [Pattern.Engine] [Sorter] in
/-- Where cells of one column are of one kind, entries are sorted by the
numbers of their rows. -/
theorem sortBy_entries {s : RelationalStore} {table : String} {q : Query}
    (hcells : ∀ k ∈ q.sort, Uniform (s.rows table) k.field) :
    Table.sortBy q.sort (s.entries table q)
      = (s.entries table q).mergeSort fun e f =>
          Row.compareByCodes q.effective e.2 f.2 != .gt := by
  have hagree : ∀ e ∈ s.entries table q, ∀ f ∈ s.entries table q,
      (Document.compareBy (FindRequest.sortDocument q.sort) e.2.toDocument f.2.toDocument != .gt)
        = (Row.compareByCodes q.effective e.2 f.2 != .gt) := by
    intro e he f hf
    have he' := mem_rows_of_mem_entries he
    have hf' := mem_rows_of_mem_entries hf
    rw [Query.compareBy_sortDocument hcells he' hf',
      Row.compareByCodes_eq (Query.uniform_effective hcells) he' hf']
  exact mergeSort_congr hagree

/-- Rows are selected in the order of the keys that are left of a query. -/
theorem selectsInOrder_effective {s : RelationalStore} {q : Query} (hread : Fault.read ∉ s.faults)
    (hq : q.validate = .ok ()) (hfits : q.Fits) (hlimit : q.limit = 0) (hoffset : q.offset = 0)
    {table : String} (htable : (s.tables.get table).Ascending) (columns : List Column)
    (hcells : ∀ k ∈ q.sort, Uniform (s.rows table) k.field) :
    s.SelectsInOrder table columns q q.effective := by
  have hrow := Row.transCmp_compareByCodes q.effective
  have hentry : Std.TransCmp fun e f : Int64 × Row => Row.compareByCodes q.effective e.2 f.2 :=
    transCmp_comap Prod.snd
  refine ⟨Table.sortBy q.sort (s.entries table q), List.mergeSort_perm _ _, ?_, ?_⟩
  · -- the table is in order of its keys, which ties keep
    have hkeys : (s.entries table q).Pairwise fun e f => e.1.toInt < f.1.toInt :=
      List.Pairwise.sublist List.filter_sublist htable
    rw [sortBy_entries hcells]
    refine (pairwise_mergeSort_stable hkeys).imp_of_mem fun {e f} he hf h => ?_
    have he' := mem_rows_of_mem_entries (List.mem_mergeSort.mp he)
    have hf' := mem_rows_of_mem_entries (List.mem_mergeSort.mp hf)
    rwa [Row.compareByCodes_eq (Query.uniform_effective hcells) he' hf'] at h
  · have horders : q.Orders (Assoc.values (s.entries table q)) := by
      refine Query.orders_of_uniform hcells fun r hr => ?_
      obtain ⟨e, he, rfl⟩ := List.mem_map.mp hr
      exact mem_rows_of_mem_entries he
    rw [select_entries hread hq hfits horders, Query.window_all hlimit hoffset]

/-- **ROWS IN THE ORDER OF THE CLAUSE.**  Reading being possible, let a query
make sense, its patterns fit into the machine and nothing be cut, and let
every row of a table have a cell in each column that is sorted by, those of
one column being integers, texts or truth values.  The query selects the rows
that meet its conditions in the order of its keys, of which a repeated column
has its first place and its last direction and a column with dots is left
out; ties are in the order of primary keys.  This is the order that the clause
of the query lists if no column has dots and the last key of each has the
direction of the first. -/
theorem select_ordered {s : RelationalStore} {q : Query} (hread : Fault.read ∉ s.faults)
    (hq : q.validate = .ok ()) (hfits : q.Fits) (hlimit : q.limit = 0) (hoffset : q.offset = 0)
    {table : String} (htable : (s.tables.get table).Ascending) (columns : List Column)
    (hcells : ∀ k ∈ q.sort, Uniform (s.rows table) k.field) :
    s.SelectsInOrder table columns q q.effective
      ∧ (q.Sortable → s.SelectsInOrder table columns q q.ordering) := by
  have heffective := selectsInOrder_effective hread hq hfits hlimit hoffset htable columns hcells
  refine ⟨heffective, fun hsortable => ?_⟩
  obtain ⟨found, hperm, hordered, hselect⟩ := heffective
  refine ⟨found, hperm, hordered.imp fun {e f} h => ?_, hselect⟩
  unfold Precedes at h ⊢
  rwa [hsortable.lexicographic_effective] at h

end Selecting

open DataAccess.Sample in
/-- Three tasks, of which two have the same state. -/
def taskStore : RelationalStore :=
  (Run.of [
    .seed "tasks" "id"
      (Row.ofList [("id", .integer 3), ("done", .boolean false), ("name", .text "b")]),
    .seed "tasks" "id"
      (Row.ofList [("id", .integer 2), ("done", .boolean true), ("name", .text "a")]),
    .seed "tasks" "id"
      (Row.ofList [("id", .integer 1), ("done", .boolean false), ("name", .text "b")])]
  ).session.store

/-- The tasks by their names, downwards, and then by their states; the name is
asked for twice. -/
def taskQuery : Query := Query.empty.sortBy ["-name", "done", "-name"]

open DataAccess.Sample in
/-- A key that is repeated in its direction makes no difference. -/
theorem select_ordered_tasks :
    Fault.read ∉ taskStore.faults ∧ taskQuery.validate = .ok () ∧ taskQuery.Fits
      ∧ (taskStore.tables.get "tasks").Ascending
      ∧ (∀ k ∈ taskQuery.sort, Uniform (taskStore.rows "tasks") k.field)
      ∧ taskQuery.Sortable
      ∧ taskStore.SelectsInOrder "tasks" [⟨"id", .integer⟩] taskQuery taskQuery.ordering := by
  have hread : Fault.read ∉ taskStore.faults := by decide
  have hq : taskQuery.validate = .ok () := by decide
  have hfits : taskQuery.Fits := fun c hc => by cases hc
  have htable : (taskStore.tables.get "tasks").Ascending := (Run.sound_of _).ascending _
  have hcells : ∀ k ∈ taskQuery.sort, Uniform (taskStore.rows "tasks") k.field := by
    intro k hk
    have hkind : k.field = "name" ∨ k.field = "done" := by revert k hk; decide
    rcases hkind with hname | hdone
    · rw [hname]
      exact ⟨.text, by decide, by decide⟩
    · rw [hdone]
      exact ⟨.boolean, by decide, by decide⟩
  have hsortable : taskQuery.Sortable := by decide
  exact ⟨hread, hq, hfits, htable, hcells, hsortable,
    (select_ordered hread hq hfits rfl rfl htable [⟨"id", .integer⟩] hcells).2 hsortable⟩

/-! ## §5. Rows in another order. -/

instance (keys : Assoc String Direction) (e f : Int64 × Row) : Decidable (Precedes keys e f) :=
  inferInstanceAs (Decidable (_ ∨ _ ∧ _))

/-- Two entries stand in the order in which they have to. -/
theorem eq_pair_of_precedes {keys : Assoc String Direction} {e f : Int64 × Row} {found : Table}
    (hperm : found.Perm [e, f]) (hordered : found.Pairwise (Precedes keys))
    (hno : ¬ Precedes keys f e) : found = [e, f] := by
  obtain ⟨a, b, rfl⟩ := List.length_eq_two.mp hperm.length_eq
  have hab : Precedes keys a b := (List.pairwise_cons.mp hordered).1 b (List.mem_singleton.mpr rfl)
  have ha : a ∈ [e, f] := hperm.mem_iff.mp List.mem_cons_self
  rcases List.mem_pair.mp ha with rfl | rfl
  · have hb := List.singleton_perm_singleton.mp (List.perm_cons a |>.mp hperm)
    rw [hb]
  · have hb := List.singleton_perm_singleton.mp
      (List.perm_cons a |>.mp (hperm.trans (List.Perm.swap a e [])))
    rw [hb] at hab
    exact absurd hab hno

/-- What is selected in the order of some keys is not in that of others which
put two rows the other way round. -/
theorem SelectsInOrder.not [Pattern.Engine] [Sorter] {s : RelationalStore} {table : String}
    {columns : List Column} {q : Query} {keys keys' : Assoc String Direction} (h : s.SelectsInOrder table columns q keys)
    {e f : Int64 × Row} (hentries : s.entries table q = [e, f]) (hkeys : ¬ Precedes keys e f)
    (hkeys' : ¬ Precedes keys' f e) (hrows : e.2.project columns ≠ f.2.project columns) :
    ¬ s.SelectsInOrder table columns q keys' := by
  rintro ⟨found', hperm', hordered', hselect'⟩
  obtain ⟨found, hperm, hordered, hselect⟩ := h
  rw [hentries] at hperm hperm'
  obtain rfl := eq_pair_of_precedes (hperm.trans (List.Perm.swap f e [])) hordered hkeys
  obtain rfl := eq_pair_of_precedes hperm' hordered' hkeys'
  have hanswers := Except.ok.inj (Option.some.inj (hselect.symm.trans hselect'))
  exact hrows (List.cons.inj hanswers).1.symm

open DataAccess.Sample in
/-- Two rows with names. -/
def nameStore : RelationalStore :=
  (Run.of [
    .seed "t" "id" (Row.ofList [("id", .integer 1), ("name", .text "a")]),
    .seed "t" "id" (Row.ofList [("id", .integer 2), ("name", .text "b")])]).session.store

/-- The rows by their names, upwards, and then downwards. -/
def nameQuery : Query := Query.empty.sortBy ["name", "-name"]

open DataAccess.Sample in
/-- **A later key turns an earlier one around**: the clause lists a name
upwards first, and the rows are selected by it downwards. -/
theorem select_not_as_listed :
    Fault.read ∉ nameStore.faults ∧ nameQuery.validate = .ok () ∧ nameQuery.Fits
      ∧ nameQuery.limit = 0 ∧ nameQuery.offset = 0
      ∧ (∀ k ∈ nameQuery.sort, Uniform (nameStore.rows "t") k.field)
      ∧ nameQuery.ordering = [("name", .ascending), ("name", .descending)]
      ∧ (Sql.clauseOf nameQuery).text = "ORDER BY name ASC, name DESC"
      ∧ ¬ nameStore.SelectsInOrder "t" [⟨"id", .integer⟩] nameQuery nameQuery.ordering := by
  have hread : Fault.read ∉ nameStore.faults := by decide
  have hq : nameQuery.validate = .ok () := by decide
  have hfits : nameQuery.Fits := fun c hc => by cases hc
  have hcells : ∀ k ∈ nameQuery.sort, Uniform (nameStore.rows "t") k.field := by
    intro k hk
    have hname : k.field = "name" := by revert k hk; decide
    rw [hname]
    exact ⟨.text, by decide, by decide⟩
  have heffective := selectsInOrder_effective hread hq hfits rfl rfl
    ((Run.sound_of _).ascending "t") [⟨"id", .integer⟩] hcells
  refine ⟨hread, hq, hfits, rfl, rfl, hcells, by decide, by decide, ?_⟩
  exact heffective.not rfl (by decide) (by decide) (by decide)

end RelationalStore

end DataAccess
