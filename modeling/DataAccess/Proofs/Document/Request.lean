/-
  DataAccess.Proofs.Document.Request — what a request to a document store
  still tells of its query.

  A request is made of documents.  An operand may stand plain or within a
  document that lists operators, so what is asked of a field has to be told
  from how it is written.  And a document has one place for each field: a
  sort key or a projected field that is repeated is written into the place of
  the first one.  So the order of the keys that is left is

      fields in the order in which they first occur,
      each with the direction in which it last occurs,

  and nothing else is lost.

  Main statements:
    * `predicateDatum_injective` — what is asked is read off how it is written;
    * `keys_insertAll`, `ofList_eq` — what is left of pairs that are written one
                                   by one;
    * `sortDocument_lastKeys`    — so the directions are those of the last keys;
    * `translate_loses_nothing`  — queries that have one request ask for the same.
-/
import DataAccess.Proofs.Document.Filter
import DataAccess.Proofs.Relational.Ordering

namespace DataAccess

/-! ## §1. Conditions. -/

namespace Datum

/-- A scalar is read off the value that stands for it; doubles are told apart
bit by bit. -/
theorem ofScalar_injective {v w : Scalar} (h : ofScalar v = ofScalar w) : v = w := by
  cases v <;> cases w <;> cases h <;> rfl

/-- No scalar is written as a document. -/
theorem ofScalar_ne_document (v : Scalar) (fs : Document) : ofScalar v ≠ document fs := by
  intro h
  cases v <;> cases h

end Datum

namespace FindRequest

/-- **What is asked is read off how it is written**: an operand alone stands
plain, and everything else is told by its operators. -/
theorem predicateDatum_injective {p p' : Predicate} (h : predicateDatum p = predicateDatum p') :
    p = p' := by
  -- two operators are never the same, so that both predicates are of one kind
  cases p with
  | equals v =>
    cases p' with
    | equals w => rw [Datum.ofScalar_injective h]
    | _ => exact absurd h (Datum.ofScalar_ne_document v _)
  | oneOf vs =>
    cases p' with
    | equals w => exact absurd h.symm (Datum.ofScalar_ne_document w _)
    | oneOf ws =>
      have hitems : vs.map Datum.ofScalar = ws.map Datum.ofScalar := by
        simpa using h
      have hinj : Function.Injective Datum.ofScalar := fun _ _ => Datum.ofScalar_injective
      rw [List.map_injective_iff.mpr hinj hitems]
    | like pattern => simp at h
    | between low high => simp at h
  | like pattern =>
    cases p' with
    | equals w => exact absurd h.symm (Datum.ofScalar_ne_document w _)
    | like pattern' =>
      have hpattern : pattern = pattern' := by simpa using h
      rw [hpattern]
    | oneOf ws => simp at h
    | between low high => simp at h
  | between low high =>
    cases p' with
    | equals w => exact absurd h.symm (Datum.ofScalar_ne_document w _)
    | between low' high' =>
      have hbounds : Datum.ofScalar low = Datum.ofScalar low'
          ∧ Datum.ofScalar high = Datum.ofScalar high' := by
        simpa using h
      rw [Datum.ofScalar_injective hbounds.1, Datum.ofScalar_injective hbounds.2]
    | oneOf ws => simp at h
    | like pattern => simp at h

/-- **A filter is that of one list of conditions.** -/
theorem filterDocument_eq_iff {cs cs' : ConditionSet} :
    filterDocument cs = filterDocument cs' ↔ cs.toList = cs'.toList := by
  rw [Document.filterDocument_eq, Document.filterDocument_eq]
  constructor
  · intro h
    have hinj : Function.Injective fun c : Condition => (c.1, predicateDatum c.2) := by
      intro c c' hc
      obtain ⟨hfield, hasked⟩ := Prod.mk.inj hc
      exact Prod.ext hfield (predicateDatum_injective hasked)
    exact List.map_injective_iff.mpr hinj h
  · intro h
    rw [h]

end FindRequest

/-! ## §2. Pairs that are written one by one. -/

namespace Assoc

variable {κ α : Type} [DecidableEq κ]

/-- **Pairs that are written one by one** leave the keys that are there in their
places; the new ones follow in the order in which they first occur. -/
theorem keys_insertAll (m pairs : Assoc κ α) :
    keys (insertAll m pairs)
      = keys m ++ ((keys pairs).filter fun k => k ∉ keys m).eraseDups := by
  induction pairs using List.reverseRecOn with
  | nil => exact (List.append_nil _).symm
  | append_singleton pairs p ih =>
    have hkeys : keys (pairs ++ [p]) = keys pairs ++ [p.1] := List.map_append
    rw [insertAll_concat, keys_insert, ih, hkeys, List.filter_append, List.eraseDups_append]
    -- the last key was there before, is one of the others, or is a new one
    by_cases hp : p.1 ∈ keys m
    · simp [hp]
    · by_cases hold : p.1 ∈ keys pairs
      · simp [hp, hold, List.removeAll]
      · simp [hp, hold, List.removeAll, List.eraseDups_cons]

theorem keys_ofList (pairs : Assoc κ α) : keys (ofList pairs) = (keys pairs).eraseDups := by
  have hnew : (keys pairs).filter (fun k => k ∉ keys ([] : Assoc κ α)) = keys pairs :=
    List.filter_eq_self.mpr fun _ _ => rfl
  rw [ofList, keys_insertAll, hnew]
  rfl

/-- Where no key is listed twice, looking up the keys in order gives the
pairs. -/
theorem filterMap_keys {m : Assoc κ α} (h : (keys m).Nodup) :
    ((keys m).filterMap fun k => (find? m k).map fun a => (k, a)) = m := by
  induction m with
  | nil => rfl
  | cons p m ih =>
    rw [keys_cons, List.nodup_cons] at h
    have hhead : (find? (p :: m) p.1).map (fun a => (p.1, a)) = some p := by
      rw [find?_cons, if_pos rfl]
      rfl
    have htail : ∀ k ∈ keys m, (find? (p :: m) k).map (fun a => (k, a))
        = (find? m k).map fun a => (k, a) := by
      intro k hk
      have hne : p.1 ≠ k := fun hpk => h.1 (hpk ▸ hk)
      rw [find?_cons, if_neg hne]
    show (p.1 :: keys m).filterMap (fun k => (find? (p :: m) k).map fun a => (k, a)) = p :: m
    rw [List.filterMap_cons_some (f := fun k => (find? (p :: m) k).map fun a => (k, a)) hhead,
      List.filterMap_congr htail, ih h.2]

/-- **What is left of pairs that are written one by one**: each key in the
place where it first occurs, with the value that it last has. -/
theorem ofList_eq (pairs : Assoc κ α) :
    ofList pairs
      = (keys pairs).eraseDups.filterMap fun k => (find? pairs.reverse k).map fun a => (k, a) := by
  have hnodup : (keys (ofList pairs)).Nodup := nodup_keys_insertAll (m := []) List.nodup_nil pairs
  have hlist := filterMap_keys hnodup
  simp only [find?_ofList] at hlist
  rw [← keys_ofList, hlist]

omit [DecidableEq κ] in
/-- Changing values without losing any loses no pair. -/
theorem map_values_inj {β : Type} {f : α → β} (hf : Function.Injective f) {m m' : Assoc κ α} :
    (m.map fun p => (p.1, f p.2)) = (m'.map fun p => (p.1, f p.2)) ↔ m = m' := by
  have hinj : Function.Injective fun p : κ × α => (p.1, f p.2) := by
    intro p p' hp
    obtain ⟨hkey, hvalue⟩ := Prod.mk.inj hp
    exact Prod.ext hkey (hf hvalue)
  exact (List.map_injective_iff.mpr hinj).eq_iff

end Assoc

/-! ## §3. Sort keys and projected fields. -/

/-- The fields that a query sorts by, in the order in which they first occur,
each with the key that last names it. -/
def Query.lastKeys (q : Query) : List SortKey :=
  (q.sort.map (·.field)).eraseDups.filterMap fun field =>
    q.sort.reverse.find? fun k => k.field = field

namespace Query

/-- A sort key as a column with a direction. -/
def columnOf (k : SortKey) : String × Direction := (k.field, k.direction)

theorem columnOf_injective : Function.Injective columnOf := by
  intro k k' h
  cases k
  cases k'
  cases h
  rfl

/-- The direction of the first key that names a field. -/
theorem find?_map_columnOf (keys : List SortKey) (field : String) :
    (Assoc.find? (keys.map columnOf) field).map (fun d => (field, d))
      = (keys.find? fun k => k.field = field).map columnOf := by
  induction keys with
  | nil => rfl
  | cons k keys ih =>
    by_cases hk : k.field = field
    · have hfind : Assoc.find? ((k :: keys).map columnOf) field = some k.direction := if_pos hk
      rw [hfind, List.find?_cons_of_pos (by simpa using hk)]
      show some (field, k.direction) = some (k.field, k.direction)
      rw [hk]
    · have hfind : Assoc.find? ((k :: keys).map columnOf) field
          = Assoc.find? (keys.map columnOf) field := if_neg hk
      rw [hfind, List.find?_cons_of_neg (by simpa using hk), ih]

/-- The keys that are left when they are written into one document are the
last ones of their fields. -/
theorem ofList_ordering (q : Query) : Assoc.ofList q.ordering = q.lastKeys.map columnOf := by
  have hordering : q.ordering = q.sort.map columnOf := rfl
  have hfields : Assoc.keys (q.sort.map columnOf) = q.sort.map (·.field) := List.map_map
  rw [hordering, Assoc.ofList_eq, hfields, lastKeys, List.map_filterMap, ← List.map_reverse]
  simp only [find?_map_columnOf]

end Query

namespace FindRequest

theorem directionDatum_injective : Function.Injective directionDatum := by
  have hne : (1 : Int32) ≠ -1 := by decide
  intro d d' h
  cases d with
  | ascending =>
    cases d' with
    | ascending => rfl
    | descending => exact absurd (Datum.int32.inj h) hne
  | descending =>
    cases d' with
    | ascending => exact absurd (Datum.int32.inj h).symm hne
    | descending => rfl

/-- **The directions of a request are those of the last keys.** -/
theorem sortDocument_lastKeys {q q' : Query} :
    sortDocument q.sort = sortDocument q'.sort ↔ q.lastKeys = q'.lastKeys := by
  rw [Query.sortDocument_eq, Query.sortDocument_eq, Assoc.map_values_inj directionDatum_injective,
    Query.ofList_ordering, Query.ofList_ordering]
  exact (List.map_injective_iff.mpr Query.columnOf_injective).eq_iff

/-- The document of a projection lists every field once, in the place where it
first occurs. -/
theorem ofList_projected (fields : List String) :
    Assoc.ofList (fields.map fun f => (f, Datum.int32 1))
      = fields.eraseDups.map fun f => (f, Datum.int32 1) := by
  have hkeys : Assoc.keys (fields.map fun f => (f, Datum.int32 1)) = fields := by
    rw [Assoc.keys, List.map_map]
    exact List.map_id fields
  have hfind : ∀ (names : List String) (f : String), f ∈ names →
      Assoc.find? (names.map fun f => (f, Datum.int32 1)) f = some (.int32 1) := by
    intro names f hf
    induction names with
    | nil => cases hf
    | cons n names ih =>
      by_cases hn : n = f
      · exact if_pos hn
      · have hrest : f ∈ names := (List.mem_cons.mp hf).resolve_left fun h => hn h.symm
        exact (if_neg hn).trans (ih hrest)
  rw [Assoc.ofList_eq, hkeys, ← List.map_reverse]
  -- every field that is listed has the same value
  refine (List.filterMap_congr fun f hf => ?_).trans (congrFun List.filterMap_eq_map _)
  have hmem : f ∈ fields.reverse := List.mem_reverse.mpr (List.mem_eraseDups.mp hf)
  rw [hfind _ f hmem]
  rfl

/-- **The projection of a request names the fields of its query**, each where
it first occurs. -/
theorem projectionDocument_eq_iff {fields fields' : List String} :
    projectionDocument fields = projectionDocument fields'
      ↔ fields.eraseDups = fields'.eraseDups := by
  have hinj : Function.Injective fun f : String => (f, Datum.int32 1) :=
    fun _ _ h => (Prod.mk.inj h).1
  have hsome : ∀ f fs, projectionDocument (f :: fs)
      = some ((f :: fs).eraseDups.map fun f => (f, Datum.int32 1)) := by
    intro f fs
    rw [← ofList_projected]
    rfl
  have hfull : ∀ (f : String) (fs : List String), (f :: fs).eraseDups ≠ [] := by
    intro f fs h
    rw [List.eraseDups_cons] at h
    cases h
  -- only the empty projection asks for everything
  cases fields with
  | nil =>
    cases fields' with
    | nil => exact iff_of_true rfl rfl
    | cons f' fs' =>
      rw [hsome]
      exact ⟨fun h => (nomatch h), fun h => absurd h.symm (hfull f' fs')⟩
  | cons f fs =>
    rw [hsome]
    cases fields' with
    | nil => exact ⟨fun h => (nomatch h), fun h => absurd h (hfull f fs)⟩
    | cons f' fs' =>
      rw [hsome, Option.some_inj]
      exact (List.map_injective_iff.mpr hinj).eq_iff

/-! ## §4. Requests. -/

/-- A bound that is not negative is read off what is left of it. -/
theorem limit_eq_iff {n n' : Int64} (hn : 0 ≤ n.toInt) (hn' : 0 ≤ n'.toInt) :
    ((if 0 < n.toInt then some n else none) = if 0 < n'.toInt then some n' else none)
      ↔ n = n' := by
  constructor
  · intro h
    -- a bound of zero is left out, and no other one is
    by_cases hpos : 0 < n.toInt <;> by_cases hpos' : 0 < n'.toInt
    · rw [if_pos hpos, if_pos hpos'] at h
      exact Option.some.inj h
    · rw [if_pos hpos, if_neg hpos'] at h
      cases h
    · rw [if_neg hpos, if_pos hpos'] at h
      cases h
    · apply Int64.toInt_inj.mp
      omega
  · intro h
    rw [h]

theorem skip_eq_iff {n n' : Int64} (hn : 0 ≤ n.toInt) (hn' : 0 ≤ n'.toInt) :
    ((if 0 < n.toInt then some n.toInt.toNat else none)
        = if 0 < n'.toInt then some n'.toInt.toNat else none) ↔ n = n' := by
  constructor
  · intro h
    apply Int64.toInt_inj.mp
    by_cases hpos : 0 < n.toInt <;> by_cases hpos' : 0 < n'.toInt
    · rw [if_pos hpos, if_pos hpos'] at h
      have hnat := Option.some.inj h
      omega
    · rw [if_pos hpos, if_neg hpos'] at h
      cases h
    · rw [if_neg hpos, if_pos hpos'] at h
      cases h
    · omega
  · intro h
    rw [h]

/-- **A REQUEST LOSES NOTHING THAT ITS QUERY ASKS FOR.**  Queries that make
sense have requests.  Those of two queries are the same, their documents as
lists of fields in order and doubles bit by bit, exactly if the queries have
the same conditions in the same order, the same limit and the same offset, if
they project the same fields in the order in which these first occur, and if
they sort by the same fields in the order in which these first occur, each in
the direction in which it last occurs. -/
theorem translate_loses_nothing {q q' : Query} (h : q.validate = .ok ())
    (h' : q'.validate = .ok ()) :
    ∃ r r', translate q = .ok r ∧ translate q' = .ok r'
      ∧ (r = r' ↔ q.conditions.toList = q'.conditions.toList ∧ q.limit = q'.limit
        ∧ q.offset = q'.offset ∧ q.projection.eraseDups = q'.projection.eraseDups
        ∧ q.lastKeys = q'.lastKeys) := by
  obtain ⟨-, -, -, hlimit, hoffset⟩ := (Query.validate_ok_iff q).mp h
  obtain ⟨-, -, -, hlimit', hoffset'⟩ := (Query.validate_ok_iff q').mp h'
  refine ⟨ofQuery q, ofQuery q', translate_ok_iff.mpr ⟨h, rfl⟩, translate_ok_iff.mpr ⟨h', rfl⟩, ?_⟩
  -- part by part
  have hparts : ofQuery q = ofQuery q'
      ↔ filterDocument q.conditions = filterDocument q'.conditions
        ∧ sortDocument q.sort = sortDocument q'.sort
        ∧ projectionDocument q.projection = projectionDocument q'.projection
        ∧ ((if 0 < q.limit.toInt then some q.limit else none)
          = if 0 < q'.limit.toInt then some q'.limit else none)
        ∧ ((if 0 < q.offset.toInt then some q.offset.toInt.toNat else none)
          = if 0 < q'.offset.toInt then some q'.offset.toInt.toNat else none) := by
    simp only [ofQuery, FindRequest.mk.injEq]
  rw [hparts, filterDocument_eq_iff, sortDocument_lastKeys, projectionDocument_eq_iff,
    limit_eq_iff hlimit hlimit', skip_eq_iff hoffset hoffset']
  constructor
  · intro hsame
    obtain ⟨hconditions, hsort, hprojection, hlim, hoff⟩ := hsame
    exact ⟨hconditions, hlim, hoff, hprojection, hsort⟩
  · intro hsame
    obtain ⟨hconditions, hlim, hoff, hprojection, hsort⟩ := hsame
    exact ⟨hconditions, hsort, hprojection, hlim, hoff⟩

/-- A name that is sorted by twice has its first place and its last direction,
and a field that is projected twice its first place; a text that looks like an
operator is still an operand. -/
theorem translate_loses_nothing_repeated :
    ∃ r r' r'',
      translate (((Query.empty.filter "tag" (.equals (.text "$in"))).sortBy
          ["name", "-age", "-name"]).select ["name", "age", "name"]) = .ok r
        ∧ translate (((Query.empty.filter "tag" (.equals (.text "$in"))).sortBy
          ["-name", "-age"]).select ["name", "age"]) = .ok r'
        ∧ translate (((Query.empty.filter "tag" (.oneOf [.text "$in"])).sortBy
          ["-name", "-age"]).select ["name", "age"]) = .ok r''
        ∧ r = r' ∧ r' ≠ r'' := by
  have hvalid : (((Query.empty.filter "tag" (.equals (.text "$in"))).sortBy
      ["name", "-age", "-name"]).select ["name", "age", "name"]).validate = .ok () := by decide
  have hvalid' : (((Query.empty.filter "tag" (.equals (.text "$in"))).sortBy
      ["-name", "-age"]).select ["name", "age"]).validate = .ok () := by decide
  have hvalid'' : (((Query.empty.filter "tag" (.oneOf [.text "$in"])).sortBy
      ["-name", "-age"]).select ["name", "age"]).validate = .ok () := by decide
  obtain ⟨r, r', hr, hr', hiff⟩ := translate_loses_nothing hvalid hvalid'
  obtain ⟨s, r'', hs, hr'', hiff'⟩ := translate_loses_nothing hvalid' hvalid''
  obtain rfl : r' = s := Except.ok.inj (hr'.symm.trans hs)
  refine ⟨r, r', r'', hr, hr', hr'', hiff.mpr (by decide), fun hsame => ?_⟩
  have hconditions := (hiff'.mp hsame).1
  exact absurd hconditions (by decide)

end FindRequest

end DataAccess
