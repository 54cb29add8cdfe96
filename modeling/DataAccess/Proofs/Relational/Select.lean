/-
  DataAccess.Proofs.Relational.Select — which rows a query selects.

  Rows are put to a filter that was made for documents.  In this filter the
  patterns of documents are written over by those of the relational store,
  which are LIKE patterns put as texts for the machine.  What has to be shown
  is that nothing of the patterns of documents is left, that the cell behind
  a name is the value that the filter sees, and that the machine does what
  LIKE says.

  Main statements:
    * `rowFilter_eq`     — the filter has a part for each condition, and no
                           pattern of a document is left in it;
    * `isAsExpected_rowDatum` — what the part of a condition does;
    * `selected_eq`      — a query selects the rows that meet its conditions;
    * `arrange_of_orders` — and lists them if they can be put in an order;
    * `path?_toDocument` — a name without dots leads to the cell of a row;
    * `select_like`      — a single LIKE selects the rows that it matches.
-/
import DataAccess.Proofs.Document.Filter
import DataAccess.Proofs.Relational.CommitOrder
import DataAccess.Proofs.Sql.LikePattern
import DataAccess.Sample.Engines

namespace DataAccess

open DataAccess.Pattern

/-! ## §1. The filter that rows are put to. -/

/-- What the filter for rows asks of a field. -/
def rowDatum : Predicate → Datum
  | .like pattern => .document [("$regex", .string (Sql.likeText pattern))]
  | p => FindRequest.predicateDatum p

/-- Going over the conditions turns the parts of the filter one by one into
those for rows. -/
theorem overwrite_patterns (done : List Condition) {todo : List Condition}
    (h : (Assoc.keys (done ++ todo)).Nodup) :
    todo.foldl (fun filter c => match c.2 with
        | .like pattern =>
            Assoc.insert filter c.1 (.document [("$regex", .string (Sql.likeText pattern))])
        | _ => filter)
        (done.map (fun c => (c.1, rowDatum c.2))
          ++ todo.map fun c => (c.1, FindRequest.predicateDatum c.2))
      = (done ++ todo).map fun c => (c.1, rowDatum c.2) := by
  induction todo generalizing done with
  | nil => rw [List.foldl_nil, List.map_nil, List.append_nil, List.append_nil]
  | cons c todo ih =>
    have hc : c.1 ∉ Assoc.keys (done.map fun c => (c.1, rowDatum c.2)) := by
      have hkeys : Assoc.keys (done.map fun c => (c.1, rowDatum c.2)) = Assoc.keys done :=
        List.map_map
      rw [hkeys]
      intro hm
      rw [Assoc.keys_append, List.nodup_append] at h
      exact h.2.2 c.1 hm c.1 List.mem_cons_self rfl
    rw [← List.singleton_append, ← List.append_assoc] at h ⊢
    rw [← ih _ h, List.singleton_append, List.foldl_cons, List.map_cons, List.map_append,
      List.append_assoc, List.map_singleton, List.singleton_append]
    congr 1
    -- only a pattern is written over, the other parts are the same already
    obtain ⟨field, p⟩ := c
    cases p with
    | like pattern => exact Assoc.insert_middle hc _ _
    | _ => rfl

/-- **The filter for rows has a part for each condition**, in their order, and
no pattern of a document is left in it. -/
theorem rowFilter_eq (cs : ConditionSet) :
    rowFilter cs = cs.toList.map fun c => (c.1, rowDatum c.2) := by
  rw [rowFilter, Document.filterDocument_eq]
  -- nothing is done yet
  exact overwrite_patterns [] cs.nodup

namespace Sql

/-- The machine finds a LIKE pattern where LIKE matches. -/
theorem occurs_likeText (pattern text : String) :
    Pattern.occurs ⟨false, false⟩ (likeText pattern) text = like pattern text := by
  rw [Pattern.occurs, read?_likeText, Option.any_some, Bool.eq_iff_iff, occursIn_likeNode, like,
    likeChars_iff]

end Sql

section Filters

variable [Engine]

/-- **The part of a condition says what the condition asks** of a cell, if its
pattern fits. -/
theorem isAsExpected_rowDatum {p : Predicate} (hp : ∀ pattern, p = .like pattern → Sql.Fits pattern)
    (x : Option Datum) :
    Document.isAsExpected x (rowDatum p) = .ok (x.any (p.holds Sql.like)) := by
  cases p with
  | equals v => exact Document.isAsExpected_ofScalar x v
  | oneOf vs => exact Document.isAsExpected_in x vs
  | between low high => exact Document.isAsExpected_between x low high Sql.like
  | like pattern =>
    -- a single operator without options, where documents have options beside it
    have hops : Document.isOperators [("$regex", .string (Sql.likeText pattern))] = true := by
      simp [Document.isOperators]
    have hoptions : Document.patternOptions [("$regex", .string (Sql.likeText pattern))]
        = ⟨false, false⟩ := by
      simp [Document.patternOptions, Assoc.find?]
    have hfits : Sql.Fits pattern := hp pattern rfl
    have hread : compile ⟨false, false⟩ (Sql.likeText pattern)
        = .ok (Sql.likeNode pattern.toList) := by
      rw [Sql.compile_likeText, if_pos hfits]
    have hholds : (Predicate.like (Sql.likeText pattern)).holds (occurs ⟨false, false⟩)
        = (Predicate.like pattern).holds Sql.like := by
      funext x
      cases x <;> simp only [Predicate.holds, Sql.occurs_likeText]
    simp only [rowDatum, Document.isAsExpected, hops, if_true, hoptions, Document.operatorsHold,
      Document.operatorHolds_regex, hread, hholds]
    cases x.any _ <;> rfl

/-! ## §2. The rows that a query selects. -/

/-- Rows that can be told apart by a filter are filtered by it. -/
theorem Row.matching_eq {filter : Document} {f : Row → Bool} {rows : List Row}
    (h : ∀ r ∈ rows, r.toDocument.meets filter = .ok (f r)) :
    Row.matching filter rows = .ok (rows.filter f) := by
  induction rows with
  | nil => rfl
  | cons r rows ih =>
    have hrest := ih fun r' hr' => h r' (List.mem_cons_of_mem _ hr')
    rw [Row.matching, h r List.mem_cons_self, hrest, List.filter_cons]
    cases f r <;> rfl

/-- The patterns of a query fit into the machine. -/
def Query.Fits (q : Query) : Prop :=
  ∀ c ∈ q.conditions.toList, ∀ pattern, c.2 = .like pattern → Sql.Fits pattern

/-- **A query selects the rows that meet its conditions**, sorts and cuts them
and lists the cells asked for. -/
theorem RelationalStore.selected_eq [Sorter] {q : Query} (hfits : q.Fits) (s : RelationalStore)
    (table : String) (columns : List Column) :
    s.selected table columns q
      = (q.arrange columns
          ((s.rows table).filter fun r => r.toDocument.holdsAll Sql.like q.conditions)).map
            .ok := by
  have hmeets : ∀ r ∈ s.rows table, r.toDocument.meets (rowFilter q.conditions)
      = .ok (r.toDocument.holdsAll Sql.like q.conditions) := by
    intro r _
    rw [rowFilter_eq]
    exact Document.meets_map fun c hc => isAsExpected_rowDatum (hfits c hc) _
  rw [selected, Row.matching_eq hmeets]

end Filters

section Sorting

variable [Sorter]

/-- The sort keys of a query put rows in an order. -/
def Query.Orders (q : Query) (rows : List Row) : Prop :=
  ConsistentOn
    (fun a b => Document.compareBy (FindRequest.sortDocument q.sort) a.toDocument b.toDocument) rows

instance (q : Query) (rows : List Row) : Decidable (q.Orders rows) :=
  inferInstanceAs (Decidable (ConsistentOn _ rows))

/-- Rows that the sort keys put in an order are sorted. -/
theorem Row.sortBy_of_orders {q : Query} {rows : List Row} (h : q.Orders rows) :
    Row.sortBy q.sort rows
      = some (rows.mergeSort fun a b => Document.compareBy (FindRequest.sortDocument q.sort)
          a.toDocument b.toDocument != .gt) :=
  Sorter.sort_of_consistentOn h

/-- **Rows that the sort keys put in an order are listed.** -/
theorem Query.arrange_of_orders {q : Query} {rows : List Row} (h : q.Orders rows)
    (columns : List Column) : ∃ answers, q.arrange columns rows = some answers :=
  ⟨_, congrArg (Option.map _) (Row.sortBy_of_orders h)⟩

/-- Without sort keys, rows stay as they stood. -/
theorem Row.sortBy_nil (rows : List Row) : Row.sortBy [] rows = some rows :=
  Sorter.sort_of_level fun _ _ _ _ => rfl

end Sorting

/-- Without a limit and an offset, all answers are in the window. -/
theorem Query.window_all {α : Type} {q : Query} (hlimit : q.limit = 0) (hoffset : q.offset = 0)
    (answers : List α) : q.window answers = answers := by
  rw [Query.window, hlimit, hoffset]
  rfl

/-! ## §3. Cells. -/

namespace Row

/-- The cell of a column; of several cells of one column, the last. -/
def last? (r : Row) (column : String) : Option Scalar := Assoc.find? r.cells.reverse column

/-- If no column is listed twice, there is but one cell to choose from. -/
theorem last?_eq_find? {r : Row} (h : (Assoc.keys r.cells).Nodup) (column : String) :
    r.last? column = r.find? column := by
  rw [last?, ← Assoc.find?_ofList, Assoc.ofList_of_nodup h, find?]

/-- The document of a row has a field for the cell of a column. -/
theorem find?_toDocument (r : Row) (column : String) :
    Assoc.find? r.toDocument column = (r.last? column).map .ofScalar := by
  rw [toDocument, Assoc.find?_ofList, ← List.map_reverse, Assoc.find?_map, last?]

/-- **A name without dots leads to the cell of its column.** -/
theorem path?_toDocument (r : Row) {column : String} (h : '.' ∉ column.toList) :
    r.toDocument.path? column = (r.last? column).map .ofScalar := by
  rw [Document.path?_of_segments (FieldPath.segments_of_not_mem h), find?_toDocument]

/-- A LIKE condition holds of a row whose cell is a text that the pattern
matches. -/
theorem holds_like_iff (r : Row) {column : String} (h : '.' ∉ column.toList) (pattern : String) :
    r.toDocument.holds Sql.like (column, .like pattern) = true
      ↔ ∃ t, r.last? column = some (.text t) ∧ Sql.LikeMatches pattern.toList t.toList := by
  simp only [Document.holds, path?_toDocument r h]
  cases r.last? column with
  | none => simp
  | some v =>
    -- only the value of a text is a string
    cases v <;> simp [Datum.ofScalar, Predicate.holds, Sql.like, Sql.likeChars_iff]

end Row

/-! ## §4. Selecting by a pattern. -/

namespace RelationalStore

section Selecting

variable [Engine] [Sorter]

/-- The rows of a table that a query with a single LIKE selects, with their
keys. -/
theorem selected_like {q : Query} {column pattern : String} (hfits : q.Fits)
    (hq : q.conditions.toList = [(column, .like pattern)]) (hsort : q.sort = [])
    (hlimit : q.limit = 0) (hoffset : q.offset = 0) (s : RelationalStore) (table : String)
    (columns : List Column) :
    s.selected table columns q
      = some (.ok ((Assoc.values ((s.tables.get table).filter fun e =>
          e.2.toDocument.holds Sql.like (column, .like pattern))).map (·.project columns))) := by
  have hall : ∀ d : Document, d.holdsAll Sql.like q.conditions
      = d.holds Sql.like (column, .like pattern) := by
    intro d
    rw [Document.holdsAll, hq, List.all_cons, List.all_nil, Bool.and_true]
  rw [selected_eq hfits, Query.arrange, hsort, Row.sortBy_nil, Option.map_some, Option.map_some,
    Query.window_all hlimit hoffset]
  simp only [hall, rows, Assoc.values, List.filter_map]
  rfl

/-- **LIKE SELECTS THE ROWS THAT IT MATCHES.**  Reading being possible, every
query that makes sense gets an answer if its patterns fit into the machine,
unless the sorter panics; it does so only over rows that meet the conditions
and are put in no order by the sort keys.  The only condition of a query being
a LIKE on a column, and nothing being sorted or cut, the answer lists the rows
whose cell is a text that the pattern matches, by ascending keys and each
once; the tables of every run are in that order (`Run.sound_of`). -/
theorem select_like {s : RelationalStore} {q : Query} (hread : Fault.read ∉ s.faults)
    (hq : q.validate = .ok ()) (hfits : q.Fits) (table : String) (columns : List Column) :
    ((∃ rows, (s.select table columns q).1 = some (.ok rows))
        ∨ (s.select table columns q).1 = none
          ∧ ¬ q.Orders ((s.rows table).filter fun r => r.toDocument.holdsAll Sql.like q.conditions))
      ∧ ∀ column pattern, s.tables.Ascending → '.' ∉ column.toList →
          q.conditions.toList = [(column, .like pattern)] →
          q.sort = [] → q.limit = 0 → q.offset = 0 →
          ∃ found : Table, found.Ascending
            ∧ (∀ id r, (id, r) ∈ found ↔ (id, r) ∈ s.tables.get table
                ∧ ∃ t, r.last? column = some (.text t)
                  ∧ Sql.LikeMatches pattern.toList t.toList)
            ∧ (s.select table columns q).1
                = some (.ok ((Assoc.values found).map (·.project columns))) := by
  rw [select_eq hread hq]
  refine ⟨?_, ?_⟩
  · rw [selected_eq hfits s table columns]
    cases harrange : q.arrange columns
        ((s.rows table).filter fun r => r.toDocument.holdsAll Sql.like q.conditions) with
    | some answers => exact .inl ⟨answers, rfl⟩
    | none =>
      refine .inr ⟨rfl, fun horders => ?_⟩
      obtain ⟨answers, hsome⟩ := Query.arrange_of_orders horders columns
      rw [hsome] at harrange
      cases harrange
  intro column pattern htables hcolumn hconditions hsort hlimit hoffset
  refine ⟨_, ?_, ?_, selected_like hfits hconditions hsort hlimit hoffset s table columns⟩
  · -- what is left of a table is in the order of the table
    exact List.Pairwise.sublist List.filter_sublist (htables table)
  · intro id r
    rw [List.mem_filter, Row.holds_like_iff r hcolumn]

end Selecting

open DataAccess.Sample in
/-- Three notes, of which the second is the first in order. -/
def noteStore : RelationalStore :=
  (Run.of [
    .seed "notes" "id" (Row.ofList [("id", .integer 2), ("text", .text "a.c\n[50%]")]),
    .seed "notes" "id" (Row.ofList [("id", .integer 1), ("text", .text "a.c [\\]")]),
    .seed "notes" "id" (Row.ofList [("id", .integer 3), ("text", .text "abc [50%]")])]
  ).session.store

/-- The notes with a text in brackets behind the letters. -/
def noteQuery : Query := Query.empty.filter "text" (.like "a.c_[%]")

open DataAccess.Sample in
/-- The full stop and the brackets of a pattern stand for themselves, and a
line break is a character like any other. -/
theorem select_like_brackets :
    noteStore.tables.Ascending ∧ Fault.read ∉ noteStore.faults ∧ noteQuery.validate = .ok ()
      ∧ noteQuery.Fits
      ∧ '.' ∉ "text".toList ∧ noteQuery.conditions.toList = [("text", .like "a.c_[%]")]
      ∧ noteQuery.sort = [] ∧ noteQuery.limit = 0 ∧ noteQuery.offset = 0
      ∧ ∃ found : Table, found.Ascending
        ∧ (∀ id r, (id, r) ∈ found ↔ (id, r) ∈ noteStore.tables.get "notes"
            ∧ ∃ t, r.last? "text" = some (.text t)
              ∧ Sql.LikeMatches "a.c_[%]".toList t.toList)
        ∧ (noteStore.select "notes" [⟨"id", .integer⟩] noteQuery).1
            = some (.ok ((Assoc.values found).map (·.project [⟨"id", .integer⟩]))) := by
  have htables : noteStore.tables.Ascending := (Run.sound_of _).ascending
  have hread : Fault.read ∉ noteStore.faults := by decide
  have hq : noteQuery.validate = .ok () := by decide
  have hfits : noteQuery.Fits := by
    intro c hc pattern hpattern
    obtain rfl : c = ("text", .like "a.c_[%]") := List.mem_singleton.mp hc
    cases hpattern
    decide
  exact ⟨htables, hread, hq, hfits, by decide, rfl, rfl, rfl, rfl,
    (select_like hread hq hfits "notes" [⟨"id", .integer⟩]).2 "text" "a.c_[%]" htables
      (by decide) rfl rfl rfl rfl⟩

/-! ## §5. Rows in no order. -/

/-- Scores of which one is a text: it is level with the score before it and
with the last but ten, which are not level. -/
def mixedScores : List Scalar :=
  [.integer 11, .text "x"] ++ (List.range 8).map (fun n => .integer (.ofNat (n + 13)))
    ++ (List.range 11).map fun n => .integer (.ofNat n)

/-- A row for each of them. -/
def scoreRows : List Row :=
  mixedScores.mapIdx fun i n =>
    Row.ofList [("id", .integer (.ofNat (i + 1))), ("n", n), ("k", .integer 1)]

open DataAccess.Sample in
/-- A table of these rows. -/
def scoreStore : RelationalStore := (Run.of (scoreRows.map (.seed "t" "id"))).session.store

/-- The rows by their scores. -/
def scoreQuery : Query := Query.empty.sortBy ["n"]

/-- The scores put the rows in no order. -/
theorem not_orders_scoreRows : ¬ scoreQuery.Orders scoreRows := by
  refine not_consistentOn
    (a := Row.ofList [("id", .integer 1), ("n", .integer 11), ("k", .integer 1)])
    (b := Row.ofList [("id", .integer 2), ("n", .text "x"), ("k", .integer 1)])
    (c := Row.ofList [("id", .integer 11), ("n", .integer 0), ("k", .integer 1)]) ?_ ?_ ?_ ?_ ?_ ?_
  all_goals decide

open DataAccess.Sample in
/-- **A selection may panic** in a table without faults, for a query that makes
sense and has no pattern. -/
theorem select_panics :
    Fault.read ∉ scoreStore.faults ∧ scoreQuery.validate = .ok () ∧ scoreQuery.Fits
      ∧ (scoreStore.select "t" [⟨"k", .integer⟩] scoreQuery).1 = none := by
  have hread : Fault.read ∉ scoreStore.faults := by decide
  have hq : scoreQuery.validate = .ok () := by decide
  have hfits : scoreQuery.Fits := fun c hc => by cases hc
  refine ⟨hread, hq, hfits, ?_⟩
  have hrows : scoreStore.rows "t" = scoreRows := by decide
  have hall : (scoreRows.filter fun r => r.toDocument.holdsAll Sql.like scoreQuery.conditions)
      = scoreRows := by decide
  rw [select_eq hread hq, selected_eq hfits, hrows, hall, Query.arrange, Row.sortBy,
    sort_eq_none not_orders_scoreRows (by decide)]
  rfl

end RelationalStore

end DataAccess
