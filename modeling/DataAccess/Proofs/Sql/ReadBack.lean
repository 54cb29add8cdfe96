/-
  DataAccess.Proofs.Sql.ReadBack — a clause determines its query.

  Any field name may also be a word of the language: a column may be called
  AND, ORDER or DESC, and the word AND joins conditions as well as the two ends
  of a range.  What a word means is still never in doubt, because it follows
  from the words before it.  The reader below goes through the words of a
  clause from the left and knows at each what has to come next; where a value
  has to come it takes the next one of the bound values.

  It is no checker.  It has to give the right answer on the clauses of
  queries, and on nothing else, so it does not look at what it can do without:
  the numbers of the placeholders, for one.

  Main statements:
    * `words_conditionWords` — one condition is read as it was written;
    * `words_conditionsWords`, `words_orderWords` — so are all of them, and
                               the sort keys;
    * `read_clauseOf`        — a whole clause is read back;
    * `translate_unambiguous` — two queries with one clause ask for the same.
-/
import DataAccess.Text.Digits
import DataAccess.Proofs.Sql.Words

namespace DataAccess.Sql

/-! ## §1. The reader. -/

/-- What a clause asks for: all of a query but its projection. -/
structure Asked where
  conditions : List Condition
  sort : List SortKey
  limit : Int64
  offset : Int64

namespace Asked

/-- Everything, in no particular order. -/
def everything : Asked := ⟨[], [], 0, 0⟩

/-- What a query asks for. -/
def ofQuery (q : Query) : Asked := ⟨q.conditions.toList, q.sort, q.limit, q.offset⟩

/-- With one more condition. -/
def filter (a : Asked) (c : Condition) : Asked := { a with conditions := a.conditions ++ [c] }

/-- With one more sort key. -/
def sortBy (a : Asked) (k : SortKey) : Asked := { a with sort := a.sort ++ [k] }

end Asked

/-- What the next word is. -/
inductive Expected where
  /-- The first word of a part, or one that leads to a further condition. -/
  | part
  | field
  | operator (field : String)
  | equal (field : String)
  | pattern (field : String)
  /-- An item of a list, after those taken. -/
  | item (field : String) (taken : List Scalar)
  | low (field : String)
  | joint (field : String) (low : Scalar)
  | high (field : String) (low : Scalar)
  /-- The second word of an ordering. -/
  | order
  | key
  | direction (field : String)
  | limit
  | offset

/-- How far a clause has been read. -/
structure Reading where
  expected : Expected
  values : List Scalar
  asked : Asked

namespace Reading

/-- Reads one word. -/
def word (r : Reading) (w : String) : Option Reading :=
  match r.expected, r.values with
  | .part, vs =>
      if w = "WHERE" ∨ w = "AND" then some ⟨.field, vs, r.asked⟩
      else if w = "ORDER" then some ⟨.order, vs, r.asked⟩
      else if w = "LIMIT" then some ⟨.limit, vs, r.asked⟩
      else if w = "OFFSET" then some ⟨.offset, vs, r.asked⟩
      else none
  | .field, vs => some ⟨.operator w, vs, r.asked⟩
  | .operator field, vs =>
      if w = "=" then some ⟨.equal field, vs, r.asked⟩
      else if w = "IN" then some ⟨.item field [], vs, r.asked⟩
      else if w = "LIKE" then some ⟨.pattern field, vs, r.asked⟩
      else if w = "BETWEEN" then some ⟨.low field, vs, r.asked⟩
      else none
  | .equal field, v :: vs => some ⟨.part, vs, r.asked.filter (field, .equals v)⟩
  | .pattern field, .text p :: vs => some ⟨.part, vs, r.asked.filter (field, .like p)⟩
  | .item field taken, v :: vs =>
      if w.toList.getLast? = some ')' then
        some ⟨.part, vs, r.asked.filter (field, .oneOf (taken ++ [v]))⟩
      else some ⟨.item field (taken ++ [v]), vs, r.asked⟩
  | .low field, v :: vs => some ⟨.joint field v, vs, r.asked⟩
  | .joint field low, vs => some ⟨.high field low, vs, r.asked⟩
  | .high field low, v :: vs => some ⟨.part, vs, r.asked.filter (field, .between low v)⟩
  | .order, vs => some ⟨.key, vs, r.asked⟩
  | .key, vs => some ⟨.direction w, vs, r.asked⟩
  | .direction field, vs =>
      if w = "ASC" then some ⟨.part, vs, r.asked.sortBy ⟨field, .ascending⟩⟩
      else if w = "ASC," then some ⟨.key, vs, r.asked.sortBy ⟨field, .ascending⟩⟩
      else if w = "DESC" then some ⟨.part, vs, r.asked.sortBy ⟨field, .descending⟩⟩
      else if w = "DESC," then some ⟨.key, vs, r.asked.sortBy ⟨field, .descending⟩⟩
      else none
  | .limit, vs =>
      some ⟨.part, vs, { r.asked with limit := .ofInt (Text.decimalValue w.toList) }⟩
  | .offset, vs =>
      some ⟨.part, vs, { r.asked with offset := .ofInt (Text.decimalValue w.toList) }⟩
  | _, _ => none

/-- Reads words from the left. -/
def words (r : Reading) : List String → Option Reading
  | [] => some r
  | w :: ws => (r.word w).bind fun r => r.words ws

/-- Reading goes on where it stopped. -/
theorem words_append (r : Reading) (us vs : List String) :
    r.words (us ++ vs) = (r.words us).bind fun r => r.words vs := by
  induction us generalizing r with
  | nil => rfl
  | cons u us ih =>
    rw [List.cons_append, words, words, Option.bind_assoc]
    congr 1
    funext r
    exact ih r

end Reading

/-- Reads a clause. -/
def read (c : Clause) : Option Asked :=
  (Reading.words ⟨.part, c.values, .everything⟩ (wordsOf c.text)).map (·.asked)

/-! ## §2. What was written is read back. -/

namespace Reading

variable {vs : List Scalar} {a : Asked}

/-- The items of a list take one value each, up to the closing bracket. -/
theorem words_listWords {opening field : String} {items : List String} {taken us : List Scalar}
    (hlen : items.length = us.length) (hne : us ≠ []) :
    words ⟨.item field taken, us ++ vs, a⟩ (listWords opening items)
      = some ⟨.part, vs, a.filter (field, .oneOf (taken ++ us))⟩ := by
  induction us generalizing opening items taken with
  | nil => exact absurd rfl hne
  | cons u us ih =>
    cases items with
    | nil => simp at hlen
    | cons item items =>
      -- the last item carries the bracket, every other one a comma
      cases us with
      | nil =>
        have hitems : items = [] := by simpa using hlen
        subst hitems
        simp [listWords, words, word]
      | cons next us =>
        cases items with
        | nil => simp at hlen
        | cons item' items =>
          have hlen' : (item' :: items).length = (next :: us).length := by
            simpa using hlen
          have hstep : word ⟨.item field taken, u :: next :: us ++ vs, a⟩ (opening ++ item ++ ",")
              = some ⟨.item field (taken ++ [u]), next :: us ++ vs, a⟩ := by
            simp [word]
          rw [listWords, words, hstep, Option.bind_some, ih hlen' (List.cons_ne_nil _ _),
            List.append_assoc]
          rfl

/-- A condition is read as it was written. -/
theorem words_conditionWords {c : Condition} (hc : c.2 ≠ .oneOf []) (first : Nat) :
    words ⟨.field, boundValues c.2 ++ vs, a⟩ (conditionWords c first)
      = some ⟨.part, vs, a.filter c⟩ := by
  obtain ⟨field, p⟩ := c
  cases p with
  | equals v => simp [conditionWords, words, word]
  | oneOf us =>
    have hne : us ≠ [] := by
      rintro rfl
      exact hc rfl
    have hlen : ((List.range' first us.length).map placeholder).length = us.length := by
      simp
    simp only [conditionWords, boundValues]
    show words ⟨.item field [], us ++ vs, a⟩ (listWords "(" _) = _
    rw [words_listWords hlen hne]
    rfl
  | like pattern => simp [conditionWords, words, word]
  | between low high => simp [conditionWords, words, word]

/-- So are conditions one after the other, each with the word that leads to
it. -/
theorem words_conditionsWords {cs : List Condition} (hcs : ∀ c ∈ cs, c.2 ≠ .oneOf [])
    {lead : String} (hlead : lead = "WHERE" ∨ lead = "AND") (first : Nat) :
    words ⟨.part, operands cs ++ vs, a⟩ (conditionsWords lead first cs)
      = some ⟨.part, vs, { a with conditions := a.conditions ++ cs }⟩ := by
  induction cs generalizing a lead first with
  | nil =>
    rw [List.append_nil]
    rfl
  | cons c cs ih =>
    rw [List.forall_mem_cons] at hcs
    have hlead' : word ⟨.part, operands (c :: cs) ++ vs, a⟩ lead
        = some ⟨.field, boundValues c.2 ++ (operands cs ++ vs), a⟩ := by
      simp [word, hlead, operands]
    rw [conditionsWords, List.cons_append, words, hlead', Option.bind_some, words_append,
      words_conditionWords hcs.1, Option.bind_some, ih hcs.2 (.inr rfl)]
    simp [Asked.filter]

/-- Sort keys are read as they were written; a comma says that one more comes. -/
theorem words_orderWords {keys : List SortKey} (hne : keys ≠ []) :
    words ⟨.key, vs, a⟩ (orderWords keys)
      = some ⟨.part, vs, { a with sort := a.sort ++ keys }⟩ := by
  induction keys generalizing a with
  | nil => exact absurd rfl hne
  | cons k keys ih =>
    obtain ⟨field, d⟩ := k
    -- as with lists: a comma after every key but the last
    cases keys with
    | nil => cases d <;> rfl
    | cons next keys =>
      have hstep : word ⟨.direction field, vs, a⟩ (directionWord d ++ ",")
          = some ⟨.key, vs, a.sortBy ⟨field, d⟩⟩ := by
        cases d <;> rfl
      rw [orderWords, words]
      show words ⟨.direction field, vs, a⟩ _ = _
      rw [words, hstep, Option.bind_some, ih (List.cons_ne_nil _ _)]
      simp [Asked.sortBy]

/-- A number is read as it was written. -/
theorem decimalValue_toString {n : Int64} (hn : 0 < n.toInt) :
    Int64.ofInt (Text.decimalValue (toString n.toInt).toList) = n := by
  obtain ⟨m, hm⟩ := Int.eq_ofNat_of_zero_le (Int.le_of_lt hn)
  have hvalue : Text.decimalValue (toString m).toList = m := by
    rw [Nat.toString_eq_ofList_toDigits, String.toList_ofList, Text.decimalValue_toDigits]
  rw [hm]
  show Int64.ofInt (Text.decimalValue (toString m).toList) = n
  rw [hvalue]
  show Int64.ofInt (m : Int) = n
  rw [← hm, Int64.ofInt_toInt]

/-- A bound that is left out is none. -/
theorem eq_zero_of_not_pos {n : Int64} (hn : 0 ≤ n.toInt) (hpos : ¬ 0 < n.toInt) : n = 0 := by
  have hzero : n.toInt = (0 : Int64).toInt := by
    show n.toInt = 0
    omega
  exact Int64.toInt_inj.mp hzero

/-- A bound on the answers is read as it was written; a bound of zero is not
written, and is what stands before. -/
theorem words_boundWords {lead : String} {e : Expected} {n : Int64} (put : Int64 → Asked)
    (hlead : word ⟨.part, vs, a⟩ lead = some ⟨e, vs, a⟩)
    (hput : ∀ w, word ⟨e, vs, a⟩ w
      = some ⟨.part, vs, put (.ofInt (Text.decimalValue w.toList))⟩)
    (hzero : put 0 = a) (hn : 0 ≤ n.toInt) :
    words ⟨.part, vs, a⟩ (boundWords lead n) = some ⟨.part, vs, put n⟩ := by
  unfold boundWords
  split
  · next hpos =>
    rw [words, hlead, Option.bind_some, words, hput, decimalValue_toString hpos]
    rfl
  · next hpos =>
    rw [eq_zero_of_not_pos hn hpos, hzero]
    rfl

/-- The ordering of a clause, if it has one. -/
theorem words_orderBy {keys : List SortKey} :
    words ⟨.part, vs, a⟩ (if keys.isEmpty then [] else "ORDER" :: "BY" :: orderWords keys)
      = some ⟨.part, vs, { a with sort := a.sort ++ keys }⟩ := by
  cases keys with
  | nil =>
    rw [List.append_nil]
    rfl
  | cons k keys => exact words_orderWords (List.cons_ne_nil k keys)

end Reading

/-- **A clause is read back as what its query asks for.** -/
theorem read_clauseOf {q : Query} (h : q.validate = .ok ()) :
    read (clauseOf q) = some (.ofQuery q) := by
  obtain ⟨-, hconds, -, hlimit, hoffset⟩ := (Query.validate_ok_iff q).mp h
  have hvalues : (clauseOf q).values = operands q.conditions.toList ++ [] := by
    rw [List.append_nil]
    exact compile_values _
  have hcs : ∀ c ∈ q.conditions.toList, c.2 ≠ .oneOf [] := fun c hc => (hconds c hc).2
  -- One part of the clause after the other, each filling in one field.
  have hwhere : Reading.words ⟨.part, operands q.conditions.toList ++ [], .everything⟩
      (conditionsWords "WHERE" 1 q.conditions.toList)
        = some ⟨.part, [], ⟨q.conditions.toList, [], 0, 0⟩⟩ :=
    Reading.words_conditionsWords hcs (.inl rfl) 1
  have horder : Reading.words ⟨.part, [], ⟨q.conditions.toList, [], 0, 0⟩⟩
      (if q.sort.isEmpty then [] else "ORDER" :: "BY" :: orderWords q.sort)
        = some ⟨.part, [], ⟨q.conditions.toList, q.sort, 0, 0⟩⟩ :=
    Reading.words_orderBy
  have hlimit' : Reading.words ⟨.part, [], ⟨q.conditions.toList, q.sort, 0, 0⟩⟩
      (boundWords "LIMIT" q.limit)
        = some ⟨.part, [], ⟨q.conditions.toList, q.sort, q.limit, 0⟩⟩ :=
    Reading.words_boundWords (fun n => ⟨q.conditions.toList, q.sort, n, 0⟩) rfl (fun _ => rfl)
      rfl hlimit
  have hoffset' : Reading.words ⟨.part, [], ⟨q.conditions.toList, q.sort, q.limit, 0⟩⟩
      (boundWords "OFFSET" q.offset)
        = some ⟨.part, [], ⟨q.conditions.toList, q.sort, q.limit, q.offset⟩⟩ :=
    Reading.words_boundWords (fun n => ⟨q.conditions.toList, q.sort, q.limit, n⟩) rfl
      (fun _ => rfl) rfl hoffset
  rw [read, wordsOf_text h, hvalues, clauseWords, Reading.words_append, Reading.words_append,
    Reading.words_append, hwhere, Option.bind_some, horder, Option.bind_some, hlimit',
    Option.bind_some, hoffset']
  rfl

/-! ## §3. One clause, one request. -/

/-- What a query asks for is all that its clause depends on. -/
theorem clauseOf_eq_of_asked {q q' : Query} (h : Asked.ofQuery q = .ofQuery q') :
    clauseOf q = clauseOf q' := by
  simp only [Asked.ofQuery, Asked.mk.injEq] at h
  obtain ⟨hconds, hsort, hlimit, hoffset⟩ := h
  simp only [clauseOf, parts, hconds, hsort, hlimit, hoffset]

/-- The empty text is the clause of a query that asks for everything. -/
theorem text_eq_empty_iff {q : Query} (h : q.validate = .ok ()) :
    (clauseOf q).text = "" ↔ Asked.ofQuery q = .everything := by
  constructor
  · intro htext
    have hread : read (clauseOf q) = some .everything := by
      rw [read, htext]
      rfl
    rw [read_clauseOf h, Option.some.injEq] at hread
    exact hread
  · intro hall
    have hempty : clauseOf q = clauseOf .empty := clauseOf_eq_of_asked hall
    rw [hempty]
    rfl

/-- **Two queries with one clause ask for the same.**  Queries that make sense
have clauses.  The texts and the values of two of them agree exactly if the
queries have the same conditions in the same order, the same sort keys, the
same limit and the same offset, whatever the fields are called.  The text is
empty exactly if there is nothing of the kind. -/
theorem translate_unambiguous {q q' : Query} (h : q.validate = .ok ())
    (h' : q'.validate = .ok ()) :
    ∃ c c', translate q = .ok c ∧ translate q' = .ok c'
      ∧ (c.text = c'.text ∧ c.values = c'.values
        ↔ q.conditions.toList = q'.conditions.toList ∧ q.sort = q'.sort
          ∧ q.limit = q'.limit ∧ q.offset = q'.offset)
      ∧ (c.text = "" ↔ q.conditions.toList = [] ∧ q.sort = [] ∧ q.limit = 0 ∧ q.offset = 0) := by
  have hasked : Asked.ofQuery q = .ofQuery q'
      ↔ q.conditions.toList = q'.conditions.toList ∧ q.sort = q'.sort
        ∧ q.limit = q'.limit ∧ q.offset = q'.offset := by
    simp only [Asked.ofQuery, Asked.mk.injEq]
  have hnothing : Asked.ofQuery q = .everything
      ↔ q.conditions.toList = [] ∧ q.sort = [] ∧ q.limit = 0 ∧ q.offset = 0 := by
    simp only [Asked.ofQuery, Asked.everything, Asked.mk.injEq]
  refine ⟨clauseOf q, clauseOf q', translate_ok_iff.mpr ⟨h, rfl⟩, translate_ok_iff.mpr ⟨h', rfl⟩,
    ?_, ?_⟩
  · rw [← hasked]
    constructor
    · rintro ⟨htext, hvalues⟩
      -- the reader sees no more of a clause than its text and its values
      have hread : read (clauseOf q) = read (clauseOf q') := by
        rw [read, read, htext, hvalues]
      rw [read_clauseOf h, read_clauseOf h', Option.some.injEq] at hread
      exact hread
    · intro heq
      rw [clauseOf_eq_of_asked heq]
      exact ⟨rfl, rfl⟩
  · rw [← hnothing]
    exact text_eq_empty_iff h

/-- A column is called AND, another one BETWEEN, and the answers are sorted by
ORDER and DESC; exchanging the two sort keys gives another clause. -/
theorem translate_unambiguous_keywords :
    ∃ c c',
      translate (((Query.empty.filter "BETWEEN" (.between (.integer 1) (.integer 2))).filter
          "AND" (.equals (.text "AND"))).sortBy ["-ORDER", "DESC"]) = .ok c
        ∧ translate (((Query.empty.filter "BETWEEN" (.between (.integer 1) (.integer 2))).filter
          "AND" (.equals (.text "AND"))).sortBy ["DESC", "-ORDER"]) = .ok c'
        ∧ ¬ (c.text = c'.text ∧ c.values = c'.values) := by
  have hvalid : (((Query.empty.filter "BETWEEN" (.between (.integer 1) (.integer 2))).filter
      "AND" (.equals (.text "AND"))).sortBy ["-ORDER", "DESC"]).validate = .ok () := by decide
  have hvalid' : (((Query.empty.filter "BETWEEN" (.between (.integer 1) (.integer 2))).filter
      "AND" (.equals (.text "AND"))).sortBy ["DESC", "-ORDER"]).validate = .ok () := by decide
  obtain ⟨c, c', hc, hc', hiff, -⟩ := translate_unambiguous hvalid hvalid'
  refine ⟨c, c', hc, hc', ?_⟩
  rw [hiff]
  rintro ⟨-, hsort, -⟩
  exact absurd hsort (by decide)

end DataAccess.Sql
