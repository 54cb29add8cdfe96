/-
  DataAccess.Proofs.Sql.Splicing — what gets into the text of a clause.

  Operands come from outside and are bound, not spliced.  What a condition
  leaves in a text is its field and its form: the operator and, for a list,
  the number of its operands.  Fields are spliced as they are, so the
  characters of a text are those of field names and those of the clause
  itself.

  Main statements:
    * `clausesFrom_eq_of_forms` — conditions of the same forms have the same
                                  texts;
    * `text_eq_of_alike`        — queries that differ in their operands only
                                  have the same text;
    * `isClean_text`            — no character of a text is outside a small
                                  alphabet.
-/
import DataAccess.Proofs.Sql.Numbering

namespace DataAccess

/-! ## §1. Forms. -/

/-- A predicate without its operands. -/
inductive Predicate.Form where
  | equals
  /-- One of so many operands. -/
  | oneOf (count : Nat)
  | like
  | between
  deriving DecidableEq

/-- What is left of a predicate when its operands are taken away. -/
def Predicate.form : Predicate → Predicate.Form
  | .equals _ => .equals
  | .oneOf vs => .oneOf vs.length
  | .like _ => .like
  | .between _ _ => .between

/-- Two queries ask the same of the same fields in the same order, and want
the same order and window of answers; only the operands may differ. -/
structure Query.Alike (q r : Query) : Prop where
  forms : q.conditions.toList.map (fun c => (c.1, c.2.form))
    = r.conditions.toList.map (fun c => (c.1, c.2.form))
  sort : q.sort = r.sort
  limit : q.limit = r.limit
  offset : q.offset = r.offset

namespace Sql

/-- Predicates of the same form bind equally many values. -/
theorem length_boundValues_of_form {p p' : Predicate} (h : p.form = p'.form) :
    (boundValues p).length = (boundValues p').length := by
  cases p <;> cases p' <;> simp_all [Predicate.form]

/-- The text of a condition is made of its field, its form and its number. -/
theorem conditionText_eq_of_form {p p' : Predicate} (h : p.form = p'.form) (field : String)
    (first : Nat) : conditionText field p first = conditionText field p' first := by
  cases p <;> cases p' <;> simp_all [Predicate.form, conditionText]

/-- Conditions of the same forms have the same texts. -/
theorem clausesFrom_eq_of_forms {cs ds : List Condition}
    (h : cs.map (fun c => (c.1, c.2.form)) = ds.map (fun c => (c.1, c.2.form))) (first : Nat) :
    clausesFrom first cs = clausesFrom first ds := by
  induction cs generalizing ds first with
  | nil =>
    rw [List.map_nil, eq_comm, List.map_eq_nil_iff] at h
    rw [h]
  | cons c cs ih =>
    cases ds with
    | nil => cases h
    | cons d ds =>
      rw [List.map_cons, List.map_cons, List.cons.injEq, Prod.mk.injEq] at h
      obtain ⟨⟨hfield, hform⟩, hrest⟩ := h
      -- the numbers of what follows do not depend on the operands either
      rw [clausesFrom, clausesFrom, length_boundValues_of_form hform,
        conditionText_eq_of_form hform, hfield, ih hrest]

/-- **Queries that differ in their operands only have the same text.** -/
theorem text_eq_of_alike {q r : Query} (h : q.Alike r) : (clauseOf q).text = (clauseOf r).text := by
  have hclauses : (compile q.conditions.toList).clauses
      = (compile r.conditions.toList).clauses := by
    rw [compile_clauses, compile_clauses, clausesFrom_eq_of_forms h.forms]
  show " ".intercalate (parts q _) = " ".intercalate (parts r _)
  rw [parts, parts, Compiled.isUnfiltered, Compiled.isUnfiltered, hclauses, h.sort, h.limit,
    h.offset]

/-! ## §2. The alphabet of a clause. -/

/-- A letter or a digit in ASCII, or a sign that clauses are written with. -/
def isClauseChar (c : Char) : Bool := c.isAlphanum || "_.$,()= ".toList.contains c

/-- All characters of a text are of the alphabet. -/
def IsClean (text : String) : Prop := ∀ c ∈ text.toList, isClauseChar c = true

instance (text : String) : Decidable (IsClean text) :=
  decidable_of_iff (text.toList.all isClauseChar = true) List.all_eq_true

theorem IsClean.append {s t : String} (hs : IsClean s) (ht : IsClean t) : IsClean (s ++ t) := by
  intro c hc
  rw [String.toList_append] at hc
  rcases List.mem_append.mp hc with hc | hc
  · exact hs c hc
  · exact ht c hc

theorem IsClean.intercalate {sep : String} (hsep : IsClean sep) {texts : List String}
    (h : ∀ t ∈ texts, IsClean t) : IsClean (sep.intercalate texts) := by
  induction texts with
  | nil =>
    rw [String.intercalate_nil]
    intro c hc
    cases hc
  | cons t texts ih =>
    rw [List.forall_mem_cons] at h
    cases texts with
    | nil =>
      rw [String.intercalate_singleton]
      exact h.1
    | cons u us =>
      rw [String.intercalate_cons_cons]
      exact (h.1.append hsep).append (ih h.2)

/-- A field name is spliced as it is: it holds letters, digits, underscores
and dots only. -/
theorem isClean_fieldName {field : String} (h : FieldPath.isFieldName field = true) :
    IsClean field := by
  intro c hc
  have hname := FieldPath.isNameChar_of_isFieldName h c hc
  simp only [FieldPath.isNameChar, FieldPath.isSegmentChar, Bool.or_eq_true,
    decide_eq_true_eq] at hname
  unfold isClauseChar
  rcases hname with rfl | halnum | rfl
  · decide
  · rw [halnum, Bool.true_or]
  · decide

theorem isClean_toString (n : Nat) : IsClean (toString n) := by
  intro c hc
  have hdigit : c.isDigit = true := isDigit_of_mem_toString hc
  rw [isClauseChar, Char.isAlphanum, hdigit, Bool.or_true, Bool.true_or]

theorem isClean_placeholder (n : Nat) : IsClean (placeholder n) := by
  have hsign : IsClean "$" := by decide
  exact hsign.append (isClean_toString n)

/-- Whatever the operands are, a condition adds to its field only signs, words
and numbers of the clause. -/
theorem isClean_conditionText {field : String} (h : FieldPath.isFieldName field = true)
    (p : Predicate) (first : Nat) : IsClean (conditionText field p first) := by
  have hfield : IsClean field := isClean_fieldName h
  have hplace : ∀ n, IsClean (placeholder n) := isClean_placeholder
  cases p with
  | equals v =>
    have hword : IsClean " = " := by decide
    exact (hfield.append hword).append (hplace first)
  | oneOf vs =>
    have hopen : IsClean " IN (" := by decide
    have hcomma : IsClean ", " := by decide
    have hclose : IsClean ")" := by decide
    have hlist : ∀ t ∈ (List.range vs.length).map (fun i => placeholder (first + i)),
        IsClean t := by
      intro t ht
      obtain ⟨i, -, rfl⟩ := List.mem_map.mp ht
      exact hplace (first + i)
    exact ((hfield.append hopen).append (hcomma.intercalate hlist)).append hclose
  | like pattern =>
    have hword : IsClean " LIKE " := by decide
    exact (hfield.append hword).append (hplace first)
  | between low high =>
    have hword : IsClean " BETWEEN " := by decide
    have hand : IsClean " AND " := by decide
    exact (((hfield.append hword).append (hplace first)).append hand).append (hplace (first + 1))

theorem isClean_of_mem_clausesFrom {cs : List Condition}
    (h : ∀ c ∈ cs, FieldPath.isFieldName c.1 = true) (first : Nat) :
    ∀ t ∈ clausesFrom first cs, IsClean t := by
  induction cs generalizing first with
  | nil => simp
  | cons c cs ih =>
    rw [List.forall_mem_cons] at h
    rw [clausesFrom, List.forall_mem_cons]
    exact ⟨isClean_conditionText h.1 c.2 first, ih h.2 _⟩

/-- The minus of a descending key is no part of its field and does not get
into the text. -/
theorem isClean_orderText {k : SortKey} (h : FieldPath.isFieldName k.field = true) :
    IsClean (orderText k) := by
  have hfield : IsClean k.field := isClean_fieldName h
  unfold orderText
  cases k.direction with
  | ascending =>
    have hword : IsClean " ASC" := by decide
    exact hfield.append hword
  | descending =>
    have hword : IsClean " DESC" := by decide
    exact hfield.append hword

/-- A bound is a natural number when it is written, so it has no sign. -/
theorem isClean_bound {word : String} (hword : IsClean word) {n : Int} (hn : 0 < n) :
    IsClean (word ++ toString n) := by
  obtain ⟨m, rfl⟩ := Int.eq_ofNat_of_zero_le (Int.le_of_lt hn)
  exact hword.append (isClean_toString m)

/-- **No character of the text of a query that makes sense is outside the
alphabet.** -/
theorem isClean_text {q : Query} (h : q.validate = .ok ()) : IsClean (clauseOf q).text := by
  obtain ⟨-, hconds, hsort, -, -⟩ := (Query.validate_ok_iff q).mp h
  have hblank : IsClean " " := by decide
  refine hblank.intercalate fun t ht => ?_
  -- a part is the conditions, the sort keys, the limit or the offset
  simp only [parts, List.mem_append, List.mem_ite_nil_left, List.mem_ite_nil_right,
    List.mem_singleton] at ht
  rcases ht with ((⟨-, rfl⟩ | ⟨-, rfl⟩) | ⟨hlimit, rfl⟩) | ⟨hoffset, rfl⟩
  · have hwhere : IsClean "WHERE " := by decide
    have hand : IsClean " AND " := by decide
    rw [compile_clauses]
    exact hwhere.append
      (hand.intercalate (isClean_of_mem_clausesFrom (fun c hc => (hconds c hc).1) 1))
  · have horder : IsClean "ORDER BY " := by decide
    have hcomma : IsClean ", " := by decide
    refine horder.append (hcomma.intercalate fun t ht => ?_)
    obtain ⟨k, hk, rfl⟩ := List.mem_map.mp ht
    exact isClean_orderText (hsort k hk)
  · exact isClean_bound (by decide) hlimit
  · exact isClean_bound (by decide) hoffset

/-! ## §3. Nothing of an operand gets into the text. -/

/-- **A clause shows nothing of its operands, and nothing can be smuggled into
it.**  A query that makes sense has a clause.  Every character of its text is
an ASCII letter, a digit, or one of `_ . $ , ( ) =` and the blank, whatever
its fields, sort keys and operands were made of.  Every other query that makes
sense and differs from it in its operands only has a clause with the very same
text. -/
theorem text_shows_no_operand {q : Query} (h : q.validate = .ok ()) :
    ∃ c, translate q = .ok c
      ∧ (∀ ch ∈ c.text.toList, ch.isAlphanum = true ∨ ch ∈ "_.$,()= ".toList)
      ∧ ∀ r : Query, r.validate = .ok () → q.Alike r →
          ∃ d, translate r = .ok d ∧ d.text = c.text := by
  refine ⟨clauseOf q, translate_ok_iff.mpr ⟨h, rfl⟩, fun ch hch => ?_, fun r hr halike => ?_⟩
  · have hclean := isClean_text h ch hch
    rwa [isClauseChar, Bool.or_eq_true, List.contains_iff_mem] at hclean
  · exact ⟨clauseOf r, translate_ok_iff.mpr ⟨hr, rfl⟩, (text_eq_of_alike halike).symm⟩

/-- An operand that would end a statement leaves the text as it is. -/
theorem text_shows_no_operand_quoted :
    ∃ c d,
      translate ((Query.empty.filter "name" (.equals (.text "x"))).sortBy ["-age"]) = .ok c
        ∧ translate ((Query.empty.filter "name"
            (.equals (.text "x'; DROP TABLE users; --"))).sortBy ["-age"]) = .ok d
        ∧ d.text = c.text
        ∧ ∀ ch ∈ d.text.toList, ch.isAlphanum = true ∨ ch ∈ "_.$,()= ".toList := by
  have hvalid : ((Query.empty.filter "name" (.equals (.text "x"))).sortBy ["-age"]).validate
      = .ok () := by decide
  have hvalid' : ((Query.empty.filter "name"
      (.equals (.text "x'; DROP TABLE users; --"))).sortBy ["-age"]).validate = .ok () := by decide
  obtain ⟨c, hc, hclean, hothers⟩ := text_shows_no_operand hvalid
  obtain ⟨d, hd, htext⟩ := hothers _ hvalid' ⟨rfl, rfl, rfl, rfl⟩
  refine ⟨c, d, hc, hd, htext, ?_⟩
  rwa [htext]

end Sql

end DataAccess
