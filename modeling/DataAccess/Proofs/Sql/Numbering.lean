/-
  DataAccess.Proofs.Sql.Numbering — the placeholders of a clause.

  A statement is bound by position: the value at position n goes to the
  placeholder that is numbered n, wherever it stands.  So the numbers have
  to be read off the finished text and not off the conditions it was made
  of.  `placeholders` is that reading.  It knows nothing of conditions: it
  takes the digits after each dollar sign, from the left.

  Main statements:
    * `compile_clauses`      — the clauses of conditions, one after the other,
                               each numbered after the values of the earlier ones;
    * `placeholders_append`  — reading goes part by part where no number is cut;
    * `placeholders_clauseOf` — the placeholders of a clause are one, two, and
                               so on up to the number of its values.
-/
import Mathlib.Data.List.TakeWhile
import DataAccess.Sql.Clause

namespace DataAccess.Sql

/-! ## §1. Conditions numbered one after the other. -/

/-- The values of conditions, first to last. -/
def operands (cs : List Condition) : List Scalar := cs.flatMap fun c => boundValues c.2

/-- The texts of conditions, the first placeholder having this number. -/
@[simp] def clausesFrom (first : Nat) : List Condition → List String
  | [] => []
  | c :: cs =>
      conditionText c.1 c.2 first :: clausesFrom (first + (boundValues c.2).length) cs

theorem foldl_add_clauses (cs : List Condition) (r : Compiled) :
    (cs.foldl Compiled.add r).clauses = r.clauses ++ clausesFrom (r.values.length + 1) cs := by
  induction cs generalizing r with
  | nil => simp
  | cons c cs ih =>
    have hnext : (r.add c).values.length + 1
        = r.values.length + 1 + (boundValues c.2).length := by
      simp only [Compiled.add, conditionClause, List.length_append]
      omega
    rw [List.foldl_cons, ih, hnext]
    simp [Compiled.add, conditionClause]

/-- Compiling numbers the conditions one after the other, from one. -/
theorem compile_clauses (cs : List Condition) : (compile cs).clauses = clausesFrom 1 cs := by
  simp [compile, foldl_add_clauses, Compiled.empty]

theorem isUnfiltered_compile (cs : List Condition) :
    (compile cs).isUnfiltered = cs.isEmpty := by
  rw [Compiled.isUnfiltered, compile_clauses]
  cases cs with
  | nil => rfl
  | cons c cs => rfl

/-- A condition is numbered after the values of all earlier ones. -/
theorem getElem?_clausesFrom (first : Nat) (cs : List Condition) (i : Nat) :
    (clausesFrom first cs)[i]?
      = cs[i]?.map fun c => conditionText c.1 c.2 (first + (operands (cs.take i)).length) := by
  induction cs generalizing first i with
  | nil => simp
  | cons c cs ih =>
    cases i with
    | zero => simp [operands]
    | succ i =>
      have hlen : (operands ((c :: cs).take (i + 1))).length
          = (boundValues c.2).length + (operands (cs.take i)).length := by
        simp [operands]
      simp only [clausesFrom, List.getElem?_cons_succ, ih, hlen, Nat.add_assoc]

/-! ## §2. Reading the placeholders of a text. -/

/-- The longest run of digits after each dollar sign, from the left. -/
def placeholders : List Char → List String
  | [] => []
  | c :: cs =>
      if c = '$' then String.ofList (cs.takeWhile Char.isDigit) :: placeholders cs
      else placeholders cs

/-- The text does not go on with a digit. -/
def StartsNoDigit (cs : List Char) : Prop := ∀ c, cs.head? = some c → c.isDigit = false

theorem takeWhile_append_of_startsNoDigit {as bs : List Char} (h : StartsNoDigit bs) :
    (as ++ bs).takeWhile Char.isDigit = as.takeWhile Char.isDigit := by
  induction as with
  | nil =>
    cases bs with
    | nil => rfl
    | cons b bs => simp [h b rfl]
  | cons a as ih =>
    rw [List.cons_append, List.takeWhile_cons, List.takeWhile_cons, ih]

/-- Reading goes part by part where no number is cut. -/
theorem placeholders_append {as bs : List Char} (h : StartsNoDigit bs) :
    placeholders (as ++ bs) = placeholders as ++ placeholders bs := by
  induction as with
  | nil => rfl
  | cons a as ih =>
    -- the digits after a dollar sign in the first part end with it at the latest
    rw [List.cons_append, placeholders, placeholders, takeWhile_append_of_startsNoDigit h, ih]
    split
    · rfl
    · rfl

/-- A text without a dollar sign in front changes nothing. -/
theorem placeholders_append_of_not_mem {as : List Char} (bs : List Char) (h : '$' ∉ as) :
    placeholders (as ++ bs) = placeholders bs := by
  induction as with
  | nil => rfl
  | cons a as ih =>
    rw [List.mem_cons, not_or] at h
    rw [List.cons_append, placeholders, if_neg (Ne.symm h.1), ih h.2]

/-- A text without a dollar sign has no placeholder. -/
theorem placeholders_of_not_mem {cs : List Char} (h : '$' ∉ cs) : placeholders cs = [] := by
  have h' := placeholders_append_of_not_mem [] h
  rwa [List.append_nil] at h'

/-- A text that may be put between others: it does not lengthen the number
before it and has no placeholder itself. -/
def IsSeparator (sep : List Char) : Prop :=
  ∃ d ds, sep = d :: ds ∧ d.isDigit = false ∧ '$' ∉ sep

theorem IsSeparator.startsNoDigit {sep : List Char} (h : IsSeparator sep) (bs : List Char) :
    StartsNoDigit (sep ++ bs) := by
  obtain ⟨d, ds, rfl, hd, -⟩ := h
  intro c hc
  rw [List.cons_append, List.head?_cons, Option.some.injEq] at hc
  rwa [← hc]

/-- What stands on the two sides of a separator is read apart. -/
theorem placeholders_separator {sep : List Char} (h : IsSeparator sep) (as bs : List Char) :
    placeholders (as ++ (sep ++ bs)) = placeholders as ++ placeholders bs := by
  have hsep : '$' ∉ sep := by
    obtain ⟨d, ds, -, -, hmem⟩ := h
    exact hmem
  rw [placeholders_append (h.startsNoDigit bs), placeholders_append_of_not_mem bs hsep]

theorem isSeparator_comma : IsSeparator ", ".toList := ⟨',', [' '], rfl, by decide, by decide⟩

theorem isSeparator_and : IsSeparator " AND ".toList := ⟨' ', _, rfl, by decide, by decide⟩

theorem isSeparator_blank : IsSeparator " ".toList := ⟨' ', [], rfl, by decide, by decide⟩

theorem isSeparator_close : IsSeparator ")".toList := ⟨')', [], rfl, by decide, by decide⟩

/-- Joined texts keep their placeholders. -/
theorem placeholders_intercalate {sep : String} (h : IsSeparator sep.toList)
    (texts : List String) :
    placeholders (sep.intercalate texts).toList
      = texts.flatMap fun t => placeholders t.toList := by
  rw [String.toList_intercalate]
  induction texts with
  | nil => rfl
  | cons t ts ih =>
    cases ts with
    | nil => simp
    | cons u us =>
      rw [List.map_cons, List.map_cons, List.intercalate_cons_cons, List.append_assoc,
        placeholders_separator h, ← List.map_cons, ih]
      rfl

/-! ## §3. The placeholders of a clause. -/

/-- A number is written in digits. -/
theorem isDigit_of_mem_toString {n : Nat} {c : Char} (h : c ∈ (toString n).toList) :
    c.isDigit = true := by
  rw [Nat.toString_eq_ofList_toDigits, String.toList_ofList] at h
  exact Nat.isDigit_of_mem_toDigits (Nat.zero_lt_of_ne_zero (by decide)) (Nat.le_refl 10) h

theorem not_mem_toString {c : Char} (hc : c.isDigit = false) (n : Nat) :
    c ∉ (toString n).toList := by
  intro h
  rw [isDigit_of_mem_toString h] at hc
  cases hc

/-- A placeholder reads as its number. -/
theorem placeholders_placeholder (n : Nat) :
    placeholders (placeholder n).toList = [toString n] := by
  have htake : (toString n).toList.takeWhile Char.isDigit = (toString n).toList :=
    List.takeWhile_eq_self_iff.mpr fun c hc => isDigit_of_mem_toString hc
  rw [placeholder, String.toList_append]
  show placeholders ('$' :: (toString n).toList) = _
  rw [placeholders, if_pos rfl, htake, placeholders_of_not_mem (not_mem_toString rfl n),
    String.ofList_toList]

/-- The numbers of so many placeholders, the first one being given. -/
def numbers (first count : Nat) : List String := (List.range' first count).map toString

theorem numbers_append (first m n : Nat) :
    numbers first m ++ numbers (first + m) n = numbers first (m + n) := by
  rw [numbers, numbers, ← List.map_append, List.range'_append_1, numbers]

/-- The placeholders of a list follow one another. -/
theorem map_placeholder_range (first n : Nat) :
    ((List.range n).map fun i => placeholder (first + i))
      = (List.range' first n).map placeholder := by
  rw [List.range'_eq_map_range, List.map_map]
  rfl

/-- Placeholders that are joined read as their numbers. -/
theorem flatMap_placeholders (ns : List Nat) :
    (ns.map placeholder).flatMap (fun t => placeholders t.toList) = ns.map toString := by
  induction ns with
  | nil => rfl
  | cons n ns ih =>
    rw [List.map_cons, List.flatMap_cons, placeholders_placeholder, ih]
    rfl

/-- A condition takes as many numbers as it binds values. -/
theorem placeholders_conditionText {field : String} (hf : '$' ∉ field.toList) (p : Predicate)
    (first : Nat) :
    placeholders (conditionText field p first).toList
      = numbers first (boundValues p).length := by
  -- there is no sign of a placeholder in the field and the words around it
  cases p with
  | equals v =>
    have hpre : '$' ∉ (field ++ " = ").toList := by simp [hf]
    simp only [conditionText]
    rw [String.toList_append, placeholders_append_of_not_mem _ hpre, placeholders_placeholder]
    rfl
  | oneOf vs =>
    have hpre : '$' ∉ (field ++ " IN (").toList := by simp [hf]
    simp only [conditionText, map_placeholder_range]
    rw [String.toList_append, String.toList_append, List.append_assoc,
      placeholders_append_of_not_mem _ hpre, ← List.append_nil ")".toList,
      placeholders_separator isSeparator_close, placeholders_intercalate isSeparator_comma,
      flatMap_placeholders]
    exact List.append_nil _
  | like pattern =>
    have hpre : '$' ∉ (field ++ " LIKE ").toList := by simp [hf]
    simp only [conditionText]
    rw [String.toList_append, placeholders_append_of_not_mem _ hpre, placeholders_placeholder]
    rfl
  | between low high =>
    have hpre : '$' ∉ (field ++ " BETWEEN ").toList := by simp [hf]
    simp only [conditionText]
    rw [String.toList_append, String.toList_append, String.toList_append, List.append_assoc,
      List.append_assoc, placeholders_append_of_not_mem _ hpre,
      placeholders_separator isSeparator_and, placeholders_placeholder, placeholders_placeholder]
    rfl

/-- The conditions of a clause take the numbers from the first on, without a
gap. -/
theorem placeholders_clausesFrom {cs : List Condition} (hcs : ∀ c ∈ cs, '$' ∉ c.1.toList)
    (first : Nat) :
    (clausesFrom first cs).flatMap (fun t => placeholders t.toList)
      = numbers first (operands cs).length := by
  induction cs generalizing first with
  | nil => rfl
  | cons c cs ih =>
    rw [List.forall_mem_cons] at hcs
    have hlen : (operands (c :: cs)).length = (boundValues c.2).length + (operands cs).length := by
      simp [operands]
    rw [clausesFrom, List.flatMap_cons, placeholders_conditionText hcs.1, ih hcs.2, hlen,
      numbers_append]

/-- Joined conditions are numbered as they are one by one. -/
theorem placeholders_where {cs : List Condition} (hcs : ∀ c ∈ cs, '$' ∉ c.1.toList) :
    placeholders ("WHERE " ++ " AND ".intercalate (compile cs).clauses).toList
      = numbers 1 (operands cs).length := by
  have hpre : '$' ∉ "WHERE ".toList := by decide
  rw [String.toList_append, placeholders_append_of_not_mem _ hpre,
    placeholders_intercalate isSeparator_and, compile_clauses, placeholders_clausesFrom hcs]

/-- Sort keys have no placeholder. -/
theorem placeholders_orderBy {keys : List SortKey} (hkeys : ∀ k ∈ keys, '$' ∉ k.field.toList) :
    placeholders ("ORDER BY " ++ ", ".intercalate (keys.map orderText)).toList = [] := by
  have hpre : '$' ∉ "ORDER BY ".toList := by decide
  rw [String.toList_append, placeholders_append_of_not_mem _ hpre,
    placeholders_intercalate isSeparator_comma, List.flatMap_eq_nil_iff]
  intro t ht
  obtain ⟨k, hk, rfl⟩ := List.mem_map.mp ht
  have hfield := hkeys k hk
  unfold orderText
  split
  · exact placeholders_of_not_mem (by simp [hfield])
  · exact placeholders_of_not_mem (by simp [hfield])

/-- A limit and an offset have none either. -/
theorem placeholders_word_number {word : String} (hword : '$' ∉ word.toList) {n : Int}
    (hn : 0 < n) :
    placeholders (word ++ toString n).toList = [] := by
  obtain ⟨m, rfl⟩ := Int.eq_ofNat_of_zero_le (Int.le_of_lt hn)
  show placeholders (word ++ toString m).toList = []
  rw [String.toList_append, placeholders_append_of_not_mem _ hword]
  exact placeholders_of_not_mem (not_mem_toString rfl m)

theorem not_mem_fieldName {field : String} (h : FieldPath.isFieldName field = true) {c : Char}
    (hc : FieldPath.isNameChar c = false) : c ∉ field.toList := by
  intro hmem
  rw [FieldPath.isNameChar_of_isFieldName h c hmem] at hc
  cases hc

theorem flatMap_append_of_none {texts others : List String}
    (h : ∀ t ∈ others, placeholders t.toList = []) :
    (texts ++ others).flatMap (fun t => placeholders t.toList)
      = texts.flatMap fun t => placeholders t.toList := by
  rw [List.flatMap_append, List.flatMap_eq_nil_iff.mpr h, List.append_nil]

/-- Only the conditions of a query have placeholders. -/
theorem placeholders_clauseOf {q : Query} (h : q.validate = .ok ()) :
    placeholders (clauseOf q).text.toList = numbers 1 (clauseOf q).values.length := by
  obtain ⟨-, hconds, hsort, -, -⟩ := (Query.validate_ok_iff q).mp h
  have hdollar : FieldPath.isNameChar '$' = false := by decide
  have hwhere := placeholders_where fun c hc => not_mem_fieldName (hconds c hc).1 hdollar
  have horder := placeholders_orderBy fun k hk => not_mem_fieldName (hsort k hk) hdollar
  have hvalues : (clauseOf q).values = operands q.conditions.toList := compile_values _
  show placeholders (" ".intercalate (parts q (compile q.conditions.toList))).toList = _
  rw [placeholders_intercalate isSeparator_blank, hvalues, parts, List.append_assoc,
    List.append_assoc, flatMap_append_of_none, isUnfiltered_compile]
  · cases hcs : q.conditions.toList with
    | nil => rfl
    | cons c cs =>
      rw [hcs] at hwhere
      show [_].flatMap _ = _
      rw [List.flatMap_singleton, hwhere]
  · -- what follows them has no placeholder
    intro t ht
    simp only [List.mem_append, List.mem_ite_nil_left, List.mem_ite_nil_right,
      List.mem_singleton] at ht
    rcases ht with ⟨-, rfl⟩ | ⟨hlimit, rfl⟩ | ⟨hoffset, rfl⟩
    · exact horder
    · exact placeholders_word_number (by decide) hlimit
    · exact placeholders_word_number (by decide) hoffset

/-- **The placeholders of a clause are one, two, and so on, and the value
with a number is the operand that its placeholder stands for.**  A query that
makes sense has a clause; its placeholders, read from the left, are numbered
without a gap up to the number of its values, and the values are the operands
of the conditions in their order.  The same goes for any list of conditions,
with repeated fields and empty lists among them: there is one clause for each,
and it is numbered after the values of all earlier ones. -/
theorem placeholders_bound_in_order {q : Query} (h : q.validate = .ok ())
    (cs : List Condition) :
    (∃ c, translate q = .ok c
      ∧ placeholders c.text.toList = (List.range' 1 c.values.length).map toString
      ∧ c.values = q.conditions.toList.flatMap fun c => boundValues c.2)
    ∧ (compile cs).clauses.length = cs.length
    ∧ (compile cs).values = cs.flatMap (fun c => boundValues c.2)
    ∧ ∀ i, (compile cs).clauses[i]?
        = cs[i]?.map fun c =>
            (conditionClause c.1 c.2
              (1 + ((cs.take i).flatMap fun c => boundValues c.2).length)).text := by
  refine ⟨⟨clauseOf q, translate_ok_iff.mpr ⟨h, rfl⟩, placeholders_clauseOf h,
    compile_values _⟩, length_compile cs, compile_values cs, ?_⟩
  intro i
  rw [compile_clauses, getElem?_clausesFrom]
  rfl

/-- A list, a range and a pattern take three, two and one of six numbers. -/
theorem placeholders_bound_in_order_mixed :
    ∃ c, translate (((Query.empty.filter "id" (.oneOf [.integer 9, .integer 3, .integer 5])).filter
        "age" (.between (.integer 18) (.integer 30))).filter "title" (.like "%$7%")) = .ok c
      ∧ placeholders c.text.toList = ["1", "2", "3", "4", "5", "6"] := by
  have hvalid : (((Query.empty.filter "id" (.oneOf [.integer 9, .integer 3, .integer 5])).filter
      "age" (.between (.integer 18) (.integer 30))).filter "title" (.like "%$7%")).validate
        = .ok () := by decide
  obtain ⟨⟨c, hc, hread, hvalues⟩, -⟩ := placeholders_bound_in_order hvalid []
  refine ⟨c, hc, ?_⟩
  rw [hread, hvalues]
  rfl

end DataAccess.Sql
