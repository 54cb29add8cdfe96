/-
  DataAccess.Proofs.Sql.Words — a clause as words with blanks between them.

  The parts of a clause are joined at three levels by three different texts.
  Seen from outside there is only one kind of joint: a clause is a sequence of
  words with single blanks between them, and brackets and commas stick to the
  words next to them.  `clauseWords` lists these words from the query, so that
  a reader of the text may split it at blanks and go on from word to word.

  Main statements:
    * `text_clauseOf`      — the text of a clause is its words with blanks
                             between them;
    * `isWord_clauseWords` — none of them is empty or holds a blank;
    * `wordsOf_text`       — splitting the text gives the words back.
-/
import DataAccess.Proofs.Sql.Numbering

namespace DataAccess.Sql

/-! ## §1. Words. -/

/-- A text that blanks delimit. -/
def IsWord (w : String) : Prop := w ≠ "" ∧ ' ' ∉ w.toList

/-- The words of a text with single blanks between them. -/
def wordsOf (text : String) : List String :=
  if text = "" then [] else (text.toList.splitOn ' ').map String.ofList

theorem intercalate_ne_empty {ws : List String} (hne : ws ≠ []) (hws : ∀ w ∈ ws, IsWord w) :
    " ".intercalate ws ≠ "" := by
  cases ws with
  | nil => exact absurd rfl hne
  | cons w us =>
    have hw : w ≠ "" := (hws w List.mem_cons_self).1
    cases us with
    | nil => rwa [String.intercalate_singleton]
    | cons u us =>
      intro h
      have hl := congrArg String.toList h
      simp at hl

/-- Splitting at blanks gives the words back. -/
theorem wordsOf_intercalate {ws : List String} (hws : ∀ w ∈ ws, IsWord w) :
    wordsOf (" ".intercalate ws) = ws := by
  by_cases hne : ws = []
  · rw [hne, String.intercalate_nil]
    rfl
  · -- the law of the library asks for two things: no blank within, and some word
    have hblank : ∀ l ∈ ws.map String.toList, ' ' ∉ l := by
      intro l hl
      obtain ⟨w, hw, rfl⟩ := List.mem_map.mp hl
      exact (hws w hw).2
    have hmap : ws.map String.toList ≠ [] := by
      intro h
      exact hne (List.map_eq_nil_iff.mp h)
    rw [wordsOf, if_neg (intercalate_ne_empty hne hws), String.toList_intercalate]
    show List.map String.ofList ([' '].intercalate (ws.map String.toList) |>.splitOn ' ') = ws
    rw [List.splitOn_intercalate ' ' hblank hmap, List.map_map]
    simp [Function.comp_def]

/-- Groups of words may be joined group by group. -/
theorem intercalate_flatten {groups : List (List String)} (h : ∀ ws ∈ groups, ws ≠ []) :
    " ".intercalate groups.flatten = " ".intercalate (groups.map (String.intercalate " ")) := by
  induction groups with
  | nil => rfl
  | cons ws groups ih =>
    rw [List.forall_mem_cons] at h
    cases groups with
    | nil => simp
    | cons us groups =>
      have hne : (us :: groups).flatten ≠ [] := by
        have hus := h.2 us List.mem_cons_self
        simp [hus]
      rw [List.flatten_cons, String.intercalate_append_of_ne_nil h.1 hne, ih h.2]
      simp only [List.map_cons, String.intercalate_cons_cons]

/-! ## §2. The words of a clause. -/

/-- The words of the items of a list in brackets; `opening` is what stands
before the first one. -/
def listWords (opening : String) : List String → List String
  | [] => [opening ++ ")"]
  | [item] => [opening ++ item ++ ")"]
  | item :: next :: items => (opening ++ item ++ ",") :: listWords "" (next :: items)

/-- The words of a condition. -/
def conditionWords (c : Condition) (first : Nat) : List String :=
  match c.2 with
  | .equals _ => [c.1, "=", placeholder first]
  | .oneOf vs => c.1 :: "IN" :: listWords "(" ((List.range' first vs.length).map placeholder)
  | .like _ => [c.1, "LIKE", placeholder first]
  | .between _ _ => [c.1, "BETWEEN", placeholder first, "AND", placeholder (first + 1)]

/-- The words of conditions, each with the word that leads to it. -/
def conditionsWords (lead : String) (first : Nat) : List Condition → List String
  | [] => []
  | c :: cs =>
      lead :: conditionWords c first
        ++ conditionsWords "AND" (first + (boundValues c.2).length) cs

/-- The word for a direction. -/
def directionWord : Direction → String
  | .ascending => "ASC"
  | .descending => "DESC"

/-- The words of sort keys. -/
def orderWords : List SortKey → List String
  | [] => []
  | [k] => [k.field, directionWord k.direction]
  | k :: next :: keys =>
      k.field :: (directionWord k.direction ++ ",") :: orderWords (next :: keys)

/-- The words of a bound on the answers; there is none without a bound. -/
def boundWords (lead : String) (n : Int64) : List String :=
  if 0 < n.toInt then [lead, toString n.toInt] else []

/-- The words of a clause. -/
def clauseWords (q : Query) : List String :=
  conditionsWords "WHERE" 1 q.conditions.toList
    ++ (if q.sort.isEmpty then [] else "ORDER" :: "BY" :: orderWords q.sort)
    ++ boundWords "LIMIT" q.limit
    ++ boundWords "OFFSET" q.offset

/-! ## §3. The text of a clause is its words. -/

theorem listWords_ne_nil (opening : String) (items : List String) :
    listWords opening items ≠ [] := by
  unfold listWords
  split <;> simp

theorem intercalate_listWords (opening : String) (items : List String) :
    " ".intercalate (listWords opening items) = opening ++ ", ".intercalate items ++ ")" := by
  have hcomma : ", " = "," ++ " " := rfl
  induction items generalizing opening with
  | nil => simp [listWords]
  | cons item items ih =>
    cases items with
    | nil => simp [listWords]
    | cons next items =>
      rw [listWords, String.intercalate_cons_of_ne_nil (listWords_ne_nil _ _), ih,
        String.intercalate_cons_cons]
      simp only [hcomma, String.append_assoc, String.empty_append]

theorem intercalate_conditionWords (c : Condition) (first : Nat) :
    " ".intercalate (conditionWords c first) = conditionText c.1 c.2 first := by
  obtain ⟨field, p⟩ := c
  cases p with
  | equals v =>
    have hword : " = " = " " ++ ("=" ++ " ") := rfl
    simp only [conditionWords, conditionText, String.intercalate_cons_cons,
      String.intercalate_singleton, hword, String.append_assoc]
  | oneOf vs =>
    have hword : " IN (" = " " ++ ("IN" ++ (" " ++ "(")) := rfl
    simp only [conditionWords, conditionText]
    rw [String.intercalate_cons_cons, String.intercalate_cons_of_ne_nil (listWords_ne_nil _ _),
      intercalate_listWords, map_placeholder_range, hword]
    simp only [String.append_assoc]
  | like pattern =>
    have hword : " LIKE " = " " ++ ("LIKE" ++ " ") := rfl
    simp only [conditionWords, conditionText, String.intercalate_cons_cons,
      String.intercalate_singleton, hword, String.append_assoc]
  | between low high =>
    have hword : " BETWEEN " = " " ++ ("BETWEEN" ++ " ") := rfl
    have hand : " AND " = " " ++ ("AND" ++ " ") := rfl
    simp only [conditionWords, conditionText, String.intercalate_cons_cons,
      String.intercalate_singleton, hword, hand, String.append_assoc]

theorem conditionWords_ne_nil (c : Condition) (first : Nat) : conditionWords c first ≠ [] := by
  unfold conditionWords
  split <;> simp

/-- Conditions with a word before each are the joined clauses after the first
word. -/
theorem intercalate_conditionsWords (lead : String) (first : Nat) (c : Condition)
    (cs : List Condition) :
    " ".intercalate (conditionsWords lead first (c :: cs))
      = lead ++ " " ++ " AND ".intercalate (clausesFrom first (c :: cs)) := by
  have hand : " AND " = " " ++ ("AND" ++ " ") := rfl
  induction cs generalizing lead first c with
  | nil =>
    rw [conditionsWords, conditionsWords, List.append_nil,
      String.intercalate_cons_of_ne_nil (conditionWords_ne_nil c first),
      intercalate_conditionWords, clausesFrom, clausesFrom, String.intercalate_singleton]
  | cons next cs ih =>
    have hne : conditionsWords "AND" (first + (boundValues c.2).length) (next :: cs) ≠ [] := by
      simp [conditionsWords]
    rw [conditionsWords, String.intercalate_append_of_ne_nil (List.cons_ne_nil _ _) hne, ih,
      String.intercalate_cons_of_ne_nil (conditionWords_ne_nil c first),
      intercalate_conditionWords]
    simp only [clausesFrom, String.intercalate_cons_cons, hand, String.append_assoc]

theorem orderText_eq (k : SortKey) : orderText k = k.field ++ " " ++ directionWord k.direction := by
  unfold orderText directionWord
  cases k.direction with
  | ascending =>
    show k.field ++ (" " ++ "ASC") = _
    rw [String.append_assoc]
  | descending =>
    show k.field ++ (" " ++ "DESC") = _
    rw [String.append_assoc]

theorem orderWords_ne_nil (k : SortKey) (keys : List SortKey) : orderWords (k :: keys) ≠ [] := by
  cases keys with
  | nil => exact List.cons_ne_nil _ _
  | cons next keys => exact List.cons_ne_nil _ _

theorem intercalate_orderWords (keys : List SortKey) :
    " ".intercalate (orderWords keys) = ", ".intercalate (keys.map orderText) := by
  have hcomma : ", " = "," ++ " " := rfl
  induction keys with
  | nil => rfl
  | cons k keys ih =>
    cases keys with
    | nil => simp [orderWords, orderText_eq]
    | cons next keys =>
      rw [orderWords, String.intercalate_cons_cons,
        String.intercalate_cons_of_ne_nil (orderWords_ne_nil next keys), ih]
      simp only [List.map_cons, String.intercalate_cons_cons, orderText_eq k, hcomma,
        String.append_assoc]

/-- The parts of a clause, each as its words. -/
def partsWords (q : Query) : List (List String) :=
  (if q.conditions.toList.isEmpty then [] else [conditionsWords "WHERE" 1 q.conditions.toList])
    ++ (if q.sort.isEmpty then [] else ["ORDER" :: "BY" :: orderWords q.sort])
    ++ (if 0 < q.limit.toInt then [["LIMIT", toString q.limit.toInt]] else [])
    ++ (if 0 < q.offset.toInt then [["OFFSET", toString q.offset.toInt]] else [])

theorem partsWords_ne_nil (q : Query) : ∀ ws ∈ partsWords q, ws ≠ [] := by
  intro ws hws
  simp only [partsWords, List.mem_append, List.mem_ite_nil_left, List.mem_ite_nil_right,
    List.mem_singleton] at hws
  rcases hws with ((⟨hcs, rfl⟩ | ⟨-, rfl⟩) | ⟨-, rfl⟩) | ⟨-, rfl⟩
  · cases h : q.conditions.toList with
    | nil => rw [h] at hcs; exact absurd rfl hcs
    | cons c cs => exact List.cons_ne_nil _ _
  · exact List.cons_ne_nil _ _
  · exact List.cons_ne_nil _ _
  · exact List.cons_ne_nil _ _

theorem flatten_partsWords (q : Query) : (partsWords q).flatten = clauseWords q := by
  have hcs : (if q.conditions.toList.isEmpty then []
      else [conditionsWords "WHERE" 1 q.conditions.toList]).flatten
        = conditionsWords "WHERE" 1 q.conditions.toList := by
    cases q.conditions.toList with
    | nil => rfl
    | cons c cs => exact List.flatten_singleton
  have hsort : (if q.sort.isEmpty then [] else ["ORDER" :: "BY" :: orderWords q.sort]).flatten
      = if q.sort.isEmpty then [] else "ORDER" :: "BY" :: orderWords q.sort := by
    split
    · rfl
    · exact List.flatten_singleton
  have hbound : ∀ (lead : String) (n : Int64),
      (if 0 < n.toInt then [[lead, toString n.toInt]] else []).flatten = boundWords lead n := by
    intro lead n
    unfold boundWords
    split
    · exact List.flatten_singleton
    · rfl
  simp only [partsWords, clauseWords, List.flatten_append, hcs, hsort, hbound]

theorem map_partsWords (q : Query) :
    (partsWords q).map (String.intercalate " ") = parts q (compile q.conditions.toList) := by
  -- part by part: either both sides leave it out, or its words make up its text
  have hwhere : (if q.conditions.toList.isEmpty then []
      else [conditionsWords "WHERE" 1 q.conditions.toList]).map (String.intercalate " ")
        = if q.conditions.toList.isEmpty then []
          else ["WHERE " ++ " AND ".intercalate (compile q.conditions.toList).clauses] := by
    rw [compile_clauses]
    cases q.conditions.toList with
    | nil => rfl
    | cons c cs =>
      show [" ".intercalate (conditionsWords "WHERE" 1 (c :: cs))] = [_]
      rw [intercalate_conditionsWords]
      rfl
  have horder : (if q.sort.isEmpty then []
      else ["ORDER" :: "BY" :: orderWords q.sort]).map (String.intercalate " ")
        = if q.sort.isEmpty then []
          else ["ORDER BY " ++ ", ".intercalate (q.sort.map orderText)] := by
    rw [← intercalate_orderWords]
    cases q.sort with
    | nil => rfl
    | cons k keys =>
      show [" ".intercalate ("ORDER" :: "BY" :: orderWords (k :: keys))] = [_]
      rw [String.intercalate_cons_cons,
        String.intercalate_cons_of_ne_nil (orderWords_ne_nil k keys),
        ← String.append_assoc, ← String.append_assoc]
      rfl
  have hbound : ∀ (lead : String) (n : Int),
      (if 0 < n then [[lead, toString n]] else []).map (String.intercalate " ")
        = if 0 < n then [lead ++ " " ++ toString n] else [] := by
    intro lead n
    split
    · simp
    · rfl
  simp only [partsWords, List.map_append, hwhere, horder, hbound, parts, isUnfiltered_compile]
  rfl

/-- **The text of a clause is its words with blanks between them.** -/
theorem text_clauseOf (q : Query) : (clauseOf q).text = " ".intercalate (clauseWords q) := by
  rw [← flatten_partsWords, intercalate_flatten (partsWords_ne_nil q), map_partsWords]
  rfl

/-! ## §4. No word of a clause is empty or holds a blank. -/

theorem IsWord.append {u v : String} (hu : IsWord u) (hv : ' ' ∉ v.toList) : IsWord (u ++ v) := by
  refine ⟨?_, ?_⟩
  · intro h
    exact hu.1 (String.append_eq_empty_iff.mp h).1
  · rw [String.toList_append, List.mem_append, not_or]
    exact ⟨hu.2, hv⟩

theorem IsWord.append_left {u v : String} (hu : ' ' ∉ u.toList) (hv : IsWord v) :
    IsWord (u ++ v) := by
  refine ⟨?_, ?_⟩
  · intro h
    exact hv.1 (String.append_eq_empty_iff.mp h).2
  · rw [String.toList_append, List.mem_append, not_or]
    exact ⟨hu, hv.2⟩

theorem isWord_fieldName {field : String} (h : FieldPath.isFieldName field = true) :
    IsWord field := by
  refine ⟨?_, ?_⟩
  · rintro rfl
    rw [FieldPath.isFieldName_empty] at h
    cases h
  · exact not_mem_fieldName h (by decide)

theorem isWord_toString (n : Nat) : IsWord (toString n) := by
  refine ⟨?_, ?_⟩
  · rw [Nat.toString_eq_ofList_toDigits]
    intro h
    have hl := congrArg String.toList h
    rw [String.toList_ofList] at hl
    exact Nat.toDigits_ne_nil hl
  · exact not_mem_toString rfl n

theorem isWord_placeholder (n : Nat) : IsWord (placeholder n) :=
  IsWord.append_left (by decide) (isWord_toString n)

theorem isWord_listWords {opening : String} (hopening : ' ' ∉ opening.toList)
    {items : List String} (hitems : ∀ item ∈ items, IsWord item) :
    ∀ w ∈ listWords opening items, IsWord w := by
  induction items generalizing opening with
  | nil =>
    intro w hw
    rw [listWords, List.mem_singleton] at hw
    subst hw
    exact IsWord.append_left hopening ⟨by decide, by decide⟩
  | cons item items ih =>
    rw [List.forall_mem_cons] at hitems
    have hfirst := IsWord.append_left hopening hitems.1
    cases items with
    | nil =>
      intro w hw
      rw [listWords, List.mem_singleton] at hw
      subst hw
      exact hfirst.append (by decide)
    | cons next items =>
      intro w hw
      rw [listWords] at hw
      rcases List.mem_cons.mp hw with rfl | hw
      · exact hfirst.append (by decide)
      · exact ih (by decide) hitems.2 w hw

theorem isWord_conditionWords {c : Condition} (hc : FieldPath.isFieldName c.1 = true)
    (first : Nat) : ∀ w ∈ conditionWords c first, IsWord w := by
  obtain ⟨field, p⟩ := c
  have hfield : IsWord field := isWord_fieldName hc
  have hplace := isWord_placeholder first
  have hsign : IsWord "=" ∧ IsWord "IN" ∧ IsWord "LIKE" ∧ IsWord "BETWEEN" ∧ IsWord "AND" := by
    simp [IsWord]
  obtain ⟨heq, hin, hlike, hbetween, hand⟩ := hsign
  cases p with
  | equals v => simp [conditionWords, hfield, hplace, heq]
  | oneOf vs =>
    have hitems : ∀ item ∈ (List.range' first vs.length).map placeholder, IsWord item := by
      intro item hitem
      obtain ⟨n, -, rfl⟩ := List.mem_map.mp hitem
      exact isWord_placeholder n
    have hopening : ' ' ∉ "(".toList := by decide
    simp only [conditionWords, List.forall_mem_cons]
    exact ⟨hfield, hin, isWord_listWords hopening hitems⟩
  | like pattern => simp [conditionWords, hfield, hplace, hlike]
  | between low high =>
    have hnext := isWord_placeholder (first + 1)
    simp [conditionWords, hfield, hplace, hbetween, hand, hnext]

theorem isWord_conditionsWords {lead : String} (hlead : IsWord lead) {cs : List Condition}
    (hcs : ∀ c ∈ cs, FieldPath.isFieldName c.1 = true) (first : Nat) :
    ∀ w ∈ conditionsWords lead first cs, IsWord w := by
  induction cs generalizing lead first with
  | nil => simp [conditionsWords]
  | cons c cs ih =>
    rw [List.forall_mem_cons] at hcs
    have hand : IsWord "AND" := ⟨by decide, by decide⟩
    intro w hw
    rw [conditionsWords, List.cons_append, List.mem_cons, List.mem_append] at hw
    rcases hw with rfl | hw | hw
    · exact hlead
    · exact isWord_conditionWords hcs.1 first w hw
    · exact ih hand hcs.2 _ w hw

theorem isWord_directionWord (d : Direction) : IsWord (directionWord d) := by
  cases d with
  | ascending => exact ⟨by decide, by decide⟩
  | descending => exact ⟨by decide, by decide⟩

theorem isWord_orderWords {keys : List SortKey}
    (hkeys : ∀ k ∈ keys, FieldPath.isFieldName k.field = true) :
    ∀ w ∈ orderWords keys, IsWord w := by
  induction keys with
  | nil => simp [orderWords]
  | cons k keys ih =>
    rw [List.forall_mem_cons] at hkeys
    have hfield := isWord_fieldName hkeys.1
    have hdir := isWord_directionWord k.direction
    cases keys with
    | nil => simp [orderWords, hfield, hdir]
    | cons next keys =>
      rw [orderWords, List.forall_mem_cons, List.forall_mem_cons]
      exact ⟨hfield, hdir.append (by decide), ih hkeys.2⟩

theorem isWord_boundWords {lead : String} (hlead : IsWord lead) (n : Int64) :
    ∀ w ∈ boundWords lead n, IsWord w := by
  unfold boundWords
  split
  · next hpos =>
    obtain ⟨m, hm⟩ := Int.eq_ofNat_of_zero_le (Int.le_of_lt hpos)
    have hnum : IsWord (toString n.toInt) := by
      rw [hm]
      exact isWord_toString m
    rw [List.forall_mem_cons, List.forall_mem_singleton]
    exact ⟨hlead, hnum⟩
  · simp

theorem isWord_clauseWords {q : Query} (h : q.validate = .ok ()) :
    ∀ w ∈ clauseWords q, IsWord w := by
  obtain ⟨-, hconds, hsort, -, -⟩ := (Query.validate_ok_iff q).mp h
  intro w hw
  simp only [clauseWords, List.mem_append, List.mem_ite_nil_left, List.mem_cons] at hw
  rcases hw with ((hw | ⟨-, rfl | rfl | hw⟩) | hw) | hw
  · exact isWord_conditionsWords ⟨by decide, by decide⟩ (fun c hc => (hconds c hc).1) 1 w hw
  · exact ⟨by decide, by decide⟩
  · exact ⟨by decide, by decide⟩
  · exact isWord_orderWords hsort w hw
  · exact isWord_boundWords ⟨by decide, by decide⟩ q.limit w hw
  · exact isWord_boundWords ⟨by decide, by decide⟩ q.offset w hw

/-- **Splitting the text of a clause at blanks gives its words back.** -/
theorem wordsOf_text {q : Query} (h : q.validate = .ok ()) :
    wordsOf (clauseOf q).text = clauseWords q := by
  rw [text_clauseOf, wordsOf_intercalate (isWord_clauseWords h)]

end DataAccess.Sql
