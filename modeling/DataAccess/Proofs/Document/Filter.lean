/-
  DataAccess.Proofs.Document.Filter — filters and the conditions they stand
  for.

  Conditions become a filter, and a filter is put to a document by an
  evaluator that knows nothing of conditions.  It has to tell operands from
  lists of operators, to find the field behind a path, and to compare what it
  finds with the operand.  What a condition asks is said here without a
  filter: by a relation for paths, one for the order of a value and an
  operand, and one for the occurrence of a pattern.

  Main statements:
    * `path?_eq_some_iff`         — which value a dotted path leads to;
    * `compare?_ofScalar_iff`     — how a value compares with an operand;
    * `holds_iff`                 — what a predicate asks can be decided;
    * `meets_map`                 — a filter is as good as its parts;
    * `isAsExpected_predicateDatum` — what the part of a condition does;
    * `holdsAll_of_meets`         — what a filter tells of a document, if it tells
                                    anything;
    * `meets_filterDocument`      — a filter means what its conditions mean.
-/
import DataAccess.Document.Condition
import DataAccess.Document.Find
import DataAccess.Document.Matching
import DataAccess.Proofs.Pattern.Matches
import DataAccess.Sample.Engines

namespace DataAccess

open DataAccess.Pattern

/-! ## §1. Paths. -/

namespace Document

/-- A dotted path leads from a document to a value. -/
inductive Leads : Document → List Char → Datum → Prop where
  /-- A name without dots leads to the field of that name. -/
  | field {d : Document} {name : List Char} {x : Datum} (hname : '.' ∉ name)
      (h : Assoc.find? d (String.ofList name) = some x) : Leads d name x
  /-- A dot leads into the document that the field in front of it holds. -/
  | inside {d fs : Document} {name path : List Char} {x : Datum} (hname : '.' ∉ name)
      (h : Assoc.find? d (String.ofList name) = some (.document fs)) (hrest : Leads fs path x) :
      Leads d (name ++ '.' :: path) x

theorem along?_cons {ks : List String} (h : ks ≠ []) (d : Document) (k : String) :
    along? d (k :: ks) = match Assoc.find? d k with
      | some (.document fs) => along? fs ks
      | _ => none := by
  cases ks with
  | nil => exact absurd rfl h
  | cons k' ks => rfl

/-- A text without dots, or what is in front of the first dot. -/
theorem exists_first_dot (cs : List Char) :
    '.' ∉ cs ∨ ∃ name path, '.' ∉ name ∧ cs = name ++ '.' :: path := by
  by_cases h : '.' ∈ cs
  · obtain ⟨name, path, hcs, hname⟩ := List.eq_append_cons_of_mem h
    exact .inr ⟨name, path, hname, hcs⟩
  · exact .inl h

theorem along?_name {cs : List Char} (h : '.' ∉ cs) (d : Document) :
    along? d ((FieldPath.splitDots cs).map String.ofList)
      = Assoc.find? d (String.ofList cs) := by
  rw [FieldPath.splitDots_of_not_mem h]
  rfl

theorem along?_dot {name path : List Char} (h : '.' ∉ name) (d : Document) :
    along? d ((FieldPath.splitDots (name ++ '.' :: path)).map String.ofList)
      = match Assoc.find? d (String.ofList name) with
        | some (.document fs) => along? fs ((FieldPath.splitDots path).map String.ofList)
        | _ => none := by
  rw [FieldPath.splitDots_append, FieldPath.splitDots_of_not_mem h]
  refine along?_cons (fun hnil => ?_) d _
  exact FieldPath.splitDots_ne_nil path (List.map_eq_nil_iff.mp hnil)

/-- **A value is looked up where its path leads.** -/
theorem path?_eq_some_iff {d : Document} {path : String} {x : Datum} :
    d.path? path = some x ↔ d.Leads path.toList x := by
  unfold path? FieldPath.segments
  generalize path.toList = cs
  constructor
  · intro h
    -- a path gets shorter with every dot
    induction hn : cs.length using Nat.strongRecOn generalizing cs d with
    | ind n ih =>
      rcases exists_first_dot cs with hname | ⟨name, rest, hname, rfl⟩
      · rw [along?_name hname] at h
        exact .field hname h
      · rw [along?_dot hname] at h
        split at h
        · next fs hfield =>
          have hlt : rest.length < n := by
            rw [← hn, List.length_append, List.length_cons]
            omega
          exact .inside hname hfield (ih rest.length hlt rest h rfl)
        · cases h
  · intro h
    induction h with
    | field hname h => rw [along?_name hname, h]
    | inside hname h _ ih =>
      rw [along?_dot hname, h]
      exact ih

end Document

/-! ## §2. The order of a value and an operand. -/

/-- A value compares with an operand. -/
inductive Datum.Ranks : Datum → Scalar → Ordering → Prop where
  /-- Integers of either width compare as integers. -/
  | integer {x : Datum} {m : Int} {n : Int64} (hx : x.integer? = some m) :
      Ranks x (.integer n) (orderInt m n.toInt)
  /-- A double makes a double of an integer operand. -/
  | rounded {a : Float} {n : Int64} {o : Ordering} (h : orderFloat? a n.toFloat = some o) :
      Ranks (.double a) (.integer n) o
  /-- A number of any kind is compared with a double as a double. -/
  | double {x : Datum} {a b : Float} {o : Ordering} (hx : x.numeric? = some a)
      (h : orderFloat? a b = some o) : Ranks x (.float b) o
  /-- Texts compare with texts. -/
  | text (s t : String) : Ranks (.string s) (.text t) (orderText s t)
  /-- Truth values compare with truth values. -/
  | boolean (p q : Bool) : Ranks (.boolean p) (.boolean q) (orderBool p q)

namespace Datum

/-- **A value compares with an operand as their kinds say, and not at all if
they are of different kinds.** -/
theorem compare?_ofScalar_iff {x : Datum} {v : Scalar} {o : Ordering} :
    x.compare? (ofScalar v) = some o ↔ x.Ranks v o := by
  constructor
  · intro h
    -- the kind of the operand decides which values compare with it at all
    cases v with
    | integer n =>
      cases x with
      | int32 m => cases h; exact .integer rfl
      | int64 m => cases h; exact .integer rfl
      | double a => exact .rounded h
      | _ => cases h
    | float b =>
      cases x with
      | int32 m => exact .double rfl h
      | int64 m => exact .double rfl h
      | double a => exact .double rfl h
      | _ => cases h
    | text t =>
      cases x with
      | string s => cases h; exact .text s t
      | _ => cases h
    | boolean q =>
      cases x with
      | boolean p => cases h; exact .boolean p q
      | _ => cases h
  · intro h
    cases h with
    | integer hx => exact compare?_of_integers hx rfl
    | rounded h => exact h
    | double hx h =>
      cases x with
      | int32 m => cases hx; exact h
      | int64 m => cases hx; exact h
      | double a => cases hx; exact h
      | _ => cases hx
    | text s t => rfl
    | boolean p q => rfl

/-- Doubles that are equal are in no other order. -/
theorem orderFloat?_of_beq {a b : Float} (h : (a == b) = true) : orderFloat? a b = some .eq := by
  have hnot : ¬ a < b := by
    intro hlt
    have heq : a.toModel.unpack.beq b.toModel.unpack = true := h
    have hless : a.toModel.unpack.lt b.toModel.unpack = true :=
      of_decide_eq_true (show decide (a.toModel < b.toModel) = true from hlt)
    -- both are read off the same comparison
    unfold Float.Model.UnpackedFloat.beq at heq
    unfold Float.Model.UnpackedFloat.lt at hless
    rw [eq_of_beq heq] at hless
    cases hless
  rw [orderFloat?, if_neg hnot, if_pos h]

/-- A value that is the same as an operand compares as equal to it. -/
theorem compare?_of_same {x : Datum} {v : Scalar} (h : x.same (ofScalar v) = true) :
    x.compare? (ofScalar v) = some .eq := by
  have hself : ∀ m : Int, orderInt m m = .eq := by
    intro m
    rw [orderInt, if_neg (Int.lt_irrefl m), if_pos rfl]
  -- the same values are of one kind, and integers of one width
  cases v with
  | integer n =>
    cases x with
    | int64 m =>
      obtain rfl : m = n := eq_of_beq h
      exact congrArg some (hself m.toInt)
    | _ => cases h
  | float b =>
    cases x with
    | double a => exact orderFloat?_of_beq h
    | _ => cases h
  | text t =>
    cases x with
    | string s =>
      obtain rfl : s = t := eq_of_beq h
      exact congrArg some (Scalar.orderChars_self s.toList)
    | _ => cases h
  | boolean q =>
    cases x with
    | boolean p =>
      obtain rfl : p = q := eq_of_beq h
      exact congrArg some (hself p.toNat)
    | _ => cases h

/-- A value equals an operand exactly if it compares as equal to it. -/
theorem equals_ofScalar (x : Datum) (v : Scalar) :
    x.equals (ofScalar v) = (x.compare? (ofScalar v) == some .eq) := by
  unfold equals
  by_cases h : x.same (ofScalar v) = true
  · rw [compare?_of_same h]
    rfl
  · rw [Bool.eq_false_iff.mpr h, Bool.or_false]

end Datum

/-! ## §3. What a predicate asks of a value. -/

/-- The options of patterns in filters: letters match in either case. -/
def Pattern.anyCase : Options := ⟨true, false⟩

/-- A text writes a pattern, and some match of it is in the other text. -/
def Pattern.Occurs (o : Options) (pattern text : String) : Prop :=
  ∃ p, read? o pattern = some p
    ∧ ∃ i j, i ≤ text.toList.toArray.size ∧ p.Matches text.toList.toArray i j

/-- The pattern occurs in the text. -/
def Pattern.occurs (o : Options) (pattern text : String) : Bool :=
  (read? o pattern).any (·.occursIn text)

theorem Pattern.occurs_iff {o : Options} {pattern text : String} :
    occurs o pattern text = true ↔ Occurs o pattern text := by
  simp only [occurs, Occurs, Option.any_eq_true, Node.occursIn_iff]

/-- The value is as asked; whether letters match in their own case only is
left to the options. -/
def Predicate.Asks (o : Options) (x : Datum) : Predicate → Prop
  | .equals v => x.Ranks v .eq
  | .oneOf vs => ∃ v ∈ vs, x.Ranks v .eq
  | .like pattern => ∃ s, x = .string s ∧ Pattern.Occurs o pattern s
  | .between low high =>
      (∃ r, x.Ranks low r ∧ r ≠ .lt) ∧ ∃ r, x.Ranks high r ∧ r ≠ .gt

namespace Predicate

theorem isAbove_iff {x : Datum} {v : Scalar} :
    (match x.compare? (.ofScalar v) with
      | some .gt | some .eq => true
      | _ => false) = true ↔ ∃ r, x.Ranks v r ∧ r ≠ .lt := by
  simp only [← Datum.compare?_ofScalar_iff]
  cases x.compare? (.ofScalar v) with
  | none => simp
  | some r => cases r <;> simp

theorem isBelow_iff {x : Datum} {v : Scalar} :
    (match x.compare? (.ofScalar v) with
      | some .lt | some .eq => true
      | _ => false) = true ↔ ∃ r, x.Ranks v r ∧ r ≠ .gt := by
  simp only [← Datum.compare?_ofScalar_iff]
  cases x.compare? (.ofScalar v) with
  | none => simp
  | some r => cases r <;> simp

/-- **What a predicate asks of a value can be decided.** -/
theorem holds_iff {o : Options} {p : Predicate} {x : Datum} :
    p.holds (Pattern.occurs o) x = true ↔ p.Asks o x := by
  cases p with
  | equals v =>
    simp only [holds, Asks, beq_iff_eq, Datum.compare?_ofScalar_iff]
  | oneOf vs =>
    simp only [holds, Asks, List.any_eq_true, beq_iff_eq, Datum.compare?_ofScalar_iff]
  | like pattern =>
    cases x <;> simp [holds, Asks, Pattern.occurs_iff]
  | between low high =>
    rw [holds, Bool.and_eq_true]
    exact and_congr isAbove_iff isBelow_iff

end Predicate

/-! ## §4. Filters. -/

section Filters

variable [Engine]

/-- All patterns of a query are ones that the engine takes. -/
def Query.Compiles (q : Query) : Prop :=
  ∀ c ∈ q.conditions.toList, ∀ pattern, c.2 = .like pattern →
    (compile anyCase pattern).isOk = true

/-- What goes wrong with a predicate: the engine refuses its pattern, in its own
words. -/
inductive Predicate.Refused : Predicate → DocumentError → Prop where
  | pattern {pattern text : String} (h : compile anyCase pattern = .error text) :
      Refused (.like pattern) (.badPattern text)

namespace Document

/-- **A filter is as good as its parts**: if each of them says what its
condition asks, the filter says what all of them ask. -/
theorem meets_map {d : Document} {like : String → String → Bool} {asks : Predicate → Datum}
    {cs : List Condition}
    (h : ∀ c ∈ cs, isAsExpected (d.path? c.1) (asks c.2)
      = .ok ((d.path? c.1).any (c.2.holds like))) :
    d.meets (cs.map fun c => (c.1, asks c.2)) = .ok (cs.all (d.holds like)) := by
  induction cs with
  | nil => rfl
  | cons c cs ih =>
    have hc : isAsExpected (d.path? c.1) (asks c.2) = .ok (d.holds like c) := by
      rw [h c List.mem_cons_self]
      unfold holds
      cases d.path? c.1 <;> rfl
    rw [List.map_cons, meets, hc, List.all_cons]
    -- the evaluator stops at the first part that does not hold
    cases d.holds like c with
    | true => exact ih fun c' hc' => h c' (List.mem_cons_of_mem _ hc')
    | false => rfl

theorem isAsExpected_ofScalar (x : Option Datum) (v : Scalar) :
    isAsExpected x (.ofScalar v) = .ok (x.any fun x => x.compare? (.ofScalar v) == some .eq) := by
  have hplain : isAsExpected x (.ofScalar v) = .ok (x.any (·.equals (.ofScalar v))) := by
    cases v <;> rfl
  rw [hplain]
  simp only [Datum.equals_ofScalar]

theorem isAsExpected_in (x : Option Datum) (vs : List Scalar) :
    isAsExpected x (.document [("$in", .array (vs.map .ofScalar))])
      = .ok (x.any fun x => vs.any fun v => x.compare? (.ofScalar v) == some .eq) := by
  have hops : isOperators [("$in", .array (vs.map .ofScalar))] = true := by
    simp [isOperators]
  have hin : ∀ y : Datum, (vs.map Datum.ofScalar).any y.equals
      = vs.any fun v => y.compare? (.ofScalar v) == some .eq := by
    intro y
    rw [List.any_map]
    exact congrArg vs.any (funext fun v => Datum.equals_ofScalar y v)
  simp only [isAsExpected, hops, if_true, operatorsHold, operatorHolds, hin]
  cases x.any _ <;> rfl

theorem isAsExpected_between (x : Option Datum) (low high : Scalar)
    (like : String → String → Bool) :
    isAsExpected x (.document [("$gte", .ofScalar low), ("$lte", .ofScalar high)])
      = .ok (x.any ((Predicate.between low high).holds like)) := by
  have hops : isOperators [("$gte", .ofScalar low), ("$lte", .ofScalar high)] = true := by
    simp [isOperators]
  simp only [isAsExpected, hops, if_true, operatorsHold, operatorHolds]
  cases x with
  | none => rfl
  | some x =>
    simp only [Option.bind_some, Option.any_some, Predicate.holds]
    -- the second operator is looked at only if the first holds
    cases x.compare? (.ofScalar low) with
    | none => rfl
    | some o =>
      cases o <;> cases x.compare? (.ofScalar high) with
      | none => rfl
      | some o => cases o <;> rfl

/-- A value matches a pattern if the pattern occurs in it, and nothing is told
of a pattern that the engine refuses. -/
theorem operatorHolds_regex (o : Options) (x : Option Datum) (pattern : String) :
    operatorHolds o x "$regex" (.string pattern)
      = ((compile o pattern).mapError .badPattern).map fun _ =>
          x.any ((Predicate.like pattern).holds (occurs o)) := by
  simp only [operatorHolds]
  cases hp : compile o pattern with
  | error text => rfl
  | ok p =>
    have hfound : ∀ s, occurs o pattern s = p.occursIn s := by
      intro s
      rw [occurs, (compile_ok_iff.mp hp).1]
      rfl
    cases x with
    | none => rfl
    | some x => cases x <;> simp [Predicate.holds, Datum.string?, hfound]

theorem isAsExpected_regex (x : Option Datum) (pattern : String) :
    isAsExpected x (FindRequest.predicateDatum (.like pattern))
      = ((compile anyCase pattern).mapError .badPattern).map fun _ =>
          x.any ((Predicate.like pattern).holds (occurs anyCase)) := by
  have hops : isOperators [("$regex", .string pattern), ("$options", .string "i")] = true := by
    simp [isOperators]
  have hoptions : patternOptions [("$regex", .string pattern), ("$options", .string "i")]
      = anyCase := by
    simp [patternOptions, Assoc.find?, anyCase]
  simp only [isAsExpected, FindRequest.predicateDatum, FindRequest.likeOptions, hops, if_true,
    hoptions, operatorsHold, operatorHolds_regex]
  cases compile anyCase pattern with
  | error text => rfl
  | ok p =>
    -- the options beside the pattern are looked at only if it occurs
    cases x.any ((Predicate.like pattern).holds (occurs anyCase)) <;> rfl

/-- The part of a condition tells whether the condition holds, or that the
engine refuses its pattern. -/
theorem isAsExpected_or_refused (p : Predicate) (x : Option Datum) :
    isAsExpected x (FindRequest.predicateDatum p) = .ok (x.any (p.holds (occurs anyCase)))
      ∨ ∃ e, p.Refused e ∧ isAsExpected x (FindRequest.predicateDatum p) = .error e := by
  cases p with
  | equals v => exact .inl (isAsExpected_ofScalar x v)
  | oneOf vs => exact .inl (isAsExpected_in x vs)
  | between low high => exact .inl (isAsExpected_between x low high (occurs anyCase))
  | like pattern =>
    rw [isAsExpected_regex]
    cases hp : compile anyCase pattern with
    | error text => exact .inr ⟨_, .pattern hp, rfl⟩
    | ok node => exact .inl rfl

/-- **The part of a condition says what the condition asks**, if the engine
takes its pattern. -/
theorem isAsExpected_predicateDatum {p : Predicate}
    (hp : ∀ pattern, p = .like pattern → (compile anyCase pattern).isOk = true)
    (x : Option Datum) :
    isAsExpected x (FindRequest.predicateDatum p) = .ok (x.any (p.holds (occurs anyCase))) := by
  rcases isAsExpected_or_refused p x with hok | ⟨e, hrefused, -⟩
  · exact hok
  · cases hrefused with
    | pattern hbad =>
      have htaken := hp _ rfl
      rw [hbad] at htaken
      cases htaken

/-- Nothing goes wrong with the part of a condition but that the engine refuses
its pattern. -/
theorem refused_of_isAsExpected {p : Predicate} {x : Option Datum} {e : DocumentError}
    (h : isAsExpected x (FindRequest.predicateDatum p) = .error e) : p.Refused e := by
  rcases isAsExpected_or_refused p x with hok | ⟨e', hrefused, herror⟩
  · rw [hok] at h
    cases h
  · rw [herror] at h
    exact Except.error.inj h ▸ hrefused

/-- What is told of the part of a condition is whether the condition holds. -/
theorem eq_of_isAsExpected {p : Predicate} {x : Option Datum} {b : Bool}
    (h : isAsExpected x (FindRequest.predicateDatum p) = .ok b) :
    b = x.any (p.holds (occurs anyCase)) := by
  rcases isAsExpected_or_refused p x with hok | ⟨e, -, herror⟩
  · rw [hok] at h
    exact (Except.ok.inj h).symm
  · rw [herror] at h
    cases h

/-- What goes wrong with a filter goes wrong with one of its parts. -/
theorem exists_of_meets_error {d filter : Document} {e : DocumentError}
    (h : d.meets filter = .error e) :
    ∃ f ∈ filter, isAsExpected (d.path? f.1) f.2 = .error e := by
  induction filter with
  | nil => cases h
  | cons f filter ih =>
    rw [meets] at h
    split at h
    · obtain ⟨f', hf', he⟩ := ih h
      exact ⟨f', List.mem_cons_of_mem _ hf', he⟩
    · exact ⟨f, List.mem_cons_self, h⟩

omit [Engine] in
/-- The parts of a filter are those of the conditions, one by one. -/
theorem filterDocument_eq (cs : ConditionSet) :
    FindRequest.filterDocument cs
      = cs.toList.map fun c => (c.1, FindRequest.predicateDatum c.2) := by
  apply Assoc.ofList_of_nodup
  have hkeys : Assoc.keys (cs.toList.map fun c => (c.1, FindRequest.predicateDatum c.2))
      = Assoc.keys cs.toList := List.map_map
  rw [hkeys]
  exact cs.nodup

omit [Engine] in
theorem holdsAll_iff {d : Document} {o : Options} {cs : ConditionSet} :
    d.holdsAll (occurs o) cs = true
      ↔ ∀ c ∈ cs.toList, ∃ x, d.Leads c.1.toList x ∧ c.2.Asks o x := by
  simp only [holdsAll, List.all_eq_true, ← path?_eq_some_iff, ← Predicate.holds_iff]
  -- a path that leads nowhere fails on both sides
  refine forall₂_congr fun c _ => ?_
  unfold holds
  cases d.path? c.1 <;> simp

/-- **What a filter tells of a document**, if it tells anything, is whether all
conditions hold. -/
theorem holdsAll_of_meets {d : Document} {cs : ConditionSet} {b : Bool}
    (h : d.meets (FindRequest.filterDocument cs) = .ok b) :
    d.holdsAll (occurs anyCase) cs = b := by
  rw [filterDocument_eq] at h
  unfold holdsAll
  generalize cs.toList = cs at h ⊢
  induction cs with
  | nil => exact Except.ok.inj h
  | cons c cs ih =>
    have hc : (d.path? c.1).any (c.2.holds (occurs anyCase)) = d.holds (occurs anyCase) c := by
      unfold holds
      cases d.path? c.1 <;> rfl
    rw [List.map_cons, meets] at h
    rw [List.all_cons, ← hc]
    split at h
    · next hpart => rw [← eq_of_isAsExpected hpart, Bool.true_and, ih h]
    · next hstop =>
      -- the evaluator stops at a part that does not hold
      cases b with
      | true => exact absurd h hstop
      | false => rw [← eq_of_isAsExpected h, Bool.false_and]

/-- Whether all conditions hold is told if the engine takes their patterns. -/
theorem meets_of_compiled {cs : ConditionSet}
    (hcs : ∀ c ∈ cs.toList, ∀ pattern, c.2 = .like pattern →
      (compile anyCase pattern).isOk = true)
    (d : Document) :
    d.meets (FindRequest.filterDocument cs) = .ok (d.holdsAll (occurs anyCase) cs) := by
  rw [filterDocument_eq]
  exact meets_map fun c hc => isAsExpected_predicateDatum (hcs c hc) _

/-- **A filter means what its conditions mean**: put to a document, it tells
whether every field leads to a value that is as asked.  Nothing can go wrong
but that the engine refuses a pattern, and then it is told in what words. -/
theorem meets_filterDocument (d : Document) (cs : ConditionSet) :
    ((∀ c ∈ cs.toList, ∀ pattern, c.2 = .like pattern → (compile anyCase pattern).isOk = true) →
      ∃ b, d.meets (FindRequest.filterDocument cs) = .ok b
        ∧ (b = true ↔ ∀ c ∈ cs.toList, ∃ x, d.Leads c.1.toList x ∧ c.2.Asks anyCase x))
    ∧ ∀ e, d.meets (FindRequest.filterDocument cs) = .error e →
        ∃ c ∈ cs.toList, c.2.Refused e := by
  rw [filterDocument_eq]
  constructor
  · intro hcs
    have hparts : ∀ c ∈ cs.toList, isAsExpected (d.path? c.1) (FindRequest.predicateDatum c.2)
        = .ok ((d.path? c.1).any (c.2.holds (occurs anyCase))) :=
      fun c hc => isAsExpected_predicateDatum (hcs c hc) _
    exact ⟨d.holdsAll (occurs anyCase) cs, meets_map hparts, holdsAll_iff⟩
  · intro e he
    obtain ⟨f, hf, he⟩ := exists_of_meets_error he
    obtain ⟨c, hc, rfl⟩ := List.mem_map.mp hf
    exact ⟨c, hc, refused_of_isAsExpected he⟩

end Document

end Filters

namespace Document

open DataAccess.Sample

/-- A query for records of one city, in which a path leads into a document and
letters match in either case. -/
def cityConditions : ConditionSet :=
  ⟨[("home.zip", .between (.integer 100) (.integer 300)), ("home.city", .like "^new.+k$"),
    ("age", .oneOf [.integer 30, .integer 40])], by decide⟩

/-- A record of that city. -/
def cityDocument : Document :=
  [("age", .int32 40), ("home", .document [("city", .string "New York"), ("zip", .int64 200)])]

/-- The conditions hold of the record, and its filter tells so. -/
theorem meets_filterDocument_city :
    (∀ c ∈ cityConditions.toList, ∀ pattern, c.2 = .like pattern →
        (compile anyCase pattern).isOk = true)
      ∧ cityDocument.meets (FindRequest.filterDocument cityConditions) = .ok true
      ∧ ∀ c ∈ cityConditions.toList, ∃ x, Leads cityDocument c.1.toList x ∧ c.2.Asks anyCase x := by
  have hcs : ∀ c ∈ cityConditions.toList, ∀ pattern, c.2 = .like pattern →
      (compile anyCase pattern).isOk = true := by
    intro c hc pattern hp
    have hlike : c = ("home.city", .like "^new.+k$") := by
      simp only [cityConditions, List.mem_cons, List.not_mem_nil, or_false] at hc
      rcases hc with rfl | rfl | rfl
      · cases hp
      · rfl
      · cases hp
    subst hlike
    cases hp
    decide +kernel
  obtain ⟨b, hb, hiff⟩ := (meets_filterDocument cityDocument cityConditions).1 hcs
  have hrun : (cityDocument.meets (FindRequest.filterDocument cityConditions)).toOption
      = some true := by
    decide +kernel
  rw [hb] at hrun
  cases hrun
  exact ⟨hcs, hb, hiff.mp rfl⟩

end Document

end DataAccess
