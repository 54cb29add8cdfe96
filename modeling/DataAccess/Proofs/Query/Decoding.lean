/-
  DataAccess.Proofs.Query.Decoding — queries are decoded exactly.

  A JSON value that has the shape of a query still names operators by texts
  and gives operands of any kind.  What each condition asks for is said here
  without the order in which it is found out, and so is why it is refused; the
  first condition that is refused is the complaint about the whole query.  A
  query that is not refused is the one that is built call by call: select,
  sort, limit, offset, and then one filter for each condition in order.

  Main statements:
    * `scalarOf?_eq_some_iff`            — which values are operands, and of what;
    * `predicate_ok_iff`                 — what a condition asks for;
    * `predicate_error_iff`              — why a condition is refused;
    * `Query.ofJson_object_exactly`      — queries that are given as objects.
-/
import DataAccess.Proofs.Query.Grammar
import DataAccess.Sample.Engines

namespace DataAccess

/-! ## §1. Operands. -/

/-- The operand that a JSON value stands for. -/
inductive Operand : Json → Scalar → Prop where
  | boolean (b : Bool) : Operand (.boolean b) (.boolean b)
  | text (s : String) : Operand (.string s) (.text s)
  | integer (n : Int64) : Operand (.number (.integer n.toInt)) (.integer n)
  /-- An integer that only fits without a sign is rounded to a double. -/
  | large (n : UInt64) (h : Int64.maxValue.toInt < n.toNat) :
      Operand (.number (.integer n.toNat)) (.float n.toFloat)
  | float (x : Float) : Operand (.number (.float x)) (.float x)

/-- A value that is no operand: null, an array or an object. -/
def NoOperand (j : Json) : Prop := ∀ v, ¬ Operand j v

/-- Exactly the operands are read. -/
theorem scalarOf?_eq_some_iff {j : Json} (hj : j.WellFormed) {v : Scalar} :
    scalarOf? j = some v ↔ Operand j v := by
  constructor
  · intro h
    cases hj with
    | boolean b => cases h; exact .boolean b
    | string s => cases h; exact .text s
    | @number n hn =>
      cases h
      cases n with
      | float x => exact .float x
      | integer n =>
        obtain ⟨hlow, hsize⟩ := hn
        -- beyond the largest integer with a sign there are only those without one
        by_cases hhigh : n ≤ Int64.maxValue.toInt
        · have hscalar : Number.scalar (.integer n) = .integer (Int64.ofInt n) := if_pos ⟨hlow, hhigh⟩
          have hoperand := Operand.integer (Int64.ofInt n)
          rw [toInt_ofInt_of_range hlow hhigh] at hoperand
          rwa [hscalar]
        · have hscalar : Number.scalar (.integer n) = .float (UInt64.ofNat n.toNat).toFloat :=
            if_neg fun h => hhigh h.2
          have hmax : 0 ≤ Int64.maxValue.toInt := by decide
          have hnat : ((UInt64.ofNat n.toNat).toNat : Int) = n := by
            rw [UInt64.toNat_ofNat_of_lt' (by omega)]
            omega
          have hoperand := Operand.large (UInt64.ofNat n.toNat) (by omega)
          rw [hnat] at hoperand
          rwa [hscalar]
    | null => cases h
    | array => cases h
    | object => cases h
  · intro h
    cases h with
    | boolean b => rfl
    | text s => rfl
    | integer n =>
      have hscalar : Number.scalar (.integer n.toInt) = .integer (Int64.ofInt n.toInt) :=
        if_pos ⟨n.minValue_le_toInt, n.toInt_le⟩
      show some (Number.scalar (.integer n.toInt)) = _
      rw [hscalar, Int64.ofInt_toInt]
    | large n h =>
      have hscalar : Number.scalar (.integer n.toNat)
          = .float (UInt64.ofNat (n.toNat : Int).toNat).toFloat := if_neg (by omega)
      show some (Number.scalar (.integer n.toNat)) = _
      rw [hscalar, Int.toNat_natCast, UInt64.ofNat_toNat]
    | float x => rfl

section Reading

variable {field : String} {j : Json} (hj : j.WellFormed)

include hj

theorem operand_ok_iff {v : Scalar} : operand field j = .ok v ↔ Operand j v := by
  rw [← scalarOf?_eq_some_iff hj]
  unfold operand
  cases scalarOf? j <;> simp

theorem operand_error_iff {e : DecodeError} :
    operand field j = .error e ↔ NoOperand j ∧ e = .unsupportedValue field j := by
  unfold NoOperand
  simp only [← scalarOf?_eq_some_iff hj]
  unfold operand
  cases scalarOf? j <;> simp [eq_comm]

end Reading

/-- The first item of a list that is no operand. -/
def FirstNoOperand (items : List Json) (j : Json) : Prop :=
  ∃ before after, items = before ++ j :: after ∧ (∀ b ∈ before, ∃ v, Operand b v) ∧ NoOperand j

section Readings

variable (field : String) {items : List Json} (h : ∀ j ∈ items, j.WellFormed)

include h

theorem operands_ok_iff {vs : List Scalar} :
    items.mapM (operand field) = .ok vs ↔ List.Forall₂ Operand items vs := by
  rw [mapM_ok_iff]
  exact forall₂_congr_of_mem fun j hj v => operand_ok_iff (h j hj)

theorem operands_error_iff {e : DecodeError} :
    items.mapM (operand field) = .error e
      ↔ ∃ j, FirstNoOperand items j ∧ e = .unsupportedValue field j := by
  rw [mapM_error_iff]
  constructor
  · intro ⟨before, j, after, hitems, hbefore, he⟩
    subst hitems
    obtain ⟨hj, rfl⟩ := (operand_error_iff (h j (by simp))).mp he
    refine ⟨j, ⟨before, after, rfl, fun b hb => ?_, hj⟩, rfl⟩
    obtain ⟨v, hv⟩ := hbefore b hb
    exact ⟨v, (operand_ok_iff (h b (by simp [hb]))).mp hv⟩
  · intro ⟨j, ⟨before, after, hitems, hbefore, hj⟩, he⟩
    subst hitems he
    refine ⟨before, j, after, rfl, fun b hb => ?_,
      (operand_error_iff (h j (by simp))).mpr ⟨hj, rfl⟩⟩
    obtain ⟨v, hv⟩ := hbefore b hb
    exact ⟨v, (operand_ok_iff (h b (by simp [hb]))).mpr hv⟩

end Readings

/-! ## §2. Conditions. -/

namespace RawCondition

/-- What a condition asks for.  Operators are named in any case. -/
inductive Asks (c : RawCondition) : Predicate → Prop where
  | equals {v : Scalar} (op : Text.lowercase c.op = "eq") (value : Operand c.value v) :
      Asks c (.equals v)
  | oneOf {items : List Json} {vs : List Scalar} (op : Text.lowercase c.op = "in")
      (value : c.value = .array items) (operands : List.Forall₂ Operand items vs) :
      Asks c (.oneOf vs)
  | like {pattern : String} (op : Text.lowercase c.op = "like")
      (value : c.value = .string pattern) :
      Asks c (.like pattern)
  | between {a b : Json} {v w : Scalar} (op : Text.lowercase c.op = "between")
      (value : c.value = .array [a, b]) (low : Operand a v) (high : Operand b w) :
      Asks c (.between v w)

/-- Why a condition is refused: its operator is unknown, its value has not the
shape that the operator expects, or the first part of its value that should be
an operand is none. -/
inductive Refuses (c : RawCondition) : DecodeError → Prop where
  | unknown (op : Text.lowercase c.op ∉ ["eq", "in", "like", "between"]) :
      Refuses c (.unknownOperator c.op)
  | equalsOperand (op : Text.lowercase c.op = "eq") (value : NoOperand c.value) :
      Refuses c (.unsupportedValue c.field c.value)
  | inShape (op : Text.lowercase c.op = "in") (value : ∀ items, c.value ≠ .array items) :
      Refuses c (.wrongOperand c.field "in" "an array")
  | inOperand {items : List Json} {j : Json} (op : Text.lowercase c.op = "in")
      (value : c.value = .array items) (first : FirstNoOperand items j) :
      Refuses c (.unsupportedValue c.field j)
  | likeShape (op : Text.lowercase c.op = "like") (value : ∀ pattern, c.value ≠ .string pattern) :
      Refuses c (.wrongOperand c.field "like" "a string pattern")
  | betweenShape (op : Text.lowercase c.op = "between") (value : ∀ a b, c.value ≠ .array [a, b]) :
      Refuses c (.wrongOperand c.field "between" "a [low, high] pair")
  | betweenLow {a b : Json} (op : Text.lowercase c.op = "between") (value : c.value = .array [a, b])
      (low : NoOperand a) : Refuses c (.unsupportedValue c.field a)
  | betweenHigh {a b : Json} {v : Scalar} (op : Text.lowercase c.op = "between")
      (value : c.value = .array [a, b]) (low : Operand a v) (high : NoOperand b) :
      Refuses c (.unsupportedValue c.field b)

variable {c : RawCondition}

theorem predicate_of_eq (op : Text.lowercase c.op = "eq") :
    c.predicate = Predicate.equals <$> operand c.field c.value := if_pos op

theorem predicate_of_in (op : Text.lowercase c.op = "in") :
    c.predicate = match c.value with
      | .array items => Predicate.oneOf <$> items.mapM (operand c.field)
      | _ => .error (.wrongOperand c.field "in" "an array") := by
  have heq : ¬ Text.lowercase c.op = "eq" := by rw [op]; decide
  exact (if_neg heq).trans (if_pos op)

theorem predicate_of_like (op : Text.lowercase c.op = "like") :
    c.predicate = match c.value with
      | .string pattern => .ok (.like pattern)
      | _ => .error (.wrongOperand c.field "like" "a string pattern") := by
  have heq : ¬ Text.lowercase c.op = "eq" := by rw [op]; decide
  have hin : ¬ Text.lowercase c.op = "in" := by rw [op]; decide
  exact (if_neg heq).trans ((if_neg hin).trans (if_pos op))

theorem predicate_of_between (op : Text.lowercase c.op = "between") :
    c.predicate = match c.value with
      | .array [a, b] => do
          let low ← operand c.field a
          let high ← operand c.field b
          return .between low high
      | _ => .error (.wrongOperand c.field "between" "a [low, high] pair") := by
  have heq : ¬ Text.lowercase c.op = "eq" := by rw [op]; decide
  have hin : ¬ Text.lowercase c.op = "in" := by rw [op]; decide
  have hlike : ¬ Text.lowercase c.op = "like" := by rw [op]; decide
  exact (if_neg heq).trans ((if_neg hin).trans ((if_neg hlike).trans (if_pos op)))

theorem predicate_of_unknown (op : Text.lowercase c.op ∉ ["eq", "in", "like", "between"]) :
    c.predicate = .error (.unknownOperator c.op) := by
  simp only [List.mem_cons, List.not_mem_nil, or_false, not_or] at op
  obtain ⟨heq, hin, hlike, hbetween⟩ := op
  exact (if_neg heq).trans ((if_neg hin).trans ((if_neg hlike).trans (if_neg hbetween)))

/-- A condition has one of the four operators, or one that is unknown. -/
theorem op_cases (c : RawCondition) :
    Text.lowercase c.op = "eq" ∨ Text.lowercase c.op = "in" ∨ Text.lowercase c.op = "like"
      ∨ Text.lowercase c.op = "between"
      ∨ Text.lowercase c.op ∉ ["eq", "in", "like", "between"] := by
  by_cases heq : Text.lowercase c.op = "eq"
  · exact .inl heq
  by_cases hin : Text.lowercase c.op = "in"
  · exact .inr (.inl hin)
  by_cases hlike : Text.lowercase c.op = "like"
  · exact .inr (.inr (.inl hlike))
  by_cases hbetween : Text.lowercase c.op = "between"
  · exact .inr (.inr (.inr (.inl hbetween)))
  · simp [heq, hin, hlike, hbetween]

variable (hc : c.value.WellFormed)

include hc

theorem wellFormed_items {items : List Json} (h : c.value = .array items) :
    ∀ j ∈ items, j.WellFormed := by
  rw [h] at hc
  cases hc with
  | array heach => exact heach

theorem asks_of_predicate {p : Predicate} (h : c.predicate = .ok p) : c.Asks p := by
  -- the operator decides which values are looked at at all
  rcases c.op_cases with op | op | op | op | op
  · rw [predicate_of_eq op, map_ok_iff] at h
    obtain ⟨v, hv, rfl⟩ := h
    exact .equals op ((operand_ok_iff hc).mp hv)
  · rw [predicate_of_in op] at h
    split at h
    · next items hvalue =>
      obtain ⟨vs, hvs, rfl⟩ := map_ok_iff.mp h
      exact .oneOf op hvalue ((operands_ok_iff _ (wellFormed_items hc hvalue)).mp hvs)
    · cases h
  · rw [predicate_of_like op] at h
    split at h
    · next pattern hvalue =>
      cases h
      exact .like op hvalue
    · cases h
  · rw [predicate_of_between op] at h
    split at h
    · next a b hvalue =>
      have hitems := wellFormed_items hc hvalue
      obtain ⟨v, hv, h⟩ := bind_ok_iff.mp h
      obtain ⟨w, hw, h⟩ := bind_ok_iff.mp h
      cases h
      exact .between op hvalue ((operand_ok_iff (hitems a (by simp))).mp hv)
        ((operand_ok_iff (hitems b (by simp))).mp hw)
    · cases h
  · rw [predicate_of_unknown op] at h
    cases h

theorem refuses_of_predicate {e : DecodeError} (h : c.predicate = .error e) : c.Refuses e := by
  -- each operator looks at the shape of its value first, and then at the operands
  rcases c.op_cases with op | op | op | op | op
  · rw [predicate_of_eq op, map_error_iff, operand_error_iff hc] at h
    obtain ⟨hvalue, rfl⟩ := h
    exact .equalsOperand op hvalue
  · rw [predicate_of_in op] at h
    split at h
    · next items hvalue =>
      obtain ⟨j, hfirst, rfl⟩ := (operands_error_iff _ (wellFormed_items hc hvalue)).mp
        (map_error_iff.mp h)
      exact .inOperand op hvalue hfirst
    · next hother =>
      cases h
      exact .inShape op hother
  · rw [predicate_of_like op] at h
    split at h
    · cases h
    · next hother =>
      cases h
      exact .likeShape op hother
  · rw [predicate_of_between op] at h
    split at h
    · next a b hvalue =>
      have hitems := wellFormed_items hc hvalue
      -- the high operand is looked at only if the low one is fine
      rcases bind_error_iff.mp h with h | ⟨v, hv, h⟩
      · obtain ⟨hlow, rfl⟩ := (operand_error_iff (hitems a (by simp))).mp h
        exact .betweenLow op hvalue hlow
      rcases bind_error_iff.mp h with h | ⟨w, hw, h⟩
      · obtain ⟨hhigh, rfl⟩ := (operand_error_iff (hitems b (by simp))).mp h
        exact .betweenHigh op hvalue ((operand_ok_iff (hitems a (by simp))).mp hv) hhigh
      · cases h
    · next hother =>
      cases h
      exact .betweenShape op hother
  · rw [predicate_of_unknown op] at h
    cases h
    exact .unknown op

theorem predicate_of_asks {p : Predicate} (h : c.Asks p) : c.predicate = .ok p := by
  cases h with
  | equals op value =>
    rw [predicate_of_eq op, (operand_ok_iff hc).mpr value]
    rfl
  | oneOf op value operands =>
    have hitems := (operands_ok_iff c.field (wellFormed_items hc value)).mpr operands
    rw [predicate_of_in op, value]
    simp only [hitems]
    rfl
  | like op value => rw [predicate_of_like op, value]
  | between op value low high =>
    have hitems := wellFormed_items hc value
    rw [predicate_of_between op, value]
    simp only [(operand_ok_iff (hitems _ (by simp))).mpr low,
      (operand_ok_iff (hitems _ (by simp))).mpr high]
    rfl

theorem predicate_of_refuses {e : DecodeError} (h : c.Refuses e) : c.predicate = .error e := by
  cases h with
  | unknown op => exact predicate_of_unknown op
  | equalsOperand op value =>
    rw [predicate_of_eq op, (operand_error_iff hc).mpr ⟨value, rfl⟩]
    rfl
  | inShape op value =>
    rw [predicate_of_in op]
    split
    · next items hvalue => exact absurd hvalue (value items)
    · rfl
  | inOperand op value first =>
    have hitems := (operands_error_iff c.field (wellFormed_items hc value)).mpr
      ⟨_, first, rfl⟩
    rw [predicate_of_in op, value]
    simp only [hitems]
    rfl
  | likeShape op value =>
    rw [predicate_of_like op]
    split
    · next pattern hvalue => exact absurd hvalue (value pattern)
    · rfl
  | betweenShape op value =>
    rw [predicate_of_between op]
    split
    · next a b hvalue => exact absurd hvalue (value a b)
    · rfl
  | betweenLow op value low =>
    have hitems := wellFormed_items hc value
    rw [predicate_of_between op, value]
    simp only [(operand_error_iff (hitems _ (by simp))).mpr ⟨low, rfl⟩]
    rfl
  | betweenHigh op value low high =>
    have hitems := wellFormed_items hc value
    rw [predicate_of_between op, value]
    simp only [(operand_ok_iff (hitems _ (by simp))).mpr low,
      (operand_error_iff (hitems _ (by simp))).mpr ⟨high, rfl⟩]
    rfl

/-- **What a condition asks for.** -/
theorem predicate_ok_iff {p : Predicate} : c.predicate = .ok p ↔ c.Asks p :=
  ⟨asks_of_predicate hc, predicate_of_asks hc⟩

/-- **Why a condition is refused.** -/
theorem predicate_error_iff {e : DecodeError} : c.predicate = .error e ↔ c.Refuses e :=
  ⟨refuses_of_predicate hc, predicate_of_refuses hc⟩

end RawCondition

/-! ## §3. Queries. -/

/-- A condition with what it asks for, under the field that it names. -/
def RawCondition.AsksAs (c : RawCondition) (asked : Condition) : Prop :=
  asked.1 = c.field ∧ c.Asks asked.2

/-- The first condition that is refused, with the reason. -/
def FirstRefusal (cs : List RawCondition) (e : DecodeError) : Prop :=
  ∃ before c after, cs = before ++ c :: after ∧ (∀ b ∈ before, ∃ p, b.Asks p) ∧ c.Refuses e

/-- The query that is built call by call from what a raw query gives: select,
sort, limit and offset, and then one filter for each condition in order. -/
def RawQuery.build (raw : RawQuery) (asked : List Condition) : Query :=
  asked.foldl (fun q c => q.filter c.1 c.2)
    ((((Query.empty.select raw.select).sortBy raw.sort).withLimit raw.limit).withOffset raw.offset)

namespace Query

/-- A condition as it is read to be added. -/
def readCondition (c : RawCondition) : Except DecodeError Condition := (c.field, ·) <$> c.predicate

/-- Conditions are read first and added then, which comes to the same. -/
theorem addConditions_eq (q : Query) (cs : List RawCondition) :
    q.addConditions cs
      = (fun asked => asked.foldl (fun q c => q.filter c.1 c.2) q) <$> cs.mapM readCondition := by
  -- the query varies: it has the conditions before these already
  induction cs generalizing q with
  | nil => rfl
  | cons c cs ih =>
    have hread : readCondition c = (c.field, ·) <$> c.predicate := rfl
    rw [List.mapM_cons, hread]
    unfold addConditions
    cases c.predicate with
    | error e => rfl
    | ok p =>
      show (q.filter c.field p).addConditions cs = _
      rw [ih]
      cases cs.mapM readCondition <;> rfl

theorem readCondition_ok_iff {c : RawCondition} (hc : c.value.WellFormed) {asked : Condition} :
    readCondition c = .ok asked ↔ c.AsksAs asked := by
  unfold readCondition RawCondition.AsksAs
  rw [map_ok_iff]
  simp only [RawCondition.predicate_ok_iff hc]
  constructor
  · intro ⟨p, hp, hasked⟩
    subst hasked
    exact ⟨rfl, hp⟩
  · intro ⟨hfield, hp⟩
    exact ⟨asked.2, hp, by rw [← hfield]⟩

theorem readCondition_error_iff {c : RawCondition} (hc : c.value.WellFormed) {e : DecodeError} :
    readCondition c = .error e ↔ c.Refuses e := by
  unfold readCondition
  rw [map_error_iff, RawCondition.predicate_error_iff hc]

variable {raw : RawQuery} (h : ∀ c ∈ raw.conditions, c.value.WellFormed)

include h

theorem ofRaw_ok_iff {q : Query} :
    ofRaw raw = .ok q
      ↔ ∃ asked, List.Forall₂ RawCondition.AsksAs raw.conditions asked ∧ q = raw.build asked := by
  unfold ofRaw
  rw [addConditions_eq, map_ok_iff]
  refine exists_congr fun asked => and_congr ?_ eq_comm
  rw [mapM_ok_iff]
  exact forall₂_congr_of_mem fun c hc a => readCondition_ok_iff (h c hc)

theorem ofRaw_error_iff {e : DecodeError} :
    ofRaw raw = .error e ↔ FirstRefusal raw.conditions e := by
  unfold ofRaw FirstRefusal
  rw [addConditions_eq, map_error_iff, mapM_error_iff]
  refine exists_congr fun before => exists_congr fun c => exists_congr fun after =>
    and_congr_right fun hcs => ?_
  -- that a condition can be read and that it asks for something is the same
  have hbefore : ∀ b ∈ before, ((∃ a, readCondition b = .ok a) ↔ ∃ p, b.Asks p) := by
    intro b hb
    have hvalue := h b (by simp [hcs, hb])
    constructor
    · intro ⟨a, ha⟩
      exact ⟨a.2, ((readCondition_ok_iff hvalue).mp ha).2⟩
    · intro ⟨p, hp⟩
      exact ⟨(b.field, p), (readCondition_ok_iff hvalue).mpr ⟨rfl, hp⟩⟩
  exact and_congr (forall₂_congr hbefore) (readCondition_error_iff (h c (by simp [hcs])))

end Query

/-! ## §4. Values that give a query. -/

theorem RawCondition.wellFormed_value {j : Json} (hj : j.WellFormed) {c : RawCondition}
    (h : IsGiven j c) : c.value.WellFormed := by
  obtain ⟨ms, hgives, hmembers⟩ := h
  exact hgives.wellFormed hj hmembers.value

theorem RawQuery.wellFormed_values {j : Json} (hj : j.WellFormed) {ms : Assoc String Json}
    (hgives : j.Gives names 0 ms) {raw : RawQuery} (h : Members RawCondition.IsGiven ms raw) :
    ∀ c ∈ raw.conditions, c.value.WellFormed := by
  have hconditions := h.conditions
  cases hwhere : Assoc.find? ms "where" with
  | none =>
    rw [hwhere] at hconditions
    rw [show raw.conditions = [] from hconditions]
    exact nofun
  | some a =>
    rw [hwhere] at hconditions
    obtain ⟨items, rfl, hgiven⟩ := hconditions
    have heach : ∀ i ∈ items, i.WellFormed := by
      cases hgives.wellFormed hj hwhere with
      | array heach => exact heach
    -- from here on only the two lists matter, which are walked together
    generalize raw.conditions = cs at hgiven ⊢
    clear hwhere
    induction hgiven with
    | nil => exact nofun
    | cons hc _ ih =>
      rw [List.forall_mem_cons] at heach ⊢
      exact ⟨RawCondition.wellFormed_value heach.1 hc, ih heach.2⟩

namespace Query

variable {j : Json} (hj : j.WellFormed)

include hj

/-- Which values give which query. -/
theorem ofJson_ok_iff_given {q : Query} :
    ofJson j = .ok q
      ↔ ∃ ms raw asked, j.Gives RawQuery.names 0 ms ∧ RawQuery.Members RawCondition.IsGiven ms raw
        ∧ List.Forall₂ RawCondition.AsksAs raw.conditions asked ∧ q = raw.build asked := by
  rw [ofJson_ok_iff]
  simp only [RawQuery.read_ok_iff hj]
  constructor
  · intro ⟨raw, ⟨ms, hgives, hmembers⟩, hq⟩
    have hwell := RawQuery.wellFormed_values hj hgives hmembers
    obtain ⟨asked, hasked, hq⟩ := (ofRaw_ok_iff hwell).mp hq
    exact ⟨ms, raw, asked, hgives, hmembers, hasked, hq⟩
  · intro ⟨ms, raw, asked, hgives, hmembers, hasked, hq⟩
    exact ⟨raw, ⟨ms, hgives, hmembers⟩,
      (ofRaw_ok_iff (RawQuery.wellFormed_values hj hgives hmembers)).mpr ⟨asked, hasked, hq⟩⟩

/-- A value of the right shape is refused for its first condition that is. -/
theorem ofJson_error_iff_given {ms : Assoc String Json} (hgives : j.Gives RawQuery.names 0 ms)
    {raw : RawQuery} (hmembers : RawQuery.Members RawCondition.IsGiven ms raw) {e : DecodeError} :
    ofJson j = .error e ↔ FirstRefusal raw.conditions e := by
  have hread := (RawQuery.read_ok_iff hj).mpr ⟨ms, hgives, hmembers⟩
  unfold ofJson
  rw [hread]
  exact ofRaw_error_iff (RawQuery.wellFormed_values hj hgives hmembers)

/-- A value of another shape is refused for its shape. -/
theorem ofJson_of_not_given
    (h : ¬ ∃ ms raw, j.Gives RawQuery.names 0 ms ∧ RawQuery.Members RawCondition.IsGiven ms raw) :
    ∃ e, ofJson j = .error (.json (.shape e)) := by
  unfold ofJson
  cases hread : RawQuery.read j with
  | error e => exact ⟨e, rfl⟩
  | ok raw =>
    obtain ⟨ms, hgives, hmembers⟩ := (RawQuery.read_ok_iff hj).mp hread
    exact absurd ⟨ms, raw, hgives, hmembers⟩ h

end Query

/-! ## §5. Queries that are given as objects. -/

/-- The members of an object are its own. -/
theorem Json.gives_object_iff {names : List String} {least : Nat} {ms members : Assoc String Json} :
    (Json.object ms).Gives names least members ↔ members = ms := by
  constructor
  · intro h
    cases h
    rfl
  · intro h
    subst h
    exact .byName members

/-- Where only objects are given for conditions, they are given as objects. -/
theorem RawQuery.members_isObject_iff {ms : Assoc String Json} {raw : RawQuery}
    (hwhere : ∀ items, Assoc.find? ms "where" = some (.array items) →
      ∀ j ∈ items, ∃ cs, j = .object cs) :
    Members RawCondition.IsObject ms raw ↔ Members RawCondition.IsGiven ms raw := by
  -- the conditions are the only member that the two ways tell apart
  have hconditions : Optional [] (Json.IsConditions RawCondition.IsObject)
        (Assoc.find? ms "where") raw.conditions
      ↔ Optional [] (Json.IsConditions RawCondition.IsGiven)
        (Assoc.find? ms "where") raw.conditions := by
    cases hfind : Assoc.find? ms "where" with
    | none => exact Iff.rfl
    | some j =>
      refine exists_congr fun items => and_congr_right fun hitems => ?_
      subst hitems
      refine forall₂_congr_of_mem fun a ha c => ?_
      obtain ⟨cs, rfl⟩ := hwhere items hfind a ha
      refine exists_congr fun members => and_congr_left fun _ => ?_
      rw [Json.gives_object_iff, Json.object.injEq]
      exact eq_comm
  exact ⟨fun h => ⟨h.keys, h.select, hconditions.mp h.conditions, h.sort, h.limit, h.offset⟩,
    fun h => ⟨h.keys, h.select, hconditions.mpr h.conditions, h.sort, h.limit, h.offset⟩⟩

/-- **QUERIES ARE DECODED EXACTLY.**  An object, whose conditions are objects if
they are listed at all, gives a query exactly if its members are among the
five, each of the right kind, and every condition asks for something; the query
is the one that is built call by call.  If only a condition is wrong, the first
one that is refused is the complaint, and otherwise it is the shape. -/
theorem Query.ofJson_object_exactly {ms : Assoc String Json} (hms : (Json.object ms).WellFormed)
    (hwhere : ∀ items, Assoc.find? ms "where" = some (.array items) →
      ∀ j ∈ items, ∃ cs, j = .object cs) :
    (∀ q, ofJson (.object ms) = .ok q
      ↔ ∃ raw asked, RawQuery.Members RawCondition.IsObject ms raw
        ∧ List.Forall₂ RawCondition.AsksAs raw.conditions asked ∧ q = raw.build asked)
    ∧ (∀ raw, RawQuery.Members RawCondition.IsObject ms raw →
        ∀ e, ofJson (.object ms) = .error e ↔ FirstRefusal raw.conditions e)
    ∧ ((∀ raw, ¬ RawQuery.Members RawCondition.IsObject ms raw) →
        ∃ e, ofJson (.object ms) = .error (.json (.shape e))) := by
  simp only [RawQuery.members_isObject_iff hwhere]
  refine ⟨fun q => ?_, fun raw hmembers e => ?_, fun h => ?_⟩
  · rw [ofJson_ok_iff_given hms]
    simp only [Json.gives_object_iff]
    constructor
    · intro ⟨members, raw, asked, hgives, hmembers, hasked, hq⟩
      rw [hgives] at hmembers
      exact ⟨raw, asked, hmembers, hasked, hq⟩
    · intro ⟨raw, asked, hmembers, hasked, hq⟩
      exact ⟨ms, raw, asked, rfl, hmembers, hasked, hq⟩
  · exact ofJson_error_iff_given hms (.byName ms) hmembers
  · refine ofJson_of_not_given hms fun ⟨members, raw, hgives, hmembers⟩ => ?_
    rw [Json.gives_object_iff.mp hgives] at hmembers
    exact h raw hmembers

/-- A condition whose operator is written in capitals, with an operand and a null. -/
def offending : Assoc String Json :=
  [("where", .array [.object [("op", .string "IN"), ("field", .string "age"),
    ("value", .array [.number (.integer 18), .null])]])]

/-- Its shape is right, and the null is the complaint. -/
theorem Query.ofJson_object_exactly_offending :
    (Json.object offending).WellFormed
      ∧ ofJson (.object offending) = .error (.unsupportedValue "age" .null) := by
  have hoperands : (Json.array [.number (.integer 18), .null]).WellFormed :=
    .array (List.forall_mem_cons.mpr ⟨.number ⟨by decide, by decide⟩,
      List.forall_mem_singleton.mpr .null⟩)
  have hcondition : (Json.object [("op", .string "IN"), ("field", .string "age"),
      ("value", .array [.number (.integer 18), .null])]).WellFormed :=
    .object (by decide) (List.forall_mem_cons.mpr ⟨.string _, List.forall_mem_cons.mpr
      ⟨.string _, List.forall_mem_singleton.mpr hoperands⟩⟩)
  have hms : (Json.object offending).WellFormed :=
    .object (by decide) (List.forall_mem_singleton.mpr
      (.array (List.forall_mem_singleton.mpr hcondition)))
  have hwhere : ∀ items, Assoc.find? offending "where" = some (.array items) →
      ∀ j ∈ items, ∃ cs, j = .object cs := by
    intro items h
    cases h
    exact List.forall_mem_singleton.mpr ⟨_, rfl⟩
  have hmembers : RawQuery.Members RawCondition.IsObject offending
      ⟨[], [⟨"age", "IN", .array [.number (.integer 18), .null]⟩], [], 0, 0⟩ :=
    ⟨by decide, rfl, ⟨_, rfl, .cons ⟨_, rfl, by decide, rfl, rfl, rfl⟩ .nil⟩, rfl, rfl, rfl⟩
  refine ⟨hms,
    ((ofJson_object_exactly hms hwhere).2.1 _ hmembers _).mpr ⟨[], _, [], rfl, nofun, ?_⟩⟩
  -- the first item is an operand, and the second is none
  have hfirst : FirstNoOperand [.number (.integer 18), .null] .null :=
    ⟨[_], [], rfl, List.forall_mem_singleton.mpr ⟨_, .integer 18⟩, nofun⟩
  exact .inOperand (by decide) rfl hfirst

/-! ## §6. Queries that are given by place. -/

/-- An array that is not too long is read as the object with its items under
the names in their places. -/
theorem Query.ofJson_array {items : List Json} (h : items.length ≤ RawQuery.names.length) :
    ofJson (.array items) = ofJson (.object (RawQuery.names.zip items)) := by
  have hentries : RawQuery.shape.entries (.sequence items)
      = RawQuery.shape.entries (.mapping (RawQuery.names.zip items)) := by
    have hnames : RawQuery.shape.names = RawQuery.names := rfl
    have hmany : ¬ RawQuery.shape.fields.length < items.length := Nat.not_lt.mpr h
    unfold RecordShape.entries
    simp only [hnames, RawQuery.not_any_drop, hmany, decide_false, Bool.and_false,
      Bool.false_eq_true, if_false]
    rfl
  have hread : RawQuery.read (.array items)
      = RawQuery.read (.object (RawQuery.names.zip items)) := by
    unfold RawQuery.read
    simp only [Json.view, hentries]
  unfold ofJson
  rw [hread]

/-- **WHAT IS ACCEPTED AS A QUERY.**  A text gives a query exactly if it is a
JSON value that gives the members of one, by name in an object or by place in
an array of five items at most, each condition being an object with exactly
three members or an array of three items, and every condition asks for
something.  A JSON value that does not give such members is refused for its
shape.  An array means what the object with the same members means, so that no
items at all are a query for everything. -/
theorem Query.parse_by_name_or_place [Json.Complaints] (s : String) :
    (∀ q, parse s = .ok q
      ↔ ∃ j ms raw asked, Json.parse s = .ok j ∧ j.Gives RawQuery.names 0 ms
        ∧ RawQuery.Members RawCondition.IsGiven ms raw
        ∧ List.Forall₂ RawCondition.AsksAs raw.conditions asked ∧ q = raw.build asked)
    ∧ (∀ j, Json.parse s = .ok j →
        (¬ ∃ ms raw, j.Gives RawQuery.names 0 ms ∧ RawQuery.Members RawCondition.IsGiven ms raw) →
        ∃ e, parse s = .error (.json (.shape e)))
    ∧ ∀ items, Json.parse s = .ok (.array items) → items.length ≤ RawQuery.names.length →
        parse s = ofJson (.object (RawQuery.names.zip items)) := by
  have hparse : ∀ j, Json.parse s = .ok j → parse s = ofJson j := by
    intro j hj
    unfold parse
    rw [hj]
  refine ⟨fun q => ⟨fun hq => ?_, ?_⟩, fun j hj hnone => ?_, fun items hitems hlen => ?_⟩
  · cases hj : Json.parse s with
    | error e =>
      unfold parse at hq
      rw [hj] at hq
      cases hq
    | ok j =>
      rw [hparse j hj, ofJson_ok_iff_given (Json.wellFormed_of_parse hj)] at hq
      obtain ⟨ms, raw, asked, hquery⟩ := hq
      exact ⟨j, ms, raw, asked, rfl, hquery⟩
  · intro ⟨j, ms, raw, asked, hj, hquery⟩
    rw [hparse j hj]
    exact (ofJson_ok_iff_given (Json.wellFormed_of_parse hj)).mpr ⟨ms, raw, asked, hquery⟩
  · rw [hparse j hj]
    exact ofJson_of_not_given (Json.wellFormed_of_parse hj) hnone
  · rw [hparse _ hitems]
    exact ofJson_array hlen

open DataAccess.Sample in
/-- The empty array is no object, and is a query for everything. -/
theorem Query.parse_brackets :
    Json.parse "[]" = .ok (.array []) ∧ Query.parse "[]" = .ok .empty := ⟨rfl, rfl⟩

open DataAccess.Sample in
/-- An array of an array and a list of one condition means what the object with
the members select and where means. -/
theorem Query.parse_by_name_or_place_list :
    Json.parse "[[],[[\"age\",\"eq\",18]]]"
        = .ok (.array [.array [],
          .array [.array [.string "age", .string "eq", .number (.integer 18)]]])
      ∧ Query.parse "[[],[[\"age\",\"eq\",18]]]"
        = ofJson (.object [("select", .array []),
          ("where", .array [.array [.string "age", .string "eq", .number (.integer 18)]])]) := by
  have hparse : Json.parse "[[],[[\"age\",\"eq\",18]]]"
      = .ok (.array [.array [],
        .array [.array [.string "age", .string "eq", .number (.integer 18)]]]) := rfl
  exact ⟨hparse, (parse_by_name_or_place _).2.2 _ hparse (by decide)⟩

end DataAccess
