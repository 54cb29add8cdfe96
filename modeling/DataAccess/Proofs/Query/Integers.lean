/-
  DataAccess.Proofs.Query.Integers — integers as operands.

  Two different integers in two conditions, or in two places of one, should be
  two different operands, or a lookup by an id finds a record with another one.
  They are if one of them is a 64-bit integer with a sign, as operands are.  A
  larger integer is no reason to refuse a condition, as it is to refuse a bound
  of the window.  It is taken as a double:

      integers from 2^63 on become the nearest multiples of 2048, and two of
      them are one operand exactly if these are the same.

  Main statements:
    * `forall₂_operands`       — operands are read from what is given in their places;
    * `scalar_of_hasSign`, `scalar_of_hasNoSign` — the operand of an integer;
    * `operands_of_integers`   — when different integers are different operands;
    * `operands_merged`        — two integers that are not.
-/
import DataAccess.Proofs.Query.Decoding
import DataAccess.Proofs.Decimal.Rounding
import DataAccess.Proofs.Json.Literal

namespace DataAccess

/-! ## §1. The operands of a condition. -/

/-- The operands of a condition, in the order in which they are given.  The
pattern of a text is none. -/
def Predicate.operands : Predicate → List Scalar
  | .equals v => [v]
  | .oneOf vs => vs
  | .like _ => []
  | .between low high => [low, high]

theorem operand_eq_ok_iff {field : String} {j : Json} {v : Scalar} :
    operand field j = .ok v ↔ scalarOf? j = some v := by
  unfold operand
  cases scalarOf? j <;> simp

namespace RawCondition

/-- The values that a condition gives for its operands: the whole value if one
is compared with, else the items of a list. -/
def given (c : RawCondition) : List Json :=
  if Text.lowercase c.op = "eq" then [c.value]
  else match c.value with
    | .array items => items
    | _ => []

theorem given_of_eq {c : RawCondition} (op : Text.lowercase c.op = "eq") : c.given = [c.value] :=
  if_pos op

theorem given_of_array {c : RawCondition} {items : List Json} (op : Text.lowercase c.op ≠ "eq")
    (h : c.value = .array items) : c.given = items := by
  rw [given, if_neg op, h]

/-- Each value that is given is read as the operand in its place. -/
theorem forall₂_operands {c : RawCondition} {p : Predicate} (h : c.predicate = .ok p) :
    List.Forall₂ (fun j v => scalarOf? j = some v) c.given p.operands := by
  rcases c.op_cases with op | op | op | op | op
  · rw [predicate_of_eq op, map_ok_iff] at h
    obtain ⟨v, hv, rfl⟩ := h
    rw [given_of_eq op]
    exact .cons (operand_eq_ok_iff.mp hv) .nil
  · have hop : Text.lowercase c.op ≠ "eq" := by rw [op]; decide
    rw [predicate_of_in op] at h
    split at h
    · next items hvalue =>
      obtain ⟨vs, hvs, rfl⟩ := map_ok_iff.mp h
      rw [given_of_array hop hvalue]
      exact (mapM_ok_iff.mp hvs).imp fun j v hv => operand_eq_ok_iff.mp hv
    · cases h
  -- a pattern is no operand: nothing is given and nothing is read
  · have hop : Text.lowercase c.op ≠ "eq" := by rw [op]; decide
    rw [predicate_of_like op] at h
    split at h
    · next pattern hvalue =>
      cases h
      rw [given, if_neg hop, hvalue]
      exact .nil
    · cases h
  · have hop : Text.lowercase c.op ≠ "eq" := by rw [op]; decide
    rw [predicate_of_between op] at h
    split at h
    · next low high hvalue =>
      obtain ⟨v, hv, h⟩ := bind_ok_iff.mp h
      obtain ⟨w, hw, h⟩ := bind_ok_iff.mp h
      cases h
      rw [given_of_array hop hvalue]
      exact .cons (operand_eq_ok_iff.mp hv) (.cons (operand_eq_ok_iff.mp hw) .nil)
    · cases h
  · rw [predicate_of_unknown op] at h
    cases h

/-- The operand in the place of a value that is given. -/
theorem operands_getElem? {c : RawCondition} {p : Predicate} (h : c.predicate = .ok p) {i : Nat}
    {j : Json} (hj : c.given[i]? = some j) :
    ∃ v, p.operands[i]? = some v ∧ scalarOf? j = some v := by
  have hall := forall₂_operands h
  generalize c.given = given at hall hj
  generalize p.operands = operands at hall
  induction hall generalizing i with
  | nil => cases hj
  | cons hhead _ ih =>
    cases i with
    | zero =>
      cases hj
      exact ⟨_, rfl, hhead⟩
    | succ i => exact ih hj

end RawCondition

/-! ## §2. Integers. -/

/-- The integer has 64 bits, one of them for its sign. -/
def HasSign (a : Int) : Prop := Int64.minValue.toInt ≤ a ∧ a ≤ Int64.maxValue.toInt

/-- The integer has 64 bits and needs all of them, with none for a sign. -/
def HasNoSign (a : Int) : Prop := Int64.maxValue.toInt < a ∧ a < UInt64.size

section Reading

variable [Json.Complaints] {a : Int} {x : Json} (hx : Json.parse (toString a) = .ok x) {v : Scalar}
  (hv : scalarOf? x = some v)

include hx hv

theorem scalar_of_hasSign (h : HasSign a) : v = .integer (Int64.ofInt a) := by
  have hmax : Int64.maxValue.toInt = 9223372036854775807 := rfl
  have hsize : UInt64.size = 18446744073709551616 := rfl
  obtain ⟨hlow, hhigh⟩ := h
  rw [Json.parse_toString_of_inRange ⟨hlow, by omega⟩] at hx
  cases hx
  cases hv
  exact if_pos ⟨hlow, hhigh⟩

theorem scalar_of_hasNoSign (h : HasNoSign a) : v = .float (UInt64.ofNat a.toNat).toFloat := by
  have hmin : Int64.minValue.toInt = -9223372036854775808 := rfl
  have hmax : Int64.maxValue.toInt = 9223372036854775807 := rfl
  obtain ⟨hlow, hhigh⟩ := h
  rw [Json.parse_toString_of_inRange ⟨by omega, hhigh⟩] at hx
  cases hx
  cases hv
  exact if_neg fun hsign => absurd hsign.2 (Int.not_le.mpr hlow)

/-- Every other integer is a double. -/
theorem scalar_of_not_hasSign (h : ¬ HasSign a) : ∃ y, v = .float y := by
  by_cases hrange : (Number.integer a).InRange
  · have hlow : Int64.maxValue.toInt < a := Int.not_le.mp fun hle => h ⟨hrange.1, hle⟩
    exact ⟨_, scalar_of_hasNoSign hx hv ⟨hlow, hrange.2⟩⟩
  · obtain ⟨y, rfl⟩ := Json.parse_toString_of_not_inRange hrange hx
    cases hv
    exact ⟨y, rfl⟩

end Reading

/-- Two integers of which one has its sign in 64 bits are different operands. -/
theorem scalar_ne_of_hasSign [Json.Complaints] {a b : Int} (hab : a ≠ b) {x y : Json}
    (hx : Json.parse (toString a) = .ok x) (hy : Json.parse (toString b) = .ok y) {v w : Scalar}
    (hv : scalarOf? x = some v) (hw : scalarOf? y = some w) (h : HasSign a) : v ≠ w := by
  rw [scalar_of_hasSign hx hv h]
  by_cases hb : HasSign b
  · rw [scalar_of_hasSign hy hw hb]
    intro heq
    have hint : (Int64.ofInt a).toInt = (Int64.ofInt b).toInt :=
      congrArg Int64.toInt (Scalar.integer.inj heq)
    rw [toInt_ofInt_of_range h.1 h.2, toInt_ofInt_of_range hb.1 hb.2] at hint
    exact hab hint
  · obtain ⟨z, rfl⟩ := scalar_of_not_hasSign hy hw hb
    exact nofun

/-- An integer without room for its sign is a large one. -/
theorem HasNoSign.large {a : Int} (h : HasNoSign a) : Decimal.Large a.toNat := by
  have hmax : Int64.maxValue.toInt = 9223372036854775807 := rfl
  obtain ⟨hlow, hhigh⟩ := h
  exact ⟨by omega, by omega⟩

/-- **WHEN DIFFERENT INTEGERS ARE DIFFERENT OPERANDS.**  Take two different
integers that can be read from their texts, and two conditions that are accepted
(or one of them twice) with the first integer in some place of the one and the
second in some place of the other.  There are operands in these places, and

  * if one of the integers fits in 64 bits with a sign, they are different;
  * if both fit in 64 bits, but only without one, they are equal exactly if the
    integers round to the same multiple of 2048. -/
theorem operands_of_integers [Json.Complaints] {a b : Int} (hab : a ≠ b) {x y : Json}
    (hx : Json.parse (toString a) = .ok x) (hy : Json.parse (toString b) = .ok y)
    {c d : RawCondition} {p q : Predicate} (hp : c.predicate = .ok p) (hq : d.predicate = .ok q)
    {i j : Nat} (hi : c.given[i]? = some x) (hj : d.given[j]? = some y) :
    ∃ v w, p.operands[i]? = some v ∧ q.operands[j]? = some w
      ∧ (HasSign a ∨ HasSign b → v ≠ w)
      ∧ (HasNoSign a → HasNoSign b →
        (v = w ↔ Decimal.roundDiv a.toNat 2048 = Decimal.roundDiv b.toNat 2048)) := by
  obtain ⟨v, hpv, hv⟩ := RawCondition.operands_getElem? hp hi
  obtain ⟨w, hqw, hw⟩ := RawCondition.operands_getElem? hq hj
  refine ⟨v, w, hpv, hqw, fun h => ?_, fun ha hb => ?_⟩
  · rcases h with ha | hb
    · exact scalar_ne_of_hasSign hab hx hy hv hw ha
    · exact (scalar_ne_of_hasSign hab.symm hy hx hw hv hb).symm
  · rw [scalar_of_hasNoSign hx hv ha, scalar_of_hasNoSign hy hw hb, Scalar.float.injEq,
      Decimal.toFloat_eq_iff ha.large hb.large]

/-- The condition that an id is one of some integers. -/
def idIsOneOf (ids : List Int) : RawCondition :=
  ⟨"id", "in", .array (ids.map fun a => .number (.integer a))⟩

theorem given_idIsOneOf (ids : List Int) :
    (idIsOneOf ids).given = ids.map fun a => .number (.integer a) :=
  RawCondition.given_of_array (by show Text.lowercase "in" ≠ "eq"; decide) rfl

/-- Two neighbours that no double tells apart, and two large integers that round
to different multiples. -/
def neighbours : List Int :=
  [9007199254740992, 9007199254740993, 9223372036854775808, 9223372036854776833]

open DataAccess.Sample in
/-- Both pairs are different operands. -/
theorem operands_of_integers_neighbours :
    ∃ p, (idIsOneOf neighbours).predicate = .ok p
      ∧ p.operands[0]? ≠ p.operands[1]? ∧ p.operands[2]? ≠ p.operands[3]? := by
  have hread : ∀ a, (Number.integer a).InRange →
      Json.parse (toString a) = .ok (.number (.integer a)) :=
    fun a h => Json.parse_toString_of_inRange h
  have haccepted : ∃ p, (idIsOneOf neighbours).predicate = .ok p := ⟨_, rfl⟩
  obtain ⟨p, hp⟩ := haccepted
  refine ⟨p, hp, ?_, ?_⟩
  · obtain ⟨v, w, hv, hw, hne, -⟩ := operands_of_integers (by decide)
      (hread 9007199254740992 ⟨by decide, by decide⟩)
      (hread 9007199254740993 ⟨by decide, by decide⟩)
      hp hp (i := 0) (j := 1) (by rw [given_idIsOneOf]; rfl) (by rw [given_idIsOneOf]; rfl)
    rw [hv, hw]
    exact fun h => hne (.inl ⟨by decide, by decide⟩) (Option.some.inj h)
  · obtain ⟨v, w, hv, hw, -, hiff⟩ := operands_of_integers (by decide)
      (hread 9223372036854775808 ⟨by decide, by decide⟩)
      (hread 9223372036854776833 ⟨by decide, by decide⟩)
      hp hp (i := 2) (j := 3) (by rw [given_idIsOneOf]; rfl) (by rw [given_idIsOneOf]; rfl)
    have hround := mt (hiff ⟨by decide, by decide⟩ ⟨by decide, by decide⟩).mp (by decide)
    rw [hv, hw]
    exact fun h => hround (Option.some.inj h)

/-- The condition that an id is an integer. -/
def idIs (a : Int) : RawCondition := ⟨"id", "eq", .number (.integer a)⟩

open DataAccess.Sample in
/-- Two neighbours are read exactly, and are one operand. -/
theorem operands_merged :
    Json.parse "9223372036854775808" = .ok (.number (.integer 9223372036854775808))
      ∧ Json.parse "9223372036854775809" = .ok (.number (.integer 9223372036854775809))
      ∧ ∃ v, (idIs 9223372036854775808).predicate = .ok (.equals v)
        ∧ (idIs 9223372036854775809).predicate = .ok (.equals v)
        ∧ (idIsOneOf [9223372036854775808, 9223372036854775809]).predicate
          = .ok (.oneOf [v, v]) := by
  have hmerge : (UInt64.ofNat 9223372036854775808).toFloat
      = (UInt64.ofNat 9223372036854775809).toFloat := by decide +kernel
  refine ⟨rfl, rfl, .float (UInt64.ofNat 9223372036854775808).toFloat, rfl, ?_, ?_⟩
  · rw [hmerge]
    rfl
  · show Except.ok (Predicate.oneOf [.float (UInt64.ofNat 9223372036854775808).toFloat,
      .float (UInt64.ofNat 9223372036854775809).toFloat]) = _
    rw [hmerge]

end DataAccess
