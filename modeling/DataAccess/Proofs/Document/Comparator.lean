/-
  DataAccess.Proofs.Document.Comparator — when the comparison of documents is
  an order.

  Documents are compared by what they have under a key, and values of two
  kinds do not compare: they count as equal.  So a text stands level with one
  number and with another, however these two compare.  Swapping the documents
  always turns the result around.  But the comparison carries over from two
  pairs to a third only as long as the values under each key are on one scale:
  of one kind, or numbers that compare as their doubles do.

  On one scale a value stands for a list of integers, and comparing values is
  comparing these lists.

  Main statements:
    * `orderFloat?_eq_some`    — doubles compare as their codes;
    * `compare?_swap`          — the order of two values turns around;
    * `OneScale.exists_code`   — so do all values on one scale;
    * `compare?_of_foreign`    — and nothing compares across kinds;
    * `exists_transCmp`        — so documents are compared by an order,
    * `consistentOn_of_scales`   and put in it;
    * `compareBy_preorder_on_scales` — when the comparison is one, and when not.
-/
import DataAccess.Document.Order
import DataAccess.Proofs.Relational.Ordering

namespace DataAccess

open Float.Model (UnpackedFloat)

/-! ## §1. Doubles. -/

theorem compare_natCast (m n : Nat) : compare (m : Int) (n : Int) = compare m n := by
  rcases Nat.lt_trichotomy m n with h | h | h
  · rw [Nat.compare_eq_lt.mpr h, Int.compare_eq_lt.mpr (by omega)]
  · rw [Nat.compare_eq_eq.mpr h, Int.compare_eq_eq.mpr (by omega)]
  · rw [Nat.compare_eq_gt.mpr h, Int.compare_eq_gt.mpr (by omega)]

theorem compare_neg_neg (m n : Int) : compare (-m) (-n) = (compare m n).swap := by
  rw [Int.compare_swap]
  rcases Int.lt_trichotomy n m with h | h | h
  · rw [Int.compare_eq_lt.mpr h, Int.compare_eq_lt.mpr (by omega)]
  · rw [Int.compare_eq_eq.mpr h, Int.compare_eq_eq.mpr (by omega)]
  · rw [Int.compare_eq_gt.mpr h, Int.compare_eq_gt.mpr (by omega)]

/-- The integers by which a double is ordered: which side of zero it is on,
and then its exponent and its mantissa. -/
def unpackedCode : UnpackedFloat → List Int
  | .infinity .negative => [-2]
  | .finite .negative m e _ => [-1, -e, -m]
  | .notANumber => [0]
  | .zero _ => [0]
  | .finite .positive m e _ => [1, e, m]
  | .infinity .positive => [2]

theorem compare_unpacked {u v : UnpackedFloat} (hu : u.isNaN = false) (hv : v.isNaN = false) :
    u.compare v = some (compare (unpackedCode u) (unpackedCode v)) := by
  cases u with
  | notANumber => cases hu
  | infinity s =>
    cases v with
    | notANumber => cases hv
    | infinity t => cases s <;> cases t <;> rfl
    | zero t => cases s <;> rfl
    | finite t n f hn => cases s <;> cases t <;> rfl
  | zero s =>
    cases v with
    | notANumber => cases hv
    | infinity t => cases t <;> rfl
    | zero t => rfl
    | finite t n f hn => cases t <;> rfl
  | finite s m e hm =>
    cases v with
    | notANumber => cases hv
    | infinity t => cases s <;> cases t <;> rfl
    | zero t => cases s <;> rfl
    | finite t n f hn =>
      -- only on one side of zero do exponent and mantissa count
      cases s with
      | positive =>
        cases t with
        | negative => rfl
        | positive =>
          show some _ = some (compare [1, e, (m : Int)] [1, f, (n : Int)])
          simp [List.compare_cons_cons, compare_natCast]
      | negative =>
        cases t with
        | positive => rfl
        | negative =>
          show some _ = some (compare [-1, -e, -(m : Int)] [-1, -f, -(n : Int)])
          simp [List.compare_cons_cons, compare_neg_neg, compare_natCast, Ordering.swap_then]

theorem eq_notANumber {u : UnpackedFloat} (h : u.isNaN = true) : u = .notANumber := by
  cases u with
  | notANumber => rfl
  | _ => cases h

theorem compare_notANumber (u : UnpackedFloat) : u.compare .notANumber = none := by
  cases u with
  | infinity s => cases s <;> rfl
  | finite s m e hm => cases s <;> rfl
  | _ => rfl

theorem compare_unpacked_swap (u v : UnpackedFloat) :
    v.compare u = (u.compare v).map Ordering.swap := by
  -- what is not a number compares with nothing on either side
  cases hu : u.isNaN with
  | true =>
    rw [eq_notANumber hu, compare_notANumber]
    rfl
  | false =>
    cases hv : v.isNaN with
    | true =>
      rw [eq_notANumber hv, compare_notANumber]
      rfl
    | false =>
      rw [compare_unpacked hu hv, compare_unpacked hv hu]
      exact congrArg some Std.OrientedOrd.eq_swap

/-- Doubles are ordered as what they are unpacked to. -/
theorem orderFloat?_eq (a b : Float) :
    orderFloat? a b = a.toModel.unpack.compare b.toModel.unpack := by
  have hlt : ∀ x y : Float, x < y ↔ x.toModel.unpack.compare y.toModel.unpack = some .lt := by
    intro x y
    show decide (x.toModel < y.toModel) = true ↔ _
    rw [decide_eq_true_iff]
    show (x.toModel.unpack.compare y.toModel.unpack == some .lt) = true ↔ _
    exact beq_iff_eq
  have heq : (a == b) = true ↔ a.toModel.unpack.compare b.toModel.unpack = some .eq := by
    show (a.toModel.unpack.compare b.toModel.unpack == some .eq) = true ↔ _
    exact beq_iff_eq
  unfold orderFloat?
  simp only [hlt, heq]
  rw [compare_unpacked_swap a.toModel.unpack b.toModel.unpack]
  cases a.toModel.unpack.compare b.toModel.unpack with
  | none => rfl
  | some o => cases o <;> rfl

/-- The integers by which a double is ordered. -/
def doubleCode (x : Float) : List Int := unpackedCode x.toModel.unpack

/-- **Doubles compare as their codes.** -/
theorem orderFloat?_eq_some {a b : Float} (ha : a.isNaN = false) (hb : b.isNaN = false) :
    orderFloat? a b = some (compare (doubleCode a) (doubleCode b)) := by
  rw [orderFloat?_eq]
  exact compare_unpacked ha hb

/-- What is not a number compares with no double. -/
theorem orderFloat?_of_isNaN (a : Float) {b : Float} (hb : b.isNaN = true) :
    orderFloat? a b = none := by
  have hunpacked : b.toModel.unpack = .notANumber := eq_notANumber hb
  rw [orderFloat?_eq, hunpacked, compare_notANumber]

/-! ## §2. Two values, the other way round. -/

theorem orderInt_swap (m n : Int) : orderInt n m = (orderInt m n).swap := by
  show compare n m = (compare m n).swap
  exact Std.OrientedOrd.eq_swap

theorem orderFloat?_swap (a b : Float) : orderFloat? b a = (orderFloat? a b).map Ordering.swap := by
  rw [orderFloat?_eq, orderFloat?_eq]
  exact compare_unpacked_swap _ _

theorem orderText_swap (s t : String) : orderText t s = (orderText s t).swap := by
  unfold orderText
  rw [Scalar.orderChars_eq, Scalar.orderChars_eq]
  exact Std.OrientedOrd.eq_swap

/-- **The order of two values turns around with them**, and with them they
compare or do not. -/
theorem Datum.compare?_swap (x y : Datum) :
    y.compare? x = (x.compare? y).map Ordering.swap := by
  have hint : ∀ m n : Int, some (orderInt n m) = (some (orderInt m n)).map Ordering.swap :=
    fun m n => congrArg some (orderInt_swap m n)
  -- two integers compare as integers, and a double on either side makes both doubles
  cases x with
  | int32 m =>
    cases y with
    | int32 n => exact hint _ _
    | int64 n => exact hint _ _
    | double b => exact orderFloat?_swap _ b
    | _ => rfl
  | int64 m =>
    cases y with
    | int32 n => exact hint _ _
    | int64 n => exact hint _ _
    | double b => exact orderFloat?_swap _ b
    | _ => rfl
  | double a =>
    cases y with
    | int32 n => exact orderFloat?_swap a _
    | int64 n => exact orderFloat?_swap a _
    | double b => exact orderFloat?_swap a b
    | _ => rfl
  | string s =>
    cases y with
    | string t => exact congrArg some (orderText_swap s t)
    | _ => rfl
  | boolean p =>
    cases y with
    | boolean q => exact hint _ _
    | _ => rfl
  | dateTime s =>
    cases y with
    | dateTime t => exact hint _ _
    | _ => rfl
  | null => cases y <;> rfl
  | array items => cases y <;> rfl
  | document fs => cases y <;> rfl
  | other kind text => cases y <;> rfl

/-! ## §3. Scales. -/

/-- The kinds of values that have an order. -/
inductive DatumKind where
  | integer
  | double
  | text
  | boolean
  | time
  deriving DecidableEq

/-- Both kinds are one, or both are kinds of numbers. -/
def DatumKind.Meets (k l : DatumKind) : Prop :=
  k = l ∨ (k = .integer ∨ k = .double) ∧ (l = .integer ∨ l = .double)

instance (k l : DatumKind) : Decidable (k.Meets l) :=
  inferInstanceAs (Decidable (_ ∨ (_ ∨ _) ∧ (_ ∨ _)))

namespace Datum

/-- The kind of a value, none if it has no order: integers have one kind in
both widths, and what is not a number is of none. -/
def kind? : Datum → Option DatumKind
  | int32 _ => some .integer
  | int64 _ => some .integer
  | double x => if x.isNaN then none else some .double
  | string _ => some .text
  | boolean _ => some .boolean
  | dateTime _ => some .time
  | null => none
  | array _ => none
  | document _ => none
  | other _ _ => none

/-- All values are of one kind. -/
def OneKind (xs : List Datum) : Prop := ∃ k, ∀ x ∈ xs, x.kind? = some k

/-- The order of two numbers as doubles. -/
def asDoubles? (x y : Datum) : Option Ordering :=
  x.numeric?.bind fun a => y.numeric?.bind fun b => orderFloat? a b

/-- The values are numbers that compare as their doubles do. -/
def InStep (xs : List Datum) : Prop :=
  ∀ x ∈ xs, (x.numeric?.map Float.isNaN = some false) ∧ ∀ y ∈ xs, x.compare? y = x.asDoubles? y

instance (xs : List Datum) : Decidable (InStep xs) :=
  inferInstanceAs (Decidable (∀ x ∈ xs, _ ∧ ∀ y ∈ xs, _))

/-- All values are on one scale. -/
def OneScale (xs : List Datum) : Prop := OneKind xs ∨ InStep xs

/-- The value is not on the scale of a kind. -/
def Foreign (y : Datum) (k : DatumKind) : Prop := ∀ l, y.kind? = some l → ¬ l.Meets k

/-- The integers by which a value is ordered among those of its kind. -/
def code : Datum → List Int
  | int32 n => [n.toInt]
  | int64 n => [n.toInt]
  | double x => doubleCode x
  | string s => s.toList.map fun c => (c.toNat : Int)
  | boolean b => [(b.toNat : Int)]
  | dateTime t => [t.toInt]
  | null => []
  | array _ => []
  | document _ => []
  | other _ _ => []

/-- The integers by which a number is ordered as a double. -/
def numericCode (x : Datum) : List Int := doubleCode (x.numeric?.getD 0)

theorem numericCode_eq {x : Datum} {a : Float} (h : x.numeric? = some a) :
    x.numericCode = doubleCode a := by
  unfold numericCode
  rw [h]
  rfl

theorem isNaN_of_kind? {x : Float} {k : DatumKind} (h : (double x).kind? = some k) :
    x.isNaN = false ∧ k = .double := by
  have hkind : (if x.isNaN then none else some DatumKind.double) = some k := h
  split at hkind
  · cases hkind
  · next hx => exact ⟨Bool.eq_false_iff.mpr hx, (Option.some.inj hkind).symm⟩

/-- What a value of a kind is. -/
inductive OfKind : Datum → DatumKind → Prop where
  | integer {x : Datum} {m : Int} (h : x.integer? = some m) : OfKind x .integer
  | double {a : Float} (h : a.isNaN = false) : OfKind (double a) .double
  | text (s : String) : OfKind (string s) .text
  | boolean (p : Bool) : OfKind (boolean p) .boolean
  | time (t : Int64) : OfKind (dateTime t) .time

theorem ofKind_of_kind? {x : Datum} {k : DatumKind} (h : x.kind? = some k) : x.OfKind k := by
  cases x with
  | int32 m => cases h; exact .integer rfl
  | int64 m => cases h; exact .integer rfl
  | double a =>
    obtain ⟨ha, rfl⟩ := isNaN_of_kind? h
    exact .double ha
  | string s => cases h; exact .text s
  | boolean p => cases h; exact .boolean p
  | dateTime t => cases h; exact .time t
  | null => cases h
  | array items => cases h
  | document fs => cases h
  | other kind text => cases h

theorem code_of_integer {x : Datum} {m : Int} (h : x.integer? = some m) : x.code = [m] := by
  cases x with
  | int32 n => cases h; rfl
  | int64 n => cases h; rfl
  | _ => cases h

/-- Values of one kind compare as their codes. -/
theorem compare?_of_kind {x y : Datum} {k : DatumKind} (hx : x.kind? = some k)
    (hy : y.kind? = some k) : x.compare? y = some (compare x.code y.code) := by
  have hint : ∀ m n : Int, some (orderInt m n) = some (compare [m] [n]) := by
    intro m n
    rw [List.compare_cons_cons, List.compare_nil_nil, Ordering.then_eq]
    rfl
  -- the second value is of the kind of the first one
  have hkind := ofKind_of_kind? hy
  cases ofKind_of_kind? hx with
  | integer hm =>
    cases hkind with
    | integer hn =>
      rw [compare?_of_integers hm hn, code_of_integer hm, code_of_integer hn]
      exact hint _ _
  | double ha => cases hkind with | double hb => exact orderFloat?_eq_some ha hb
  | text s =>
    cases hkind with | text t => exact congrArg some (Scalar.orderChars_eq s.toList t.toList)
  | boolean p => cases hkind with | boolean q => exact hint _ _
  | time t => cases hkind with | time u => exact hint _ _

/-- **On one scale, comparing values is comparing lists of integers.** -/
theorem OneScale.exists_code {xs : List Datum} (h : OneScale xs) :
    ∃ code : Datum → List Int,
      ∀ x ∈ xs, ∀ y ∈ xs, x.compare? y = some (compare (code x) (code y)) := by
  cases h with
  | inl hkind =>
    obtain ⟨k, hk⟩ := hkind
    exact ⟨code, fun x hx y hy => compare?_of_kind (hk x hx) (hk y hy)⟩
  | inr hstep =>
    refine ⟨numericCode, fun x hx y hy => ?_⟩
    obtain ⟨hxnum, hagree⟩ := hstep x hx
    obtain ⟨a, ha, hanan⟩ := Option.map_eq_some_iff.mp hxnum
    obtain ⟨b, hb, hbnan⟩ := Option.map_eq_some_iff.mp (hstep y hy).1
    have hdoubles : x.asDoubles? y = orderFloat? a b := by
      unfold asDoubles?
      rw [ha, hb]
      rfl
    rw [hagree y hy, hdoubles, orderFloat?_eq_some hanan hbnan, numericCode_eq ha,
      numericCode_eq hb]

/-- **Nothing compares across kinds.** -/
theorem compare?_of_foreign {x y : Datum} {k : DatumKind} (hx : x.kind? = some k)
    (hy : y.Foreign k) : x.compare? y = none := by
  have hnan : ∀ {b : Float}, (double b).Foreign k → k = .integer ∨ k = .double →
      b.isNaN = true := by
    intro b hb hk
    by_contra hnot
    exact hb .double (if_neg hnot) (.inr ⟨.inr rfl, hk⟩)
  -- beside a number the only foreign double is the one that is not a number
  cases x with
  | int32 m =>
    cases hx
    cases y with
    | int32 n => exact absurd (.inl rfl) (hy .integer rfl)
    | int64 n => exact absurd (.inl rfl) (hy .integer rfl)
    | double b => exact orderFloat?_of_isNaN _ (hnan hy (.inl rfl))
    | _ => rfl
  | int64 m =>
    cases hx
    cases y with
    | int32 n => exact absurd (.inl rfl) (hy .integer rfl)
    | int64 n => exact absurd (.inl rfl) (hy .integer rfl)
    | double b => exact orderFloat?_of_isNaN _ (hnan hy (.inl rfl))
    | _ => rfl
  | double a =>
    obtain ⟨-, rfl⟩ := isNaN_of_kind? hx
    cases y with
    | int32 n => exact absurd (.inr ⟨.inl rfl, .inr rfl⟩) (hy .integer rfl)
    | int64 n => exact absurd (.inr ⟨.inl rfl, .inr rfl⟩) (hy .integer rfl)
    | double b => exact orderFloat?_of_isNaN _ (hnan hy (.inr rfl))
    | _ => rfl
  | string s =>
    cases hx
    cases y with
    | string t => exact absurd (.inl rfl) (hy .text rfl)
    | _ => rfl
  | boolean p =>
    cases hx
    cases y with
    | boolean q => exact absurd (.inl rfl) (hy .boolean rfl)
    | _ => rfl
  | dateTime s =>
    cases hx
    cases y with
    | dateTime t => exact absurd (.inl rfl) (hy .time rfl)
    | _ => rfl
  | null => cases hx
  | array items => cases hx
  | document fs => cases hx
  | other kind text => cases hx

end Datum

/-! ## §4. Documents. -/

namespace Document

theorem comparePlaces_swap (p q : Option Datum) :
    comparePlaces q p = (comparePlaces p q).swap := by
  cases p with
  | none => cases q <;> rfl
  | some x =>
    cases q with
    | none => rfl
    | some y =>
      show (y.compare? x).getD .eq = ((x.compare? y).getD .eq).swap
      rw [Datum.compare?_swap]
      cases x.compare? y <;> rfl

/-- **The order of two documents turns around with them.** -/
theorem compareBy_swap (sort a b : Document) : compareBy sort b a = (compareBy sort a b).swap := by
  induction sort with
  | nil => rfl
  | cons k rest ih =>
    obtain ⟨field, direction⟩ := k
    unfold compareBy
    rw [comparePlaces_swap (a.path? field), ih, Ordering.swap_then]
    split <;> rfl

/-- A document is level with itself. -/
theorem compareBy_self (sort d : Document) : compareBy sort d d = .eq := by
  have hswap := compareBy_swap sort d d
  revert hswap
  cases compareBy sort d d <;> decide

/-- The values that documents have at a path. -/
def valuesAt (docs : List Document) (path : String) : List Datum := docs.filterMap (·.path? path)

theorem mem_valuesAt {docs : List Document} {d : Document} (hd : d ∈ docs) {path : String}
    {x : Datum} (hx : d.path? path = some x) : x ∈ valuesAt docs path :=
  List.mem_filterMap.mpr ⟨d, hd, hx⟩

/-- The integers by which a place in a document is ordered, given those of its
value: without a value there are none. -/
def placeCode (code : Datum → List Int) : Option Datum → List Int
  | none => []
  | some x => 0 :: code x

theorem comparePlaces_eq {docs : List Document} {path : String} {code : Datum → List Int}
    (hcode : ∀ x ∈ valuesAt docs path, ∀ y ∈ valuesAt docs path,
      x.compare? y = some (compare (code x) (code y)))
    {a b : Document} (ha : a ∈ docs) (hb : b ∈ docs) :
    comparePlaces (a.path? path) (b.path? path)
      = compare (placeCode code (a.path? path)) (placeCode code (b.path? path)) := by
  cases hx : a.path? path with
  | none => cases b.path? path <;> rfl
  | some x =>
    cases hy : b.path? path with
    | none => rfl
    | some y =>
      show (x.compare? y).getD .eq = compare (0 :: code x) (0 :: code y)
      rw [hcode x (mem_valuesAt ha hx) y (mem_valuesAt hb hy), List.compare_cons_cons]
      rfl

section Orders

open Std

/-- **Documents with values on one scale under each key are compared by an
order.** -/
theorem exists_transCmp {sort : Document} {docs : List Document}
    (h : ∀ k ∈ sort, Datum.OneScale (valuesAt docs k.1)) :
    ∃ cmp : Document → Document → Ordering, TransCmp cmp
      ∧ ∀ a ∈ docs, ∀ b ∈ docs, compareBy sort a b = cmp a b := by
  induction sort with
  | nil =>
    have hlevel : TransCmp fun _ _ : Document => Ordering.eq :=
      { eq_swap := rfl, isLE_trans := fun _ _ => rfl }
    exact ⟨fun _ _ => .eq, hlevel, fun a _ b _ => rfl⟩
  | cons k rest ih =>
    obtain ⟨field, direction⟩ := k
    obtain ⟨code, hcode⟩ := (h _ List.mem_cons_self).exists_code
    obtain ⟨cmp, hcmp, hrest⟩ := ih fun k hk => h k (List.mem_cons_of_mem _ hk)
    -- the key compares by its codes, in its direction
    let byKey : Document → Document → Ordering := fun a b =>
      compare (placeCode code (a.path? field)) (placeCode code (b.path? field))
    have hkey : TransCmp byKey :=
      transCmp_comap fun d : Document => placeCode code (d.path? field)
    let directed : Document → Document → Ordering := fun a b =>
      if isDescending direction then (byKey a b).swap else byKey a b
    have hdirected : TransCmp directed := by
      cases hd : isDescending direction with
      | true =>
        have heq : directed = fun a b => (byKey a b).swap := by
          funext a b
          exact if_pos hd
        rw [heq]
        exact transCmp_swap
      | false =>
        have heq : directed = byKey := by
          funext a b
          exact if_neg (Bool.eq_false_iff.mp hd)
        rw [heq]
        exact hkey
    refine ⟨compareLex directed cmp, inferInstance, fun a ha b hb => ?_⟩
    show Ordering.then _ (compareBy rest a b) = (directed a b).then (cmp a b)
    rw [hrest a ha b hb, comparePlaces_eq hcode ha hb]

/-- **Values on one scale under each key put documents in an order.** -/
theorem consistentOn_of_scales {sort : Document} {docs : List Document}
    (h : ∀ k ∈ sort, Datum.OneScale (valuesAt docs k.1)) : ConsistentOn (compareBy sort) docs := by
  obtain ⟨cmp, hcmp, heq⟩ := exists_transCmp h
  have horder : ConsistentOn cmp docs := consistentOn_of_transCmp docs
  exact horder.congr fun a ha b hb => (heq a ha b hb).symm

end Orders

/-- The comparison of documents carries over from two pairs to the third. -/
def Transitive (sort : Document) (docs : List Document) : Prop :=
  ∀ a ∈ docs, ∀ b ∈ docs, ∀ c ∈ docs,
    compareBy sort a b ≠ .gt → compareBy sort b c ≠ .gt → compareBy sort a c ≠ .gt

theorem transitive_of_scales {sort : Document} {docs : List Document}
    (h : ∀ k ∈ sort, Datum.OneScale (valuesAt docs k.1)) : Transitive sort docs := by
  intro a ha b hb c hc
  exact (consistentOn_of_scales h).2 a ha b hb c hc

/-- By one key, documents are level if what they have in its place is. -/
theorem compareBy_key_eq_iff {field : String} {direction : Datum} {a b : Document} :
    compareBy [(field, direction)] a b = .eq
      ↔ comparePlaces (a.path? field) (b.path? field) = .eq := by
  unfold compareBy
  rw [compareBy_nil]
  generalize comparePlaces (a.path? field) (b.path? field) = o
  cases isDescending direction <;> cases o <;> decide

theorem comparePlaces_some {a b : Document} {field : String} {x y : Datum}
    (hx : a.path? field = some x) (hy : b.path? field = some y) :
    comparePlaces (a.path? field) (b.path? field) = (x.compare? y).getD .eq := by
  rw [hx, hy]
  rfl

/-- A document that is level with two others which are not breaks the law. -/
theorem not_transitive_of_level {sort a b c : Document} {docs : List Document} (ha : a ∈ docs)
    (hb : b ∈ docs) (hc : c ∈ docs) (hab : compareBy sort a b = .eq)
    (hbc : compareBy sort b c = .eq) (hac : compareBy sort a c ≠ .eq) :
    ¬ Transitive sort docs := by
  intro htrans
  -- being level is the same from both sides
  have hba : compareBy sort b a = .eq := by rw [compareBy_swap, hab]; rfl
  have hcb : compareBy sort c b = .eq := by rw [compareBy_swap, hbc]; rfl
  have hle : ∀ {o : Ordering}, o = .eq → o ≠ .gt := fun h h' => by rw [h] at h'; cases h'
  -- neither of the two is above the other
  have h1 : compareBy sort a c ≠ .gt := htrans a ha b hb c hc (hle hab) (hle hbc)
  have h2 : compareBy sort c a ≠ .gt := htrans c hc b hb a ha (hle hcb) (hle hba)
  rw [compareBy_swap] at h2
  cases hcmp : compareBy sort a c with
  | lt => rw [hcmp] at h2; exact h2 rfl
  | eq => exact hac hcmp
  | gt => exact h1 hcmp

/-- **WHEN THE COMPARISON OF DOCUMENTS IS A PREORDER.**  Swapping two documents
turns their order around, whatever is in them.  The comparison carries over
from two pairs to the third if under each key the values of the documents, as
far as they have one, are on one scale: all integers of either width, all
doubles but none that is not a number, all texts, all truth values, all points
in time, or numbers that compare as their doubles do.  By one key it does not
carry over if two documents have values of one kind there and are not level,
and a third one has a value that is not on the scale of this kind. -/
theorem compareBy_preorder_on_scales (sort : Document) (docs : List Document) :
    (∀ a b, compareBy sort b a = (compareBy sort a b).swap)
      ∧ ((∀ k ∈ sort, Datum.OneScale (valuesAt docs k.1)) → Transitive sort docs)
      ∧ ∀ (field : String) (direction : Datum) (a b c : Document) (x y z : Datum) (k : DatumKind),
        sort = [(field, direction)] → a ∈ docs → b ∈ docs → c ∈ docs →
        a.path? field = some x → b.path? field = some y → c.path? field = some z →
        x.kind? = some k → z.kind? = some k → y.Foreign k → compareBy sort a c ≠ .eq →
          ¬ Transitive sort docs := by
  refine ⟨compareBy_swap sort, transitive_of_scales, ?_⟩
  intro field direction a b c x y z k hsort ha hb hc hx hy hz hkx hkz hforeign hac
  subst hsort
  have hxy : x.compare? y = none := Datum.compare?_of_foreign hkx hforeign
  have hzy : z.compare? y = none := Datum.compare?_of_foreign hkz hforeign
  have hyz : y.compare? z = none := by rw [Datum.compare?_swap z y, hzy]; rfl
  refine not_transitive_of_level ha hb hc (compareBy_key_eq_iff.mpr ?_)
    (compareBy_key_eq_iff.mpr ?_) hac
  · rw [comparePlaces_some hx hy, hxy]
    rfl
  · rw [comparePlaces_some hy hz, hyz]
    rfl

/-- Documents with a rating that is an integer or a double; one has no name. -/
def ratedDocuments : List Document :=
  [[("rating", .int32 3), ("name", .string "b")], [("name", .string "a"), ("rating", .double 2.5)],
    [("rating", .int32 2)]]

/-- Ratings of which one is a truth value. -/
def misratedDocuments : List Document :=
  [[("rating", .int32 3)], [("rating", .boolean true)], [("rating", .int64 2)]]

/-- Small integers and doubles are on one scale; a truth value among ratings
is not. -/
theorem compareBy_preorder_on_scales_rated :
    Transitive [("rating", .int32 (-1)), ("name", .int32 1)] ratedDocuments
      ∧ ¬ Transitive [("rating", .int32 (-1))] misratedDocuments := by
  constructor
  · refine (compareBy_preorder_on_scales [("rating", .int32 (-1)), ("name", .int32 1)]
      ratedDocuments).2.1 ?_
    refine List.forall_mem_cons.mpr ⟨.inr ?_, List.forall_mem_cons.mpr ⟨.inl ?_, ?_⟩⟩
    · show Datum.InStep [.int32 3, .double 2.5, .int32 2]
      decide
    · exact ⟨.text, by decide⟩
    · exact List.forall_mem_nil _
  · refine (compareBy_preorder_on_scales [("rating", .int32 (-1))] misratedDocuments).2.2
      "rating" _ _ _ _ (.int32 3) (.boolean true) (.int64 2) .integer rfl
      (List.mem_cons_self) (List.mem_cons_of_mem _ List.mem_cons_self)
      (List.mem_cons_of_mem _ (List.mem_cons_of_mem _ List.mem_cons_self)) rfl rfl rfl rfl rfl ?_ ?_
    · intro l hl
      cases hl
      decide
    · decide

/-- **The comparison of documents is no preorder**: a text is not above one
number and not below another, and what is not a number not between two doubles,
but the first is above the last. -/
theorem compareBy_no_preorder :
    (compareBy [("n", .int32 1)] [("n", .int32 1)] [("n", .string "x")] ≠ .gt
        ∧ compareBy [("n", .int32 1)] [("n", .string "x")] [("n", .int32 0)] ≠ .gt
        ∧ compareBy [("n", .int32 1)] [("n", .int32 1)] [("n", .int32 0)] = .gt)
      ∧ compareBy [("n", .int32 1)] [("n", .double 1)] [("n", .double (0 / 0))] ≠ .gt
        ∧ compareBy [("n", .int32 1)] [("n", .double (0 / 0))] [("n", .double 0)] ≠ .gt
        ∧ compareBy [("n", .int32 1)] [("n", .double 1)] [("n", .double 0)] = .gt := by
  decide

end Document

end DataAccess
