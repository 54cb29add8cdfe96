/-
  DataAccess.Proofs.Decimal.Rounding — large integers as doubles.

  A double has 53 bits for its digits, so of an integer that needs all of its
  64 bits the last eleven are lost.  The doubles of that size are the multiples
  of 2048, and an integer becomes the nearest of them,

      the one with even digits of two that are equally near.

  The rounding is that of the library, which shifts the digits bit by bit and
  keeps two bits of what is lost.  The induction is on the bits; whatever comes
  after it is about the one shift by eleven.

  Main statements:
    * `roundedMantissa_shiftRight` — shifting and rounding is dividing and rounding;
    * `toBits_toFloat`             — the double of a large integer, bit by bit;
    * `toFloat_eq_iff`             — which large integers become the same double.
-/
import DataAccess.Decimal.Shortest
import Mathlib.Algebra.Order.Ring.Nat

namespace DataAccess.Decimal

open Float.Model (Format UnpackedFloat totalExponent)
open Float.Model.UnpackedFloat

/-! ## §1. Rounded quotients. -/

/-- A quotient rounded to the nearest integer, to the even one of two that are
equally near. -/
def roundDiv (n d : Nat) : Nat :=
  n / d + if 2 * (n % d) < d then 0 else if 2 * (n % d) = d then n / d % 2 else 1

/-- What is left of the digits after a shift: the first of the bits that are
lost, and whether any other one of them was set. -/
theorem shiftRight_eq (m k : Nat) :
    ExtendedMantissa.mk m false false >>> (k + 1)
      = ⟨m / 2 ^ (k + 1), m / 2 ^ k % 2 != 0, m % 2 ^ k != 0⟩ := by
  induction k with
  | zero =>
    show ExtendedMantissa.mk (m / 2) (m % 2 != 0) false = _
    simp [Nat.mod_one]
  | succ k ih =>
    -- the bit that was the first one is now among the others
    show (ExtendedMantissa.mk m false false >>> (k + 1)).shiftRightOne = _
    have hwhole : m / 2 ^ (k + 1) / 2 = m / 2 ^ (k + 1 + 1) := by
      rw [Nat.div_div_eq_div_mul, ← Nat.pow_succ]
    have hrest : m % 2 ^ (k + 1) = m % 2 ^ k + 2 ^ k * (m / 2 ^ k % 2) := Nat.mod_pow_succ
    have hsticky : (m / 2 ^ k % 2 != 0 || m % 2 ^ k != 0) = (m % 2 ^ (k + 1) != 0) := by
      have hpos : 2 ^ k ≠ 0 := Nat.ne_of_gt (Nat.two_pow_pos k)
      rw [hrest, Bool.eq_iff_iff]
      simp only [Bool.or_eq_true, bne_iff_ne, ne_eq, Nat.add_eq_zero_iff, Nat.mul_eq_zero, hpos,
        false_or]
      omega
    rw [ih, ExtendedMantissa.shiftRightOne, hwhole, hsticky]

/-- Shifting and rounding is dividing and rounding. -/
theorem roundedMantissa_shiftRight (m k : Nat) :
    (ExtendedMantissa.mk m false false >>> (k + 1)).roundedMantissa = roundDiv m (2 ^ (k + 1)) := by
  have hrest : m % 2 ^ (k + 1) = m % 2 ^ k + 2 ^ k * (m / 2 ^ k % 2) := Nat.mod_pow_succ
  have hlt : m % 2 ^ k < 2 ^ k := Nat.mod_lt _ (Nat.two_pow_pos k)
  have hdouble : 2 ^ (k + 1) = 2 * 2 ^ k := by rw [Nat.pow_succ, Nat.mul_comm]
  rw [shiftRight_eq, roundDiv, hrest]
  rcases Nat.mod_two_eq_zero_or_one (m / 2 ^ k) with hbit | hbit
  · -- less than half is lost
    rw [hbit, if_pos (by omega)]
    by_cases hsticky : m % 2 ^ k = 0
    · rw [hsticky]
      rfl
    · rw [bne_iff_ne.mpr hsticky]
      rfl
  · rw [hbit, if_neg (by omega)]
    by_cases hsticky : m % 2 ^ k = 0
    · rw [if_pos (by omega), hsticky]
      rfl
    · rw [if_neg (by omega), bne_iff_ne.mpr hsticky]
      rfl

/-! ## §2. Large integers. -/

/-- An integer that needs all of its 64 bits. -/
def Large (n : Nat) : Prop := 9223372036854775808 ≤ n ∧ n < UInt64.size

section Large

variable {n : Nat} (hn : Large n)

include hn

/-- The rounded digits of a large integer have 53 bits, or they are the least
number with 54. -/
theorem Large.roundDiv_range :
    4503599627370496 ≤ roundDiv n 2048 ∧ roundDiv n 2048 ≤ 9007199254740992 := by
  obtain ⟨hlow, hhigh⟩ := hn
  have hsize : UInt64.size = 18446744073709551616 := rfl
  unfold roundDiv
  split
  · omega
  split
  · omega
  · omega

/-- A large integer is shifted by eleven bits and rounded, and shifted again if
the rounding carried into a new bit. -/
theorem Large.ofNat_eq :
    UnpackedFloat.ofNat Format.binary64 n
      = let (digits, exponent) :=
          shiftToTargetExponent Format.binary64 (roundDiv n 2048) 11 .exact
        if h : digits.mantissa = 0 then .zero .positive
        else .finite .positive digits.mantissa exponent (Nat.pos_of_ne_zero h) := by
  obtain ⟨hlow, hhigh⟩ := hn
  have hlog : n.log2 = 63 := (Nat.log2_eq_iff (by omega)).mpr ⟨hlow, hhigh⟩
  have hcompare : compare (n : Int) 0 = .gt := Int.compare_eq_gt.mpr (by omega)
  have htarget : Format.binary64.targetExponent (totalExponent n 0) = 11 := by
    rw [totalExponent, hlog]
    rfl
  have hfirst : shiftToTargetExponent Format.binary64 n 0 .exact
      = (ExtendedMantissa.mk n false false >>> 11, 11) := by
    rw [shiftToTargetExponent, htarget]
    rfl
  have hround : (ExtendedMantissa.mk n false false >>> 11).roundedMantissa = roundDiv n 2048 :=
    roundedMantissa_shiftRight n 10
  rw [← hround, UnpackedFloat.ofNat, UnpackedFloat.ofInt, UnpackedFloat.normalize, hcompare]
  show UnpackedFloat.round Format.binary64 .positive n 0 = _
  rw [UnpackedFloat.round, htarget]
  show roundWithAccuracy Format.binary64 .positive n 0 .exact = _
  rw [roundWithAccuracy, hfirst]

end Large

section Digits

variable {r : Nat} (hlow : 4503599627370496 ≤ r) (hhigh : r < 9007199254740992)

include hlow hhigh

/-- Digits with 53 bits are not shifted again. -/
theorem shiftToTargetExponent_of_fits :
    shiftToTargetExponent Format.binary64 r 11 .exact = (⟨r, false, false⟩, 11) := by
  have hlog : r.log2 = 52 := (Nat.log2_eq_iff (by omega)).mpr ⟨hlow, hhigh⟩
  rw [shiftToTargetExponent, totalExponent, hlog]
  rfl

/-- The first of 53 bits is not written; it counts as one more in the exponent
that stands before the others. -/
theorem pack_of_fits (hpos : 0 < r) :
    (UnpackedFloat.pack Format.binary64 (.finite .positive r 11 hpos)).toNat
      = 4886405595696988160 + r := by
  have hlog : r.log2 = 52 := (Nat.log2_eq_iff (by omega)).mpr ⟨hlow, hhigh⟩
  have hpack : UnpackedFloat.pack Format.binary64 (.finite .positive r 11 hpos)
      = packComponents Format.binary64 .positive (BitVec.ofNat _ 1086) (BitVec.ofNat _ r) :=
    -- the exponent fits, as is seen by evaluating it, and the first bit is there
    if_pos (by rw [hlog]; rfl)
  have hfront : (Sign.positive.toBitVec ++ BitVec.ofNat 11 1086 : BitVec 12).toNat = 1086 := rfl
  have hdigits : (BitVec.ofNat 52 r).toNat = r - 4503599627370496 := by
    rw [BitVec.toNat_ofNat]
    omega
  rw [hpack, packComponents]
  show ((Sign.positive.toBitVec ++ BitVec.ofNat 11 1086 : BitVec 12) ++ BitVec.ofNat 52 r).toNat = _
  rw [BitVec.toNat_append, hfront, hdigits, ← Nat.shiftLeft_add_eq_or_of_lt (by omega),
    Nat.shiftLeft_eq]
  omega

end Digits

/-! ## §3. Their doubles. -/

/-- The bits of the double of a large integer are its rounded digits after the
exponent 1085; a carry moves the exponent by itself. -/
theorem toBits_toFloat {n : Nat} (hn : Large n) :
    (UInt64.ofNat n).toFloat.toBits.toNat = 4886405595696988160 + roundDiv n 2048 := by
  obtain ⟨hr, hr'⟩ := hn.roundDiv_range
  show (UnpackedFloat.pack Format.binary64
    (UnpackedFloat.ofNat Format.binary64 (UInt64.ofNat n).toNat)).toNat = _
  rw [UInt64.toNat_ofNat_of_lt' hn.2, hn.ofNat_eq]
  rcases Nat.lt_or_eq_of_le hr' with hfits | hcarry
  · rw [shiftToTargetExponent_of_fits hr hfits]
    show (UnpackedFloat.pack Format.binary64 (if h : roundDiv n 2048 = 0 then _ else _)).toNat = _
    rw [dif_neg (by omega), pack_of_fits hr hfits]
  · rw [hcarry]
    decide +kernel

theorem float_eq_iff_toBits {x y : Float} : x = y ↔ x.toBits = y.toBits := by
  constructor
  · intro h
    rw [h]
  · intro h
    obtain ⟨⟨x, hx⟩⟩ := x
    obtain ⟨⟨y, hy⟩⟩ := y
    cases h
    rfl

/-- **Large integers become the same double exactly if they round to the same
multiple of 2048.** -/
theorem toFloat_eq_iff {a b : Nat} (ha : Large a) (hb : Large b) :
    (UInt64.ofNat a).toFloat = (UInt64.ofNat b).toFloat ↔ roundDiv a 2048 = roundDiv b 2048 := by
  rw [float_eq_iff_toBits, ← UInt64.toNat_inj, toBits_toFloat ha, toBits_toFloat hb,
    Nat.add_left_cancel_iff]

end DataAccess.Decimal
