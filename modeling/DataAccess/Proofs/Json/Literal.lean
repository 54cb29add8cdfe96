/-
  DataAccess.Proofs.Json.Literal — integers as they are read from a text.

  An integer that is written without a fraction and without an exponent is read
  exactly if it fits in 64 bits, with or without a sign.  Any other integer is
  read as a double, or not at all if it is too large for one.  The digits of an
  integer are those of the library, so what has to be shown of the scanner is

      that it takes all of them, and that it gathers all of them,

  the second exactly if their number fits.

  Main statements:
    * `gather_of_fits`                — gathering loses nothing of a number that fits;
    * `takeNumber?_toString`          — an integer is taken as a whole;
    * `parse_toString_of_inRange`     — integers that fit are read exactly;
    * `parse_toString_of_not_inRange` — other integers are read as doubles.
-/
import DataAccess.Proofs.Json.WellFormed
import Mathlib.Data.List.TakeDrop
import Mathlib.Data.List.TakeWhile

namespace DataAccess

open DataAccess.Text

/-! ## §1. Gathering. -/

theorem le_foldl_digitValue (n : Nat) (cs : List Char) :
    n ≤ cs.foldl (fun n c => 10 * n + digitValue c) n := by
  induction cs generalizing n with
  | nil => exact Nat.le_refl n
  | cons c cs ih =>
    have hrest := ih (10 * n + digitValue c)
    rw [List.foldl_cons]
    omega

/-- Gathering loses nothing of a number that fits. -/
theorem gather_of_fits {n : Nat} {cs : List Char}
    (h : cs.foldl (fun n c => 10 * n + digitValue c) n < UInt64.size) :
    gather n cs = (cs.foldl (fun n c => 10 * n + digitValue c) n, []) := by
  induction cs generalizing n with
  | nil => rfl
  | cons c cs ih =>
    have hstep := le_foldl_digitValue (10 * n + digitValue c) cs
    rw [List.foldl_cons] at h ⊢
    rw [gather, if_pos (by omega), ih h]

/-- What has been gathered without a rest is the whole number. -/
theorem gather_eq_of_no_rest {n : Nat} {cs : List Char} (h : (gather n cs).2 = []) :
    (gather n cs).1 = cs.foldl (fun n c => 10 * n + digitValue c) n := by
  induction cs generalizing n with
  | nil => rfl
  | cons c cs ih =>
    rw [gather] at h ⊢
    split at h
    · next hfits =>
      rw [if_pos hfits]
      exact ih h
    · cases h

section Digits

variable (n : Nat)

theorem isDigit_of_mem_toDigits : ∀ c ∈ Nat.toDigits 10 n, isDigit c = true := by
  intro c hc
  have hdigit := Nat.isDigit_of_mem_toDigits (by decide) (by decide) hc
  simp only [Char.isDigit, Bool.and_eq_true, decide_eq_true_eq] at hdigit
  simp only [isDigit, Bool.and_eq_true, decide_eq_true_eq]
  exact hdigit

/-- Only zero is written with a zero in front. -/
theorem head?_toDigits {n : Nat} (hn : 0 < n) : (Nat.toDigits 10 n).head? ≠ some '0' := by
  induction n using Nat.strongRecOn with
  | ind n ih =>
    rw [Nat.toDigits_eq_if (by decide)]
    split
    · next hlt =>
      have hdigits : ∀ k : Fin 10, 0 < k.val → k.val.digitChar ≠ '0' := by decide
      simpa using hdigits ⟨n, hlt⟩ hn
    · next hge =>
      have hfirst := ih (n / 10) (by omega) (by omega)
      rwa [List.head?_append, Option.or_of_isSome (by simp)]

theorem gather_toDigits_of_fits (h : n < UInt64.size) :
    gather 0 (Nat.toDigits 10 n) = (n, []) := by
  have hvalue : decimalValue (Nat.toDigits 10 n) = n := decimalValue_toDigits n
  unfold decimalValue at hvalue
  rw [gather_of_fits (by rw [hvalue]; exact h), hvalue]

theorem gather_toDigits_of_not_fits (h : UInt64.size ≤ n) :
    (gather 0 (Nat.toDigits 10 n)).2 ≠ [] := by
  intro hrest
  have hbound := gather_bound 0 (Nat.toDigits 10 n) (by decide)
  have hvalue : decimalValue (Nat.toDigits 10 n) = n := decimalValue_toDigits n
  rw [gather_eq_of_no_rest hrest] at hbound
  unfold decimalValue at hvalue
  omega

/-! ## §2. Taking. -/

/-- The digits of a number, with nothing after them, are taken as a whole. -/
theorem takeWhole?_toDigits : takeWhole? (Nat.toDigits 10 n) = some (Nat.toDigits 10 n, []) := by
  have hdigits := isDigit_of_mem_toDigits n
  have hspan : (Nat.toDigits 10 n).span isDigit = (Nat.toDigits 10 n, []) := by
    rw [List.span_eq_takeWhile_dropWhile, List.takeWhile_eq_self_iff.mpr hdigits,
      List.dropWhile_eq_nil_iff.mpr hdigits]
  unfold takeWhole?
  rw [hspan]
  split
  · next h => exact absurd (congrArg Prod.fst h) Nat.toDigits_ne_nil
  · next c cs rest h =>
    -- a zero in front is the only digit
    have htext : Nat.toDigits 10 n = '0' :: c :: cs := congrArg Prod.fst h
    rcases Nat.eq_zero_or_pos n with hzero | hpos
    · rw [hzero, Nat.toDigits_zero] at htext
      cases htext
    · exact absurd (by rw [htext]; rfl) (head?_toDigits hpos)
  · next h => exact congrArg some h.symm

end Digits

/-- An integer in parts. -/
def integerText (a : Int) : NumberText := ⟨decide (a < 0), Nat.toDigits 10 a.natAbs, none, none⟩

/-- The text of an integer, with its sign in front of its digits. -/
theorem toList_toString (a : Int) :
    (toString a).toList
      = if a < 0 then '-' :: Nat.toDigits 10 a.natAbs else Nat.toDigits 10 a.natAbs := by
  cases a with
  | ofNat n =>
    rw [if_neg (by simp)]
    show (toString n).toList = Nat.toDigits 10 n
    rw [Nat.toString_eq_ofList_toDigits, String.toList_ofList]
  | negSucc n =>
    rw [if_pos (Int.negSucc_lt_zero n)]
    show ("-" ++ toString (n + 1)).toList = '-' :: Nat.toDigits 10 (n + 1)
    rw [String.toList_append, Nat.toString_eq_ofList_toDigits]
    exact congrArg ('-' :: ·) String.toList_ofList

/-- An integer is taken as a whole. -/
theorem takeNumber?_toString (a : Int) :
    takeNumber? (toString a).toList = some (integerText a, []) := by
  have hwhole := takeWhole?_toDigits a.natAbs
  have hend : takeFraction? [] = some (none, []) := rfl
  have hend' : takeExponent? [] = some (none, []) := rfl
  rw [toList_toString, integerText]
  by_cases hneg : a < 0
  · rw [if_pos hneg]
    simp [takeNumber?, hwhole, hend, hend', hneg]
  · rw [if_neg hneg]
    cases hdigits : Nat.toDigits 10 a.natAbs with
    | nil => exact absurd hdigits Nat.toDigits_ne_nil
    | cons c cs =>
      have hc : isDigit c = true := isDigit_of_mem_toDigits a.natAbs c (by simp [hdigits])
      have hsign : c ≠ '-' := by rintro rfl; cases hc
      rw [hdigits] at hwhole
      simp [takeNumber?, hwhole, hend, hend', hneg, hsign]

/-! ## §3. Reading. -/

namespace Json

section First

variable {c : Char} (hc : c = '-' ∨ isDigit c = true)

include hc

/-- No number starts with a blank. -/
theorem isGap_of_number : isGap c = false := by
  cases hgap : isGap c with
  | false => rfl
  | true =>
    simp only [isGap, Bool.or_eq_true, decide_eq_true_eq] at hgap
    rcases hgap with ((rfl | rfl) | rfl) | rfl
    all_goals exact absurd hc (by decide)

/-- What starts with a digit or a minus is a number, if it is a token at all. -/
theorem takeToken?_of_number (cs : List Char) :
    takeToken? (c :: cs)
      = (takeNumber? (c :: cs)).map fun (t, rest) => (.number (Number.ofParts? t), rest) := by
  unfold takeToken?
  split
  case h_11 => rfl
  -- every other token starts with a character of its own
  all_goals
    rename_i h
    cases h
    exact absurd hc (by decide)

end First

/-- The only token of an integer is a number. -/
theorem scan_toString (a : Int) :
    scan (toString a) = [.number (Number.ofParts? (integerText a))] := by
  have htake := takeNumber?_toString a
  have hstart : ∃ c cs, (toString a).toList = c :: cs ∧ (c = '-' ∨ isDigit c = true) := by
    rw [toList_toString]
    split
    · exact ⟨_, _, rfl, .inl rfl⟩
    · have hdigits : Nat.toDigits 10 a.natAbs ≠ [] := Nat.toDigits_ne_nil
      obtain ⟨c, cs, hdigits⟩ := List.exists_cons_of_ne_nil hdigits
      exact ⟨c, cs, hdigits, .inr (isDigit_of_mem_toDigits a.natAbs c (by simp [hdigits]))⟩
  obtain ⟨c, cs, htext, hc⟩ := hstart
  have hrest : scanWithin cs.length [] = [] := by cases cs.length <;> rfl
  rw [htext] at htake
  rw [scan, htext]
  show scanWithin (cs.length + 1) (c :: cs) = _
  rw [scanWithin, isGap_of_number hc, takeToken?_of_number hc, htake]
  simp [hrest]

/-- The text of an integer is read as its number, if it is one. -/
theorem parse_toString [Complaints] (a : Int) :
    parse (toString a) = match Number.ofParts? (integerText a) with
      | some n => .ok (.number n)
      | none => .error (Fault.malformed.inText "Value" (toString a)) := by
  rw [parse, scan_toString]
  cases Number.ofParts? (integerText a) <;> simp [readValue, close]

/-- An integer whose digits fit in 64 bits is one, unless its sign makes it too
small or a negative zero. -/
theorem ofParts?_integerText_of_fits {a : Int} (h : a.natAbs < UInt64.size) :
    Number.ofParts? (integerText a)
      = if Int64.minValue.toInt ≤ a then some (.integer a)
        else some (.float (-(UInt64.ofNat a.natAbs).toFloat)) := by
  have hmin : Int64.minValue.toInt = -9223372036854775808 := rfl
  have hgather := gather_toDigits_of_fits a.natAbs h
  by_cases hneg : a < 0
  · have ha : -(a.natAbs : Int) = a := by omega
    have hpos : 0 < a.natAbs := by omega
    simp only [Number.ofParts?, integerText, hgather, hneg, ha, hpos, List.isEmpty_nil,
      Bool.not_true, decide_true, Bool.false_eq_true, true_and, if_true, if_false]
  · have ha : (a.natAbs : Int) = a := by omega
    rw [if_pos (by omega)]
    simp only [Number.ofParts?, integerText, hgather, hneg, ha, List.isEmpty_nil, Bool.not_true,
      decide_false, Bool.not_false, Bool.false_eq_true, if_true, if_false]

/-- An integer with more digits is a double, if it is a number at all. -/
theorem ofParts?_integerText_of_not_fits {a : Int} (h : UInt64.size ≤ a.natAbs) {n : Number}
    (hn : Number.ofParts? (integerText a) = some n) : ∃ y, n = .float y := by
  have hrest := gather_toDigits_of_not_fits a.natAbs h
  generalize hgather : gather 0 (Nat.toDigits 10 a.natAbs) = g at hrest
  obtain ⟨m, rest⟩ := g
  have hempty : rest.isEmpty = false := by simpa using hrest
  simp only [Number.ofParts?, integerText, hgather, hempty, Bool.not_false, if_true] at hn
  obtain ⟨y, -, rfl⟩ := Option.map_eq_some_iff.mp hn
  exact ⟨_, rfl⟩

/-- **Integers that fit in 64 bits are read exactly.** -/
theorem parse_toString_of_inRange [Complaints] {a : Int} (h : (Number.integer a).InRange) :
    parse (toString a) = .ok (.number (.integer a)) := by
  obtain ⟨hlow, hsize⟩ := h
  have hmin : Int64.minValue.toInt = -9223372036854775808 := rfl
  have hmax : UInt64.size = 18446744073709551616 := rfl
  rw [parse_toString, ofParts?_integerText_of_fits (by omega), if_pos hlow]

/-- **Other integers are read as doubles, if at all.** -/
theorem parse_toString_of_not_inRange [Complaints] {a : Int}
    (h : ¬ (Number.integer a).InRange) {x : Json} (hx : parse (toString a) = .ok x) :
    ∃ y, x = .number (.float y) := by
  have hnumber : ∀ n, Number.ofParts? (integerText a) = some n → ∃ y, n = .float y := by
    intro n hn
    rcases Nat.lt_or_ge a.natAbs UInt64.size with hfits | hfits
    · -- there are few enough digits, so it is too small
      have hlow : ¬ Int64.minValue.toInt ≤ a := fun hlow => h ⟨hlow, by omega⟩
      rw [ofParts?_integerText_of_fits hfits, if_neg hlow] at hn
      cases hn
      exact ⟨_, rfl⟩
    · exact ofParts?_integerText_of_not_fits hfits hn
  rw [parse_toString] at hx
  split at hx
  · next n hn =>
    obtain ⟨y, rfl⟩ := hnumber n hn
    cases hx
    exact ⟨y, rfl⟩
  · cases hx

end Json

end DataAccess
