/-
  DataAccess.Proofs.Pattern.Matches — what a pattern matches, and that the
  machine finds it.

  A match leads from a place of a text to a later one, and what it may pass
  over on its way is said by the pattern, part by part.  The machine knows
  nothing of single matches: it carries all places along at once, leaves a
  repetition as soon as no new place turns up, and counts no repetition
  beyond one more round than the text has places.  It misses nothing by
  that: a repetition that takes so many rounds passes over nothing in one of
  them, and such a round may be left out or taken as often as one likes.

  Main statements:
    * `Steps.resize`   — long repetitions may be given another length;
    * `mem_spread_iff` — going on from new places only reaches all places;
    * `mem_reach_iff`  — the machine reaches exactly the ends of matches;
    * `occursIn_iff`   — a pattern occurs where some match of it is.
-/
import DataAccess.Pattern.Basic

namespace DataAccess.Pattern

/-! ## §1. Steps one after the other. -/

/-- So many steps, one after the other, lead from one place to another. -/
def Steps (R : Nat → Nat → Prop) : Nat → Nat → Nat → Prop
  | 0, i, j => i = j
  | n + 1, i, j => ∃ k, R i k ∧ Steps R n k j

variable {R : Nat → Nat → Prop}

theorem Steps.append {m n i j k : Nat} (h : Steps R m i j) (h' : Steps R n j k) :
    Steps R (m + n) i k := by
  induction m generalizing i with
  | zero =>
    obtain rfl : i = j := h
    rwa [Nat.zero_add]
  | succ m ih =>
    obtain ⟨l, hl, hrest⟩ := h
    rw [Nat.succ_add]
    exact ⟨l, hl, ih hrest⟩

theorem Steps.split {m n i k : Nat} (h : Steps R (m + n) i k) :
    ∃ j, Steps R m i j ∧ Steps R n j k := by
  induction m generalizing i with
  | zero =>
    rw [Nat.zero_add] at h
    exact ⟨i, rfl, h⟩
  | succ m ih =>
    rw [Nat.succ_add] at h
    obtain ⟨l, hl, hrest⟩ := h
    obtain ⟨j, hj, hjk⟩ := ih hrest
    exact ⟨j, ⟨l, hl, hj⟩, hjk⟩

/-- A step that passes over nothing may be taken as often as one likes. -/
theorem Steps.stay {i : Nat} (h : R i i) (n : Nat) : Steps R n i i := by
  induction n with
  | zero => rfl
  | succ n ih => exact ⟨i, h, ih⟩

theorem Steps.le (hR : ∀ i j, R i j → i ≤ j) {n i j : Nat} (h : Steps R n i j) : i ≤ j := by
  induction n generalizing i with
  | zero => exact Nat.le_of_eq h
  | succ n ih =>
    obtain ⟨k, hk, hrest⟩ := h
    exact Nat.le_trans (hR i k hk) (ih hrest)

/-- **Long repetitions may be given another length.**  If there are more steps
than places to pass over, one of them passes over nothing. -/
theorem Steps.resize (hR : ∀ i j, R i j → i ≤ j) {n i j : Nat} (h : Steps R n i j)
    (hn : j - i < n) {m : Nat} (hm : j - i ≤ m) : Steps R m i j := by
  induction n generalizing i m with
  | zero => exact absurd hn (Nat.not_lt_zero _)
  | succ n ih =>
    obtain ⟨k, hk, hrest⟩ := h
    have hik : i ≤ k := hR i k hk
    have hkj : k ≤ j := hrest.le hR
    by_cases hmoves : k = i
    · -- the first step stays where it is
      rw [hmoves] at hk hrest
      by_cases hlong : j - i < n
      · exact ih hrest hlong hm
      · have hlen : (m - n) + n = m := by omega
        rw [← hlen]
        exact (Steps.stay hk (m - n)).append hrest
    · -- the first step passes over something, so fewer places are left
      have hlong : j - k < n := by omega
      have hleft : j - k ≤ m - 1 := by omega
      have hpos : (m - 1) + 1 = m := by omega
      rw [← hpos]
      exact ⟨k, hk, ih hrest hlong hleft⟩

/-! ## §2. Carrying places along. -/

/-- A step on places goes where a relation leads to, as long as it starts
within a text of this size. -/
def Follows (size : Nat) (step : List Nat → List Nat) (R : Nat → Nat → Prop) : Prop :=
  ∀ S : List Nat, (∀ i ∈ S, i ≤ size) → ∀ j, j ∈ step S ↔ ∃ i ∈ S, R i j

variable {size : Nat} {step : List Nat → List Nat}

/-- Where one place leads to lies within the text. -/
def Within (size : Nat) (R : Nat → Nat → Prop) : Prop := ∀ i j, i ≤ size → R i j → j ≤ size

theorem Within.steps (hin : Within size R) {n i j : Nat} (hi : i ≤ size) (h : Steps R n i j) :
    j ≤ size := by
  induction n generalizing i with
  | zero =>
    obtain rfl : i = j := h
    exact hi
  | succ n ih =>
    obtain ⟨k, hk, hrest⟩ := h
    exact ih (hin i k hi hk) hrest

/-- Marching takes exactly so many steps. -/
theorem mem_march_iff (hstep : Follows size step R) (hin : Within size R) (n : Nat)
    {S : List Nat} (hS : ∀ i ∈ S, i ≤ size) {j : Nat} :
    j ∈ march step n S ↔ ∃ i ∈ S, Steps R n i j := by
  induction n generalizing S with
  | zero =>
    constructor
    · exact fun h => ⟨j, h, rfl⟩
    · rintro ⟨i, hi, rfl⟩
      exact hi
  | succ n ih =>
    have hnext : ∀ i ∈ step S, i ≤ size := by
      intro k hk
      obtain ⟨i, hi, hik⟩ := (hstep S hS k).mp hk
      exact hin i k (hS i hi) hik
    rw [march, ih hnext]
    constructor
    · rintro ⟨k, hk, hrest⟩
      obtain ⟨i, hi, hik⟩ := (hstep S hS k).mp hk
      exact ⟨i, hi, k, hik, hrest⟩
    · rintro ⟨i, hi, k, hik, hrest⟩
      exact ⟨k, (hstep S hS k).mpr ⟨i, hi, hik⟩, hrest⟩

/-- A closed set of places is not left. -/
theorem mem_of_steps {S : List Nat} (hclosed : ∀ i ∈ S, ∀ j, R i j → j ∈ S) {n i j : Nat}
    (hi : i ∈ S) (h : Steps R n i j) : j ∈ S := by
  induction n generalizing i with
  | zero =>
    obtain rfl : i = j := h
    exact hi
  | succ n ih =>
    obtain ⟨k, hk, hrest⟩ := h
    exact ih (hclosed i hi k hk) hrest

/-- **Going on from new places only reaches all places.**  What is kept on the
way: a place from which it has been gone on has its successors among the
places seen. -/
theorem mem_spread_iff (hstep : Follows size step R) (hin : Within size R) (k : Nat)
    {latest seen : List Nat} (hseen : ∀ i ∈ seen, i ≤ size) (hsub : ∀ i ∈ latest, i ∈ seen)
    (hdone : ∀ i ∈ seen, i ∈ latest ∨ ∀ j, R i j → j ∈ seen) {j : Nat} :
    j ∈ spread step k latest seen ↔ ∃ i ∈ seen, ∃ n, n ≤ k ∧ Steps R n i j := by
  induction k generalizing latest seen with
  | zero =>
    constructor
    · exact fun h => ⟨j, h, 0, Nat.le_refl 0, rfl⟩
    · rintro ⟨i, hi, n, hn, h⟩
      obtain rfl : n = 0 := Nat.le_zero.mp hn
      obtain rfl : i = j := h
      exact hi
  | succ k ih =>
    have hlatest : ∀ i ∈ latest, i ≤ size := fun i hi => hseen i (hsub i hi)
    have hfresh : ∀ j, j ∈ (step latest).filter (fun i => !seen.contains i)
        ↔ (∃ i ∈ latest, R i j) ∧ j ∉ seen := by
      intro j
      rw [List.mem_filter, hstep latest hlatest]
      simp
    simp only [spread]
    generalize (step latest).filter (fun i => !seen.contains i) = fresh at hfresh
    -- every successor of a place seen is seen or new
    have hnext : ∀ i ∈ seen, ∀ j, R i j → j ∈ seen ++ fresh := by
      intro i hi j hij
      rw [List.mem_append]
      rcases hdone i hi with hlast | hall
      · by_cases hj : j ∈ seen
        · exact .inl hj
        · exact .inr ((hfresh j).mpr ⟨⟨i, hlast, hij⟩, hj⟩)
      · exact .inl (hall j hij)
    split
    · next hnone =>
      rw [List.isEmpty_iff] at hnone
      rw [hnone, List.append_nil] at hnext
      constructor
      · exact fun h => ⟨j, h, 0, Nat.zero_le _, rfl⟩
      · rintro ⟨i, hi, n, -, h⟩
        exact mem_of_steps hnext hi h
    · have hall : ∀ i ∈ seen ++ fresh, i ≤ size := by
        intro l hl
        rcases List.mem_append.mp hl with hl | hl
        · exact hseen l hl
        · obtain ⟨⟨i, hi, hil⟩, -⟩ := (hfresh l).mp hl
          exact hin i l (hlatest i hi) hil
      have hkept : ∀ i ∈ seen ++ fresh, i ∈ fresh ∨ ∀ j, R i j → j ∈ seen ++ fresh := by
        intro i hi
        rcases List.mem_append.mp hi with hi | hi
        · exact .inr (hnext i hi)
        · exact .inl hi
      rw [ih hall (fun i hi => List.mem_append_right _ hi) hkept]
      constructor
      · rintro ⟨i, hi, n, hn, h⟩
        rcases List.mem_append.mp hi with hi | hi
        · exact ⟨i, hi, n, Nat.le_succ_of_le hn, h⟩
        · obtain ⟨⟨l, hl, hli⟩, -⟩ := (hfresh i).mp hi
          exact ⟨l, hsub l hl, n + 1, Nat.succ_le_succ hn, i, hli, h⟩
      · rintro ⟨i, hi, n, hn, h⟩
        cases n with
        | zero => exact ⟨i, List.mem_append_left _ hi, 0, Nat.zero_le _, h⟩
        | succ n =>
          obtain ⟨l, hil, hrest⟩ := h
          exact ⟨l, hnext i hi l hil, n, Nat.le_of_succ_le_succ hn, hrest⟩

/-! ## §3. Matches. -/

namespace Node

/-- A match of a pattern leads from one place of a text to another.  A bound
of a repetition below its least count does not shorten it. -/
def Matches (text : Array Char) : Node → Nat → Nat → Prop
  | empty, i, j => i = j
  | char s, i, j => (∃ c, text[i]? = some c ∧ s.mem c.toNat = true) ∧ j = i + 1
  | look l, i, j => l.holds (before text i) text[i]? = true ∧ i = j
  | cat p q, i, j => ∃ k, p.Matches text i k ∧ q.Matches text k j
  | alt p q, i, j => p.Matches text i j ∨ q.Matches text i j
  | times p least most, i, j =>
      ∃ n, least ≤ n ∧ (∀ m, most = some m → n ≤ max least m) ∧ Steps (p.Matches text) n i j

variable {text : Array Char}

/-- A match does not lead backwards. -/
theorem Matches.le {p : Node} {i j : Nat} (h : p.Matches text i j) : i ≤ j := by
  induction p generalizing i j with
  | empty => exact Nat.le_of_eq h
  | char s =>
    obtain ⟨-, rfl⟩ := h
    exact Nat.le_succ i
  | look l => exact Nat.le_of_eq h.2
  | cat p q ihp ihq =>
    obtain ⟨k, hp, hq⟩ := h
    exact Nat.le_trans (ihp hp) (ihq hq)
  | alt p q ihp ihq =>
    rcases h with hp | hq
    · exact ihp hp
    · exact ihq hq
  | times p least most ih =>
    obtain ⟨n, -, -, hsteps⟩ := h
    exact hsteps.le fun i j hij => ih hij

/-- A match does not lead out of its text. -/
theorem matches_within (p : Node) : Within text.size (p.Matches text) := by
  intro i j hi h
  induction p generalizing i j with
  | empty =>
    obtain rfl : i = j := h
    exact hi
  | char s =>
    obtain ⟨⟨c, hc, -⟩, rfl⟩ := h
    obtain ⟨hlt, -⟩ := Array.getElem?_eq_some_iff.mp hc
    exact hlt
  | look l =>
    obtain ⟨-, rfl⟩ := h
    exact hi
  | cat p q ihp ihq =>
    obtain ⟨k, hp, hq⟩ := h
    exact ihq k j (ihp i k hi hp) hq
  | alt p q ihp ihq =>
    rcases h with hp | hq
    · exact ihp i j hi hp
    · exact ihq i j hi hq
  | times p least most ih =>
    obtain ⟨n, -, -, hsteps⟩ := h
    exact Within.steps (fun i j hi hij => ih i j hi hij) hi hsteps

/-- Counting a repetition up to one more round than there are places is as
good as counting it in full. -/
theorem steps_capped_iff (p : Node) (least : Nat) (most : Option Nat) {i j : Nat}
    (hi : i ≤ text.size) :
    (∃ n, n ≤ (match most with
        | some m => min (m - least) (text.size + 1)
        | none => text.size + 1)
      ∧ Steps (p.Matches text) (min least (text.size + 1) + n) i j)
      ↔ (times p least most).Matches text i j := by
  have hmono : ∀ i j, p.Matches text i j → i ≤ j := fun i j => Matches.le
  have hplaces : ∀ {n}, Steps (p.Matches text) n i j → j - i < text.size + 1 := by
    intro n h
    have hj : j ≤ text.size := p.matches_within.steps hi h
    omega
  constructor
  · rintro ⟨n, hn, h⟩
    have hshort := hplaces h
    by_cases hleast : least ≤ text.size + 1
    · rw [Nat.min_eq_left hleast] at h
      refine ⟨least + n, Nat.le_add_right least n, fun m hm => ?_, h⟩
      subst hm
      simp only at hn
      omega
    · -- the least count is cut short, so there are rounds to spare
      have hlong : j - i < min least (text.size + 1) + n := by omega
      exact ⟨least, Nat.le_refl least, fun m _ => Nat.le_max_left least m,
        h.resize hmono hlong (by omega)⟩
  · rintro ⟨n, hleast, hmost, h⟩
    have hshort := hplaces h
    by_cases hcount : n ≤ text.size + 1
    · refine ⟨n - least, ?_, ?_⟩
      · cases most with
        | none => simp only; omega
        | some m => have := hmost m rfl; simp only; omega
      · have hsum : min least (text.size + 1) + (n - least) = n := by omega
        rwa [hsum]
    · -- more rounds than places: one of the counts that the machine knows will do
      have hlong : j - i < n := by omega
      refine ⟨min (n - least) (text.size + 1), ?_, h.resize hmono hlong (by omega)⟩
      cases most with
      | none => simp only; omega
      | some m => have := hmost m rfl; simp only; omega

/-- **The machine reaches exactly the ends of the matches that begin at the
places it starts from.** -/
theorem mem_reach_iff (p : Node) : Follows text.size (p.reach text) (p.Matches text) := by
  induction p with
  | empty =>
    intro S _ j
    constructor
    · exact fun h => ⟨j, h, rfl⟩
    · rintro ⟨i, hi, rfl⟩
      exact hi
  | char s =>
    intro S _ j
    simp only [reach, List.mem_map, List.mem_filter, Matches]
    constructor
    · rintro ⟨i, ⟨hi, hc⟩, rfl⟩
      cases hchar : text[i]? with
      | none => simp [hchar] at hc
      | some c =>
        rw [hchar] at hc
        exact ⟨i, hi, ⟨c, hchar, hc⟩, rfl⟩
    · rintro ⟨i, hi, ⟨c, hchar, hc⟩, rfl⟩
      exact ⟨i, ⟨hi, by rw [hchar]; exact hc⟩, rfl⟩
  | look l =>
    intro S _ j
    simp only [reach, List.mem_filter, Matches]
    constructor
    · exact fun h => ⟨j, h.1, h.2, rfl⟩
    · rintro ⟨i, hi, hl, rfl⟩
      exact ⟨hi, hl⟩
  | cat p q ihp ihq =>
    intro S hS j
    have hmid : ∀ k ∈ p.reach text S, k ≤ text.size := le_of_mem_reach text p hS
    rw [reach_cat, ihq _ hmid]
    constructor
    · rintro ⟨k, hk, hq⟩
      obtain ⟨i, hi, hp⟩ := (ihp S hS k).mp hk
      exact ⟨i, hi, k, hp, hq⟩
    · rintro ⟨i, hi, k, hp, hq⟩
      exact ⟨k, (ihp S hS k).mpr ⟨i, hi, hp⟩, hq⟩
  | alt p q ihp ihq =>
    intro S hS j
    rw [reach_alt, mem_join, ihp S hS, ihq S hS]
    constructor
    · rintro (⟨i, hi, hp⟩ | ⟨i, hi, hq⟩)
      · exact ⟨i, hi, .inl hp⟩
      · exact ⟨i, hi, .inr hq⟩
    · rintro ⟨i, hi, hp | hq⟩
      · exact .inl ⟨i, hi, hp⟩
      · exact .inr ⟨i, hi, hq⟩
  | times p least most ih =>
    intro S hS j
    have hin : Within text.size (p.Matches text) := p.matches_within
    have hmarch : ∀ k, k ∈ march (p.reach text) (min least (text.size + 1)) S
        ↔ ∃ i ∈ S, Steps (p.Matches text) (min least (text.size + 1)) i k :=
      fun k => mem_march_iff ih hin _ hS
    have hstart : ∀ k ∈ march (p.reach text) (min least (text.size + 1)) S, k ≤ text.size := by
      intro k hk
      obtain ⟨i, hi, h⟩ := (hmarch k).mp hk
      exact hin.steps (hS i hi) h
    show j ∈ spread (p.reach text) _ (march _ _ S) (march _ _ S) ↔ _
    rw [mem_spread_iff ih hin _ hstart (fun i hi => hi) (fun i hi => .inl hi)]
    -- the rounds of the march and those of the spread make one repetition
    constructor
    · rintro ⟨k, hk, n, hn, hrest⟩
      obtain ⟨i, hi, hfirst⟩ := (hmarch k).mp hk
      exact ⟨i, hi, (steps_capped_iff p least most (hS i hi)).mp ⟨n, hn, hfirst.append hrest⟩⟩
    · rintro ⟨i, hi, h⟩
      obtain ⟨n, hn, hsteps⟩ := (steps_capped_iff p least most (hS i hi)).mpr h
      obtain ⟨k, hfirst, hrest⟩ := hsteps.split
      exact ⟨k, (hmarch k).mpr ⟨i, hi, hfirst⟩, n, hn, hrest⟩

/-- **A pattern occurs in a text exactly if some part of the text is matched
by it.** -/
theorem occursIn_iff (p : Node) (s : String) :
    p.occursIn s = true
      ↔ ∃ i j, i ≤ s.toList.toArray.size ∧ p.Matches s.toList.toArray i j := by
  have hplaces : ∀ i ∈ List.range (s.toList.toArray.size + 1), i ≤ s.toList.toArray.size :=
    fun i hi => Nat.le_of_lt_succ (List.mem_range.mp hi)
  rw [occursIn, Bool.not_eq_true', List.isEmpty_eq_false_iff_exists_mem]
  constructor
  · rintro ⟨j, hj⟩
    obtain ⟨i, hi, h⟩ := (p.mem_reach_iff _ hplaces j).mp hj
    exact ⟨i, j, hplaces i hi, h⟩
  · rintro ⟨i, j, hi, h⟩
    have hmem : i ∈ List.range (s.toList.toArray.size + 1) :=
      List.mem_range.mpr (Nat.lt_succ_of_le hi)
    exact ⟨j, (p.mem_reach_iff _ hplaces j).mpr ⟨i, hmem, h⟩⟩

end Node

end DataAccess.Pattern
