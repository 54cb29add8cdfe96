/-
  DataAccess.Proofs.Text.LowerCase — the lower-case form of a part of a text,
  and of the part alone.

  Every character but one has a form of its own.  The capital sigma looks at
  what stands around it, so that a part of a text need not have the form within
  the text that it has alone.  Marks and joiners aside, its form is another one
  in two cases:

      ending    — it is the last letter of the part, with a letter before it,
                  and the text goes on with a letter;
      starting  — it is the first letter of the part, with no letter after it,
                  and the text has a letter before the part.

  Main statements:
    * `lowerFrom_append`        — forms are put together from those within the text;
    * `lowerWithin_eq_iff`      — two surroundings make one form if every sigma
                                  has one form in them;
    * `lowerWithin_alone_iff`   — the two cases are the only ones;
    * `occurs_of_not_turns`     — in all others, the form of a part stands within
                                  the form of its text;
    * `sigmaAtEdge_of_turns`    — a sigma turns only at the edge of a part;
    * `exists_hidden`           — each part with a sigma there stands in a text
                                  whose form does not hold its form;
    * `occurs_everywhere_iff`   — the parts whose form stands in that of every
                                  text that has them.
-/
import Mathlib.Data.List.TakeWhile
import DataAccess.Text.LowerCase

namespace DataAccess.Text

/-! ## §1. Forms within a text. -/

/-- The lower-case form of a character between two texts, the one before it
given last character first. -/
def lowerBetween (before : List Char) (c : Char) (after : List Char) : List Char :=
  if c = 'Σ' then [lowerSigma before after] else lowerChar c

/-- The lower-case form of a part of a text, with what stands before it (last
character first) and after it. -/
def lowerWithin (before after : List Char) : List Char → List Char
  | [] => []
  | c :: cs => lowerBetween before c (cs ++ after) ++ lowerWithin (c :: before) after cs

/-- **A form is put together from the forms of its parts**, as they stand within
the text. -/
theorem lowerFrom_append (before cs after : List Char) :
    lowerFrom before (cs ++ after)
      = lowerWithin before after cs ++ lowerFrom (cs.reverse ++ before) after := by
  induction cs generalizing before with
  | nil => rfl
  | cons c cs ih =>
    show lowerBetween before c (cs ++ after) ++ lowerFrom (c :: before) (cs ++ after) = _
    rw [ih, lowerWithin, List.append_assoc, List.reverse_cons, List.append_assoc,
      List.singleton_append]

theorem lowerFrom_eq (before cs : List Char) : lowerFrom before cs = lowerWithin before [] cs := by
  have happend := lowerFrom_append before cs []
  rw [List.append_nil] at happend
  rw [happend, lowerFrom, List.append_nil]

/-- The form of a text, part by part. -/
theorem lowerFrom_parts (before word after : List Char) :
    lowerFrom [] (before ++ word ++ after)
      = lowerWithin [] (word ++ after) before ++ lowerWithin before.reverse after word
        ++ lowerFrom (word.reverse ++ before.reverse) after := by
  rw [List.append_assoc, lowerFrom_append, lowerFrom_append, List.append_nil, List.append_assoc]

theorem length_lowerBetween (before before' after after' : List Char) (c : Char) :
    (lowerBetween before c after).length = (lowerBetween before' c after').length := by
  unfold lowerBetween
  split <;> rfl

/-- The surroundings of a part have no effect on how long its form is. -/
theorem length_lowerWithin (before before' after after' cs : List Char) :
    (lowerWithin before after cs).length = (lowerWithin before' after' cs).length := by
  induction cs generalizing before before' with
  | nil => rfl
  | cons c cs ih =>
    rw [lowerWithin, lowerWithin, List.length_append, List.length_append, ih (c :: before),
      length_lowerBetween before before']

theorem lowerBetween_eq_iff {before before' after after' : List Char} {c : Char} :
    lowerBetween before c after = lowerBetween before' c after'
      ↔ (c = 'Σ' → lowerSigma before after = lowerSigma before' after') := by
  unfold lowerBetween
  split
  · next hc => simp [hc]
  · next hc => simp [hc]

/-- **Two surroundings make one form of a part** if every sigma of the part has
one form in them. -/
theorem lowerWithin_eq_iff {before before' after after' cs : List Char} :
    lowerWithin before after cs = lowerWithin before' after' cs
      ↔ ∀ first last, cs = first ++ 'Σ' :: last →
        lowerSigma (first.reverse ++ before) (last ++ after)
          = lowerSigma (first.reverse ++ before') (last ++ after') := by
  induction cs generalizing before before' with
  | nil => simp [lowerWithin]
  | cons c cs ih =>
    rw [lowerWithin, lowerWithin, List.append_eq_append_iff_of_size_eq_left
      (length_lowerBetween before before' _ _ c), lowerBetween_eq_iff, ih]
    constructor
    · intro h first last heq
      cases first with
      | nil =>
        obtain ⟨hc, rfl⟩ := List.cons.inj heq
        exact h.1 hc
      | cons d first =>
        obtain ⟨rfl, hcs⟩ := List.cons.inj heq
        simpa using h.2 first last hcs
    · intro h
      refine ⟨fun hc => h [] cs (by rw [hc]; rfl), fun first last hcs => ?_⟩
      simpa using h (c :: first) last (by rw [hcs]; rfl)

/-! ## §2. The sigma. -/

/-- Nothing but marks and joiners. -/
def AllMarks (cs : List Char) : Prop := ∀ c ∈ cs, ignorableRanges.contains c.toNat = true

theorem allMarks_reverse {cs : List Char} : AllMarks cs.reverse ↔ AllMarks cs := by
  unfold AllMarks
  simp only [List.mem_reverse]

/-- Marks are passed over on the way to a letter. -/
theorem meetsCased_of_allMarks {cs : List Char} (h : AllMarks cs) (rest : List Char) :
    meetsCased (cs ++ rest) = meetsCased rest := by
  unfold meetsCased
  rw [List.dropWhile_append_of_pos h]

theorem not_meetsCased_of_allMarks {cs : List Char} (h : AllMarks cs) : meetsCased cs = false := by
  have hpass := meetsCased_of_allMarks h []
  rwa [List.append_nil] at hpass

/-- Nothing is looked at beyond the first character that is no mark. -/
theorem meetsCased_of_not_allMarks {cs : List Char} (h : ¬ AllMarks cs) (rest : List Char) :
    meetsCased (cs ++ rest) = meetsCased cs := by
  unfold AllMarks at h
  unfold meetsCased
  rw [List.dropWhile_append]
  cases hdrop : cs.dropWhile fun c => ignorableRanges.contains c.toNat with
  | nil => exact absurd (List.dropWhile_eq_nil_iff.mp hdrop) h
  | cons d ds => rfl

theorem lowerSigma_eq_iff {before before' after after' : List Char} :
    lowerSigma before after = lowerSigma before' after'
      ↔ (meetsCased before && !meetsCased after) = (meetsCased before' && !meetsCased after') := by
  unfold lowerSigma
  cases meetsCased before && !meetsCased after <;>
    cases meetsCased before' && !meetsCased after' <;> decide

/-- A capital sigma in a part of a text turns if it has another form within the
text than in the part alone. -/
inductive SigmaTurns (before word after : List Char) : Prop where
  /-- The last letter of the part, with a letter before it; the text goes on
  with a letter. -/
  | ending {first last : List Char} (hword : word = first ++ 'Σ' :: last)
      (hfirst : meetsCased first.reverse = true) (hlast : AllMarks last)
      (hafter : meetsCased after = true)
  /-- The first letter of the part, with no letter after it in the text; the
  text has a letter before the part. -/
  | starting {first last : List Char} (hword : word = first ++ 'Σ' :: last)
      (hfirst : AllMarks first) (hlast : meetsCased (last ++ after) = false)
      (hbefore : meetsCased before.reverse = true)

/-- The form of one sigma of a part, within the text and alone. -/
theorem lowerSigma_alone_iff (before first last after : List Char) :
    lowerSigma (first.reverse ++ before.reverse) (last ++ after) = lowerSigma first.reverse last
      ↔ ¬ (meetsCased first.reverse = true ∧ AllMarks last ∧ meetsCased after = true)
        ∧ ¬ (AllMarks first ∧ meetsCased (last ++ after) = false
          ∧ meetsCased before.reverse = true) := by
  rw [lowerSigma_eq_iff]
  by_cases hfirst : AllMarks first
  · -- alone, the sigma has no letter before it
    have hmarks : AllMarks first.reverse := allMarks_reverse.mpr hfirst
    rw [meetsCased_of_allMarks hmarks, not_meetsCased_of_allMarks hmarks]
    cases meetsCased before.reverse <;> cases meetsCased (last ++ after) <;> simp [hfirst]
  · have hmarks : ¬ AllMarks first.reverse := fun h => hfirst (allMarks_reverse.mp h)
    rw [meetsCased_of_not_allMarks hmarks]
    by_cases hlast : AllMarks last
    · -- alone, the sigma has no letter after it
      rw [meetsCased_of_allMarks hlast, not_meetsCased_of_allMarks hlast]
      cases meetsCased first.reverse <;> cases meetsCased after <;> simp [hfirst, hlast]
    · rw [meetsCased_of_not_allMarks hlast]
      simp [hfirst, hlast]

/-- **A part has the form within its text that it has alone** unless one of its
sigmas turns. -/
theorem lowerWithin_alone_iff {before word after : List Char} :
    lowerWithin before.reverse after word = lowerFrom [] word ↔ ¬ SigmaTurns before word after := by
  rw [lowerFrom_eq, lowerWithin_eq_iff]
  simp only [List.append_nil, lowerSigma_alone_iff]
  constructor
  · intro h hturns
    cases hturns with
    | ending hword hfirst hlast hafter => exact (h _ _ hword).1 ⟨hfirst, hlast, hafter⟩
    | starting hword hfirst hlast hbefore => exact (h _ _ hword).2 ⟨hfirst, hlast, hbefore⟩
  · intro h first last hword
    constructor
    · intro hending
      exact h (.ending hword hending.1 hending.2.1 hending.2.2)
    · intro hstarting
      exact h (.starting hword hstarting.1 hstarting.2.1 hstarting.2.2)

/-- **The form of a part stands within the form of its text** unless one of its
sigmas turns there. -/
theorem occurs_of_not_turns {before word after : List Char} (h : ¬ SigmaTurns before word after) :
    ∃ first last, lowerFrom [] (before ++ word ++ after) = first ++ lowerFrom [] word ++ last := by
  rw [lowerFrom_parts, lowerWithin_alone_iff.mpr h]
  exact ⟨_, _, rfl⟩

/-! ## §3. Texts in which a sigma can turn. -/

/-- A capital sigma that has no letter beyond it on one side, and whose form is
up to what that side goes on with. -/
inductive SigmaAtEdge (word : List Char) : Prop where
  /-- The last letter of a text, with a letter before it. -/
  | ending {first last : List Char} (hword : word = first ++ 'Σ' :: last)
      (hfirst : meetsCased first.reverse = true) (hlast : AllMarks last)
  /-- The first letter of a text, with no letter after it. -/
  | starting {first last : List Char} (hword : word = first ++ 'Σ' :: last)
      (hfirst : AllMarks first) (hlast : meetsCased last = false)

/-- Whatever a text stands in, a sigma turns only if it is at the edge. -/
theorem sigmaAtEdge_of_turns {before word after : List Char} (h : SigmaTurns before word after) :
    SigmaAtEdge word := by
  cases h with
  | ending hword hfirst hlast => exact .ending hword hfirst hlast
  | @starting first last hword hfirst hlast =>
    refine .starting hword hfirst ?_
    by_cases hmarks : AllMarks last
    · exact not_meetsCased_of_allMarks hmarks
    · rw [← meetsCased_of_not_allMarks hmarks after]
      exact hlast

/-- Only a text with a capital sigma has one at its edge. -/
theorem mem_of_sigmaAtEdge {word : List Char} (h : SigmaAtEdge word) : 'Σ' ∈ word := by
  cases h with
  | ending hword => rw [hword]; simp
  | starting hword => rw [hword]; simp

/-- A letter that is its own lower-case form. -/
structure IsPlainLetter (c : Char) : Prop where
  ne_sigma : c ≠ 'Σ'
  form : lowerChar c = [c]
  cased : meetsCased [c] = true

/-- There is more than one plain letter, so that some is not the given character. -/
theorem exists_plainLetter (d : Option Char) : ∃ c, IsPlainLetter c ∧ d ≠ some c := by
  have ha : IsPlainLetter 'a' := ⟨by decide, by decide +kernel, by decide +kernel⟩
  have hb : IsPlainLetter 'b' := ⟨by decide, by decide +kernel, by decide +kernel⟩
  by_cases hd : d = some 'a'
  · exact ⟨'b', hb, by rw [hd]; decide⟩
  · exact ⟨'a', ha, hd⟩

theorem IsPlainLetter.lowerFrom_concat {c : Char} (hc : IsPlainLetter c) (word : List Char) :
    lowerFrom [] (word ++ [c]) = lowerWithin [] [c] word ++ [c] := by
  rw [lowerFrom_append, lowerFrom, if_neg hc.ne_sigma, hc.form, lowerFrom, List.append_nil]

theorem IsPlainLetter.lowerFrom_cons {c : Char} (hc : IsPlainLetter c) (word : List Char) :
    lowerFrom [] (c :: word) = c :: lowerWithin [c] [] word := by
  rw [lowerFrom, if_neg hc.ne_sigma, hc.form, lowerFrom_eq, List.singleton_append]

/-- What stands within a list and one more element is that list, or ends with
the element. -/
theorem eq_or_getLast?_of_within {xs ys first last : List Char} {c : Char}
    (hlength : xs.length = ys.length) (h : xs ++ [c] = first ++ ys ++ last) :
    xs = ys ∨ ys.getLast? = some c := by
  have hone := congrArg List.length h
  simp only [List.length_append, List.length_singleton] at hone
  cases first with
  | nil =>
    rw [List.nil_append] at h
    exact .inl (List.append_inj_left h hlength)
  | cons d first =>
    rw [List.length_cons] at hone
    obtain rfl : first = [] := List.length_eq_zero_iff.mp (by omega)
    obtain rfl : last = [] := List.length_eq_zero_iff.mp (by omega)
    have hlast := congrArg List.getLast? h
    cases ys with
    | nil => exact .inl (List.length_eq_zero_iff.mp hlength)
    | cons y ys =>
      right
      simpa [List.getLast?_cons] using hlast.symm

/-- **A text with a sigma at its edge stands in a text whose form does not hold
its form.** -/
theorem exists_hidden {word : List Char} (h : SigmaAtEdge word) :
    ∃ before after, ¬ ∃ first last,
      lowerFrom [] (before ++ word ++ after) = first ++ lowerFrom [] word ++ last := by
  have hlength : ∀ before after, (lowerWithin before after word).length
      = (lowerFrom [] word).length := by
    intro before after
    rw [lowerFrom_eq]
    exact length_lowerWithin _ _ _ _ _
  -- a letter on that side turns the sigma, and another one than the form has
  -- at its end does not make up for that
  cases h with
  | ending hword hfirst hlast =>
    obtain ⟨c, hc, hne⟩ := exists_plainLetter (lowerFrom [] word).getLast?
    refine ⟨[], [c], fun hwithin => ?_⟩
    obtain ⟨first, last, heq⟩ := hwithin
    rw [List.nil_append, hc.lowerFrom_concat] at heq
    rcases eq_or_getLast?_of_within (hlength [] [c]) heq with hsame | hends
    · have hkeeps : ¬ SigmaTurns [] word [c] := lowerWithin_alone_iff.mp hsame
      exact hkeeps (.ending hword hfirst hlast hc.cased)
    · exact hne hends
  | @starting before after hword hbefore hafter =>
    obtain ⟨c, hc, hne⟩ := exists_plainLetter (lowerFrom [] word).reverse.getLast?
    refine ⟨[c], [], fun hwithin => ?_⟩
    obtain ⟨first, last, heq⟩ := hwithin
    rw [List.append_nil, List.singleton_append, hc.lowerFrom_cons] at heq
    -- read from the end, the letter comes last again
    have hback := congrArg List.reverse heq
    rw [List.reverse_cons, List.reverse_append, List.reverse_append, ← List.append_assoc] at hback
    have hsize : (lowerWithin [c] [] word).reverse.length = (lowerFrom [] word).reverse.length := by
      rw [List.length_reverse, List.length_reverse, hlength]
    rcases eq_or_getLast?_of_within hsize hback with hsame | hends
    · have hkeeps : ¬ SigmaTurns [c] word [] :=
        lowerWithin_alone_iff.mp (List.reverse_inj.mp hsame)
      exact hkeeps (.starting hword hbefore (by rw [List.append_nil]; exact hafter) hc.cased)
    · exact hne hends

/-- **In whatever it stands, the form of a text is held by the form of that**,
if and only if the text has no sigma at its edge. -/
theorem occurs_everywhere_iff {word : List Char} :
    (∀ before after, ∃ first last,
        lowerFrom [] (before ++ word ++ after) = first ++ lowerFrom [] word ++ last)
      ↔ ¬ SigmaAtEdge word := by
  constructor
  · intro h hedge
    obtain ⟨before, after, hhidden⟩ := exists_hidden hedge
    exact hhidden (h before after)
  · intro h before after
    exact occurs_of_not_turns fun hturns => h (sigmaAtEdge_of_turns hturns)

end DataAccess.Text
