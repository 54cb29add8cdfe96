/-
  DataAccess.Proofs.Sql.LikePattern — LIKE patterns on the machine for texts.

  A LIKE pattern is written in the language of the machine, read back by it
  and run.  Three things could go wrong on this way: a character that means
  something to the machine is taken for itself or the other way round, the
  match does not cover the whole of the text, and a line break stops a
  wildcard.  `LikeMatches` says what a pattern is to match without any of
  this, by its characters alone.

  Main statements:
    * `likeChars_iff`            — the rules of LIKE can be decided;
    * `readParts_likePieces`     — every character of a pattern is read back
                                   as the part that it stands for;
    * `read?_likeText`           — so the whole of it is read as it was meant;
    * `compile_likeText`         — and refused for the size of its machine only;
    * `likeTail_matches_iff`     — its machine matches as the rules say;
    * `occursIn_likeNode`        — a LIKE pattern means what it says.
-/
import DataAccess.Pattern.Reader
import DataAccess.Proofs.Pattern.Matches
import DataAccess.Sql.Like

namespace DataAccess.Sql

open DataAccess.Pattern

/-! ## §1. The rules of LIKE. -/

/-- A pattern matches the whole of a text. -/
inductive LikeMatches : List Char → List Char → Prop where
  /-- The empty pattern matches the empty text. -/
  | nil : LikeMatches [] []
  /-- A percent sign stands for any run of characters. -/
  | run (run : List Char) {ps cs : List Char} (h : LikeMatches ps cs) :
      LikeMatches ('%' :: ps) (run ++ cs)
  /-- An underscore stands for any one character. -/
  | one (c : Char) {ps cs : List Char} (h : LikeMatches ps cs) : LikeMatches ('_' :: ps) (c :: cs)
  /-- Any other character stands for itself. -/
  | self {p : Char} (hrun : p ≠ '%') (hone : p ≠ '_') {ps cs : List Char} (h : LikeMatches ps cs) :
      LikeMatches (p :: ps) (p :: cs)

theorem likeMatches_nil_iff {cs : List Char} : LikeMatches [] cs ↔ cs = [] := by
  constructor
  · intro h
    cases h
    rfl
  · rintro rfl
    exact .nil

theorem likeMatches_run_iff {ps cs : List Char} :
    LikeMatches ('%' :: ps) cs ↔ ∃ run rest, cs = run ++ rest ∧ LikeMatches ps rest := by
  constructor
  · intro h
    cases h with
    | run run h => exact ⟨run, _, rfl, h⟩
    | self hrun => exact absurd rfl hrun
  · rintro ⟨run, rest, rfl, h⟩
    exact .run run h

theorem likeMatches_one_iff {ps cs : List Char} :
    LikeMatches ('_' :: ps) cs ↔ ∃ c rest, cs = c :: rest ∧ LikeMatches ps rest := by
  constructor
  · intro h
    cases h with
    | one c h => exact ⟨c, _, rfl, h⟩
    | self _ hone => exact absurd rfl hone
  · rintro ⟨c, rest, rfl, h⟩
    exact .one c h

theorem likeMatches_self_iff {p : Char} (hrun : p ≠ '%') (hone : p ≠ '_') {ps cs : List Char} :
    LikeMatches (p :: ps) cs ↔ ∃ rest, cs = p :: rest ∧ LikeMatches ps rest := by
  constructor
  · intro h
    cases h with
    | run => exact absurd rfl hrun
    | one => exact absurd rfl hone
    | self _ _ h => exact ⟨_, rfl, h⟩
  · rintro ⟨rest, rfl, h⟩
    exact .self hrun hone h

/-- **The rules of LIKE can be decided.** -/
theorem likeChars_iff {ps cs : List Char} : likeChars ps cs = true ↔ LikeMatches ps cs := by
  induction ps generalizing cs with
  | nil => rw [likeMatches_nil_iff, likeChars, List.isEmpty_iff]
  | cons p ps ih =>
    by_cases hrun : p = '%'
    · rw [hrun, likeChars_percent, likeMatches_run_iff]
      simp only [ih]
    · cases cs with
      | nil =>
        -- every part but a run takes a character
        have hnone : ¬ LikeMatches (p :: ps) [] := by
          intro h
          generalize hcs : ([] : List Char) = cs at h
          cases h with
          | run => exact hrun rfl
          | one => cases hcs
          | self => cases hcs
        simp [likeChars, hrun, hnone]
      | cons c cs =>
        simp only [likeChars, hrun, if_false, Bool.and_eq_true, Bool.or_eq_true,
          decide_eq_true_eq, ih]
        by_cases hone : p = '_'
        · rw [hone, likeMatches_one_iff]
          constructor
          · rintro ⟨-, h⟩
            exact ⟨c, cs, rfl, h⟩
          · rintro ⟨_, _, hsplit, h⟩
            cases hsplit
            exact ⟨.inl rfl, h⟩
        · rw [likeMatches_self_iff hrun hone]
          constructor
          · rintro ⟨hp, h⟩
            obtain rfl : p = c := hp.resolve_left hone
            exact ⟨cs, rfl, h⟩
          · rintro ⟨_, hsplit, h⟩
            cases hsplit
            exact ⟨.inr rfl, h⟩

/-! ## §2. The machine for a pattern. -/

/-- Any character, line breaks too. -/
def anyChar : Node := .char (.compl .empty)

/-- The part that a character of a pattern stands for. -/
def likePart (c : Char) : Node :=
  if c = '%' then .times anyChar 0 none
  else if c = '_' then anyChar
  else .char (.single c)

/-- The parts of a pattern one after the other, up to the end of the text. -/
def likeTail (ps : List Char) : Node :=
  ps.foldr (fun c rest => .cat (likePart c) rest) (.look .stop)

/-- The machine for a pattern, which begins at the start of the text. -/
def likeNode (ps : List Char) : Node := .cat .empty (.cat (.look .start) (likeTail ps))

/-- The machine for a pattern keeps within the limit of the engine. -/
def Fits [Engine] (pattern : String) : Prop :=
  Engine.fits ⟨false, false⟩ (likeText pattern) = true

instance [Engine] (pattern : String) : Decidable (Fits pattern) :=
  inferInstanceAs (Decidable (Engine.fits ⟨false, false⟩ (likeText pattern) = true))

/-! ## §3. Reading a pattern back. -/

/-- What holds in a LIKE pattern: letters match in their own case, and a dot
matches line breaks too. -/
def likeFlags : Flags := ⟨false, false, true, true, false, false⟩

/-- How deep the part of a character is nested. -/
def likeDepth (c : Char) : Nat := if c = '%' then 1 else 0

/-- Adds the parts of a pattern to what has been read. -/
def addLike (s : Progress) (ps : List Char) : Progress :=
  ps.foldl (fun s c => s.add (likePart c) (likeDepth c)) s

theorem skipGap_of_not_spaced {f : Flags} (hf : f.spaced = false) (cs : List Char) :
    skipGap f cs = cs := by
  rw [skipGap, hf]
  rfl

/-- A literal is read as its character in a single step. -/
theorem readParts_literal {s : Progress} (hs : s.flags.spaced = false) (fuel : Nat) (c : Char)
    (rest : List Char) :
    readParts (fuel + 1) s (literal c ++ rest)
      = readParts fuel (s.add (charNode s.flags c) 0) rest := by
  unfold literal
  split
  · next hc =>
    -- escaped, the character is read with its backslash
    show readParts (fuel + 1) s ('\\' :: c :: rest) = _
    rw [readParts]
    simp only [skipGap_of_not_spaced hs, takeEscape?_of_isMeta s.flags hc]
    rfl
  · next hc =>
    -- as it is, the character is none of those that start something else
    show readParts (fuel + 1) s (c :: rest) = _
    rw [readParts]
    simp only [skipGap_of_not_spaced hs]
    split
    all_goals
      next heq =>
      cases heq <;> first
      | rfl
      | exact absurd (by decide) hc

/-- No part of a pattern starts with a question mark, which would belong to a
repetition before it. -/
theorem head?_likePieces (ps : List Char) : (ps.flatMap likePiece ++ ['$']).head? ≠ some '?' := by
  cases ps with
  | nil => decide
  | cons p ps =>
    have hpiece : (likePiece p).head? ≠ some '?' ∧ likePiece p ≠ [] := by
      unfold likePiece
      split
      · decide
      · split
        · decide
        · refine ⟨head?_literal p (by decide) (by decide), ?_⟩
          unfold literal
          split <;> exact List.cons_ne_nil _ _
    obtain ⟨c, cs, hcons⟩ := List.exists_cons_of_ne_nil hpiece.2
    rw [List.flatMap_cons, hcons]
    rw [hcons] at hpiece
    exact hpiece.1

theorem skipLazy_of_head? {cs : List Char} (h : cs.head? ≠ some '?') : skipLazy cs = cs := by
  unfold skipLazy
  split
  · exact absurd rfl h
  · rfl

/-- **Every character of a pattern is read back as the part that it stands
for.** -/
theorem readParts_likePieces {s : Progress} (hs : s.flags = likeFlags) (ps : List Char)
    {fuel : Nat} (hfuel : (ps.flatMap likePiece ++ ['$']).length < fuel) :
    ∃ n, 1 < n ∧ readParts fuel s (ps.flatMap likePiece ++ ['$'])
      = readParts n (addLike s ps) ['$'] := by
  induction ps generalizing s fuel with
  | nil => exact ⟨fuel, hfuel, rfl⟩
  | cons p ps ih =>
    have hgap : s.flags.spaced = false := by rw [hs]; rfl
    rw [List.flatMap_cons, List.append_assoc, List.length_append] at hfuel
    rw [List.flatMap_cons, List.append_assoc]
    show ∃ n, 1 < n ∧ _ = readParts n (addLike (s.add (likePart p) (likeDepth p)) ps) ['$']
    by_cases hrun : p = '%'
    · -- a run is read in two steps: a dot, and its repetition
      subst hrun
      obtain ⟨fuel, rfl⟩ : ∃ k, fuel = k + 2 := ⟨fuel - 2, by simp [likePiece] at hfuel; omega⟩
      have hrest : (ps.flatMap likePiece ++ ['$']).length < fuel := by
        simp [likePiece] at hfuel ⊢
        omega
      obtain ⟨n, hn, hread⟩ := ih (s := s.add (likePart '%') (likeDepth '%')) hs hrest
      refine ⟨n, hn, ?_⟩
      rw [← hread]
      show readParts (fuel + 2) s ('.' :: '*' :: (ps.flatMap likePiece ++ ['$'])) = _
      have hdot : dotNode? s.flags = some anyChar := by rw [hs]; rfl
      rw [readParts]
      simp only [skipGap_of_not_spaced hgap, hdot, Option.map_some]
      have hgap' : (s.add anyChar 0).flags.spaced = false := hgap
      rw [readParts]
      simp only [skipGap_of_not_spaced hgap', skipLazy_of_head? (head?_likePieces ps)]
      rfl
    · obtain ⟨fuel, rfl⟩ : ∃ k, fuel = k + 1 := ⟨fuel - 1, by omega⟩
      by_cases hone : p = '_'
      · subst hone
        have hrest : (ps.flatMap likePiece ++ ['$']).length < fuel := by
          simp [likePiece] at hfuel ⊢
          omega
        obtain ⟨n, hn, hread⟩ := ih (s := s.add (likePart '_') (likeDepth '_')) hs hrest
        refine ⟨n, hn, ?_⟩
        rw [← hread]
        show readParts (fuel + 1) s ('.' :: (ps.flatMap likePiece ++ ['$'])) = _
        have hdot : dotNode? s.flags = some anyChar := by rw [hs]; rfl
        rw [readParts]
        simp only [skipGap_of_not_spaced hgap, hdot, Option.map_some]
        rfl
      · have hpiece : likePiece p = literal p := by rw [likePiece, if_neg hrun, if_neg hone]
        have hpart : charNode s.flags p = likePart p := by
          rw [likePart, if_neg hrun, if_neg hone, hs]
          rfl
        have hdepth : likeDepth p = 0 := if_neg hrun
        have hne : 0 < (literal p).length := by
          unfold literal
          split <;> exact Nat.succ_pos _
        rw [hpiece] at hfuel ⊢
        obtain ⟨n, hn, hread⟩ := ih (s := s.add (likePart p) (likeDepth p)) hs
          (show (ps.flatMap likePiece ++ ['$']).length < fuel by omega)
        refine ⟨n, hn, ?_⟩
        rw [readParts_literal hgap, hpart, ← hread, hdepth]

theorem parts_addLike (s : Progress) (ps : List Char) :
    (addLike s ps).parts
      = (ps.map fun c => (⟨likePart c, false, likeDepth c⟩ : Part)).reverse ++ s.parts := by
  induction ps generalizing s with
  | nil => rfl
  | cons p ps ih =>
    show (addLike (s.add (likePart p) (likeDepth p)) ps).parts = _
    rw [ih, List.map_cons, List.reverse_cons, List.append_assoc]
    rfl

theorem addLike_keeps (s : Progress) (ps : List Char) :
    (addLike s ps).flags = s.flags ∧ (addLike s ps).groups = s.groups
      ∧ (addLike s ps).branches = s.branches := by
  induction ps generalizing s with
  | nil => exact ⟨rfl, rfl, rfl⟩
  | cons p ps ih => exact ih (s.add (likePart p) (likeDepth p))

/-- The parts of a pattern in sequence, the last of them being given. -/
theorem foldr_likeParts (ps : List Char) :
    ∃ d, d ≤ 2 ∧ ps.foldr (fun c (acc : Part) =>
        ⟨.cat (likePart c) acc.node, false, max acc.depth (likeDepth c + 1)⟩)
        (⟨.look .stop, false, 1⟩ : Part)
      = ⟨likeTail ps, false, d⟩ := by
  induction ps with
  | nil => exact ⟨1, by decide, rfl⟩
  | cons p ps ih =>
    obtain ⟨d, hd, heq⟩ := ih
    have hp : likeDepth p ≤ 1 := by
      unfold likeDepth
      split <;> decide
    refine ⟨max d (likeDepth p + 1), by omega, ?_⟩
    rw [List.foldr_cons, heq]
    rfl

/-- What has been read at the start of a pattern: a directive, and a look for
the start of the text. -/
def likeOpened : Progress :=
  ⟨likeFlags, [], [], [⟨.look .start, false, 0⟩, ⟨.empty, true, 0⟩], []⟩

theorem sequence_likeParts (ps : List Char) :
    ∃ d, d ≤ maxDepth
      ∧ Pattern.sequence (⟨.look .stop, false, 0⟩ :: (addLike likeOpened ps).parts)
        = ⟨likeNode ps, false, d⟩ := by
  obtain ⟨d, hd, hfold⟩ := foldr_likeParts ps
  have hmax : max (max d (0 + 1)) (0 + 1) ≤ maxDepth := by
    unfold maxDepth
    omega
  refine ⟨max (max d (0 + 1)) (0 + 1), hmax, ?_⟩
  rw [parts_addLike]
  unfold Pattern.sequence
  split
  · next heq => cases heq
  · next heq => simp [likeOpened] at heq
  · next heq =>
    cases heq
    rw [List.foldl_append, List.foldl_reverse, List.foldr_map, hfold]
    rfl

/-- **A pattern is read as it was meant.** -/
theorem read?_likeText (pattern : String) :
    read? ⟨false, false⟩ (likeText pattern) = some (likeNode pattern.toList) := by
  obtain ⟨cs, hcs⟩ : ∃ cs, cs = pattern.toList := ⟨_, rfl⟩
  have htext : (likeText pattern).toList = likeStart ++ (cs.flatMap likePiece ++ ['$']) := by
    rw [likeText, String.toList_ofList, hcs]
  have hfuel : (cs.flatMap likePiece ++ ['$']).length
      < (cs.flatMap likePiece ++ ['$']).length + 4 := by omega
  obtain ⟨n, hn, hread⟩ := readParts_likePieces (s := likeOpened) rfl cs hfuel
  obtain ⟨n, rfl⟩ : ∃ k, n = k + 2 := ⟨n - 2, by omega⟩
  -- the directive and the caret take two steps, and so do the dollar sign and the end
  have hopen : readParts ((likeText pattern).toList.length + 1)
      ⟨⟨false, false, false, true, false, false⟩, [], [], [], []⟩ (likeText pattern).toList
        = readParts ((cs.flatMap likePiece ++ ['$']).length + 4) likeOpened
          (cs.flatMap likePiece ++ ['$']) := by
    rw [htext, List.length_append]
    show readParts (5 + _ + 1) _ ('(' :: '?' :: 's' :: ')' :: '^' :: _) = _
    rw [show 5 + (cs.flatMap likePiece ++ ['$']).length + 1
      = (cs.flatMap likePiece ++ ['$']).length + 4 + 1 + 1 by omega]
    rfl
  obtain ⟨hflags, hgroups, hbranches⟩ := addLike_keeps likeOpened cs
  obtain ⟨d, hd, hsequence⟩ := sequence_likeParts cs
  have hclose : readParts (n + 2) (addLike likeOpened cs) ['$'] = some ⟨likeNode cs, false, d⟩ := by
    have hgap : (addLike likeOpened cs).flags.spaced = false := by rw [hflags]; rfl
    have hstop : stopLook (addLike likeOpened cs).flags = .stop := by rw [hflags]; rfl
    have hnogroup : (addLike likeOpened cs).groups = [] := hgroups
    have hnobranch : (addLike likeOpened cs).branches = [] := hbranches
    rw [readParts]
    simp only [skipGap_of_not_spaced hgap, hstop]
    rw [readParts]
    have hgap' : ((addLike likeOpened cs).add (.look .stop) 0).flags.spaced = false := hgap
    simp only [skipGap_of_not_spaced hgap']
    simp only [Progress.add, hnogroup, List.isEmpty_nil, if_true, Progress.body, hnobranch, choice]
    rw [← hsequence]
  simp only [read?, ← hcs]
  rw [hopen, hread, hclose]
  simp only [hd, if_true]

/-- **A pattern is refused for the size of its machine only.** -/
theorem compile_likeText [Engine] (pattern : String) :
    Pattern.compile ⟨false, false⟩ (likeText pattern)
      = if Fits pattern then .ok (likeNode pattern.toList) else .error tooLarge := by
  unfold Pattern.compile
  rw [read?_likeText]
  rfl

/-! ## §4. Running a pattern. -/

variable {text : List Char}

theorem mem_anyChar (n : Nat) : (CharSet.compl .empty).mem n = true := rfl

theorem mem_single {c d : Char} : (CharSet.single c).mem d.toNat = true ↔ d = c := by
  simp only [CharSet.single, CharSet.mem, DataAccess.Text.Ranges.contains, List.any_cons,
    List.any_nil, Bool.or_false, Bool.and_eq_true, decide_eq_true_eq]
  constructor
  · intro h
    exact Char.toNat_inj.mp (Nat.le_antisymm h.2 h.1)
  · rintro rfl
    exact ⟨Nat.le_refl _, Nat.le_refl _⟩

/-- Any character leads from a place to the next one. -/
theorem anyChar_matches_iff {i j : Nat} :
    anyChar.Matches text.toArray i j ↔ i < text.length ∧ j = i + 1 := by
  simp only [anyChar, Node.Matches, mem_anyChar, and_true, List.getElem?_toArray]
  refine and_congr_left fun _ => ?_
  constructor
  · rintro ⟨c, hc⟩
    exact (List.getElem?_eq_some_iff.mp hc).1
  · intro hlt
    exact ⟨text[i], List.getElem?_eq_getElem hlt⟩

/-- Any characters lead from a place to each one that far behind it. -/
theorem anyChar_steps {i n : Nat} (h : i + n ≤ text.length) :
    Steps (anyChar.Matches text.toArray) n i (i + n) := by
  induction n generalizing i with
  | zero => rfl
  | succ n ih =>
    have hrest : Steps (anyChar.Matches text.toArray) n (i + 1) (i + 1 + n) := ih (by omega)
    rw [show i + 1 + n = i + (n + 1) by omega] at hrest
    exact ⟨i + 1, anyChar_matches_iff.mpr ⟨by omega, rfl⟩, hrest⟩

/-- Any run of characters leads from a place to every later one. -/
theorem anyRun_matches_iff {i j : Nat} (hi : i ≤ text.length) :
    (Node.times anyChar 0 none).Matches text.toArray i j ↔ i ≤ j ∧ j ≤ text.length := by
  constructor
  · intro h
    have hsize : text.toArray.size = text.length := List.size_toArray
    refine ⟨h.le, ?_⟩
    rw [← hsize] at hi ⊢
    exact Node.matches_within _ i j hi h
  · rintro ⟨hij, hj⟩
    obtain ⟨n, rfl⟩ := Nat.exists_eq_add_of_le hij
    have hmost : ∀ m, (none : Option Nat) = some m → n ≤ max 0 m := by
      intro m hm
      cases hm
    exact ⟨n, Nat.zero_le n, hmost, anyChar_steps hj⟩

/-- What stands behind a place, character by character. -/
theorem drop_eq_cons_iff {i : Nat} {c : Char} {rest : List Char} :
    text.drop i = c :: rest ↔ text[i]? = some c ∧ text.drop (i + 1) = rest := by
  constructor
  · intro h
    have hget : text[i]? = some c := by rw [← List.head?_drop, h, List.head?_cons]
    have htail : text.drop (i + 1) = rest := by rw [← List.tail_drop, h, List.tail_cons]
    exact ⟨hget, htail⟩
  · rintro ⟨hc, rfl⟩
    obtain ⟨hlt, hget⟩ := List.getElem?_eq_some_iff.mp hc
    rw [List.drop_eq_getElem_cons hlt, hget]

/-- The machine for a pattern is that for its first character and, from the
place where this one stops, that for the others. -/
theorem likeTail_cons_matches_iff {i : Nat} {p : Char} {ps : List Char} :
    (∃ j, (likeTail (p :: ps)).Matches text.toArray i j)
      ↔ ∃ k, (likePart p).Matches text.toArray i k
        ∧ ∃ j, (likeTail ps).Matches text.toArray k j := by
  constructor
  · rintro ⟨j, k, hp, hrest⟩
    exact ⟨k, hp, j, hrest⟩
  · rintro ⟨k, hp, j, hrest⟩
    exact ⟨j, k, hp, hrest⟩

/-- **The machine for a pattern matches the rest of a text as the rules of
LIKE say.** -/
theorem likeTail_matches_iff {i : Nat} (hi : i ≤ text.length) (ps : List Char) :
    (∃ j, (likeTail ps).Matches text.toArray i j) ↔ LikeMatches ps (text.drop i) := by
  induction ps generalizing i with
  | nil =>
    rw [likeMatches_nil_iff, List.drop_eq_nil_iff]
    simp only [likeTail, List.foldr_nil, Node.Matches, Look.holds, List.getElem?_toArray,
      Option.isNone_iff_eq_none, List.getElem?_eq_none_iff]
    constructor
    · rintro ⟨_, h, _⟩
      exact h
    · intro h
      exact ⟨i, h, rfl⟩
  | cons p ps ih =>
    rw [likeTail_cons_matches_iff]
    -- a pattern character is a run, a single character, or itself
    by_cases hrun : p = '%'
    · subst hrun
      rw [likeMatches_run_iff]
      simp only [likePart, if_true, anyRun_matches_iff hi]
      constructor
      · rintro ⟨k, ⟨hik, hk⟩, hrest⟩
        refine ⟨(text.drop i).take (k - i), text.drop k, ?_, (ih hk).mp hrest⟩
        have hdrop : text.drop k = (text.drop i).drop (k - i) := by
          rw [List.drop_drop, Nat.add_sub_cancel' hik]
        rw [hdrop, List.take_append_drop]
      · rintro ⟨run, rest, hsplit, h⟩
        have hlen := congrArg List.length hsplit
        rw [List.length_drop, List.length_append] at hlen
        have hk : i + run.length ≤ text.length := by omega
        have hdrop : text.drop (i + run.length) = rest := by
          rw [← List.drop_drop, hsplit, List.drop_left]
        refine ⟨i + run.length, ⟨Nat.le_add_right _ _, hk⟩, (ih hk).mpr ?_⟩
        rwa [hdrop]
    · by_cases hone : p = '_'
      · subst hone
        rw [likeMatches_one_iff]
        simp only [likePart, if_neg hrun, if_true, anyChar_matches_iff, drop_eq_cons_iff]
        constructor
        · rintro ⟨k, ⟨hlt, rfl⟩, hrest⟩
          exact ⟨text[i], text.drop (i + 1), ⟨List.getElem?_eq_getElem hlt, rfl⟩,
            (ih hlt).mp hrest⟩
        · rintro ⟨c, rest, ⟨hc, rfl⟩, h⟩
          have hlt : i < text.length := (List.getElem?_eq_some_iff.mp hc).1
          exact ⟨i + 1, ⟨hlt, rfl⟩, (ih hlt).mpr h⟩
      · rw [likeMatches_self_iff hrun hone]
        simp only [likePart, if_neg hrun, if_neg hone, Node.Matches, mem_single,
          List.getElem?_toArray, drop_eq_cons_iff]
        constructor
        · rintro ⟨k, ⟨⟨c, hc, rfl⟩, rfl⟩, hrest⟩
          have hlt : i < text.length := (List.getElem?_eq_some_iff.mp hc).1
          exact ⟨text.drop (i + 1), ⟨hc, rfl⟩, (ih hlt).mp hrest⟩
        · rintro ⟨rest, ⟨hc, rfl⟩, h⟩
          have hlt : i < text.length := (List.getElem?_eq_some_iff.mp hc).1
          exact ⟨i + 1, ⟨⟨p, hc, rfl⟩, rfl⟩, (ih hlt).mpr h⟩

/-- **A LIKE pattern means what it says**: its machine finds it in a text
exactly if the pattern matches the whole of the text. -/
theorem occursIn_likeNode (ps : List Char) (s : String) :
    (likeNode ps).occursIn s = true ↔ LikeMatches ps s.toList := by
  have hstart : ∀ i, i ≤ s.toList.length →
      (Look.start.holds (before s.toList.toArray i) s.toList.toArray[i]? = true ↔ i = 0) := by
    intro i hi
    cases i with
    | zero => simp [Look.holds, before]
    | succ i => simp [Look.holds, before, List.getElem?_eq_getElem hi]
  rw [Node.occursIn_iff, List.size_toArray, ← List.drop_zero (l := s.toList),
    ← likeTail_matches_iff (Nat.zero_le _), List.drop_zero]
  constructor
  · rintro ⟨i, j, hi, k, rfl, l, ⟨hlook, rfl⟩, htail⟩
    obtain rfl : i = 0 := (hstart i hi).mp hlook
    exact ⟨j, htail⟩
  · rintro ⟨j, htail⟩
    exact ⟨0, j, Nat.zero_le _, 0, rfl, 0, ⟨(hstart 0 (Nat.zero_le _)).mpr rfl, rfl⟩, htail⟩

end DataAccess.Sql
