/-
  DataAccess.FieldPath — dotted field names.

  A field name is a path of segments with dots between them.  Names are
  spliced into statements as they are, so a segment may only hold ASCII
  letters, digits and underscores and may not start with a digit.

  Main statements:
    * `splitDots_ne_nil`    — a path has at least one segment;
    * `splitDots_append`    — a dot separates the segments on its two sides;
    * `segments_of_not_mem` — a path without dots is its only segment;
    * `isFieldName_empty`   — the empty text is no field name;
    * `isNameChar_of_isFieldName` — a field name holds letters, digits,
                              underscores and dots only.
-/

namespace DataAccess.FieldPath

/-- The texts between dots; `segment` holds the characters since the last
dot, last first. -/
def splitDotsFrom (segment : List Char) : List Char → List (List Char)
  | [] => [segment.reverse]
  | c :: cs =>
      if c = '.' then segment.reverse :: splitDotsFrom [] cs
      else splitDotsFrom (c :: segment) cs

/-- The texts between the dots of a text. -/
def splitDots (cs : List Char) : List (List Char) := splitDotsFrom [] cs

/-- The segments of a path. -/
def segments (path : String) : List String := (splitDots path.toList).map String.ofList

/-- A character with which a segment may start. -/
def isSegmentStart (c : Char) : Bool := c.isAlpha || c = '_'

/-- A character of a segment. -/
def isSegmentChar (c : Char) : Bool := c.isAlphanum || c = '_'

/-- A segment of a field name. -/
def isSegment : List Char → Bool
  | [] => false
  | c :: cs => isSegmentStart c && cs.all isSegmentChar

/-- A field name: segments with dots between them. -/
def isFieldName (path : String) : Bool := (splitDots path.toList).all isSegment

theorem splitDotsFrom_ne_nil (segment cs : List Char) : splitDotsFrom segment cs ≠ [] := by
  induction cs generalizing segment with
  | nil => simp [splitDotsFrom]
  | cons c cs ih =>
    unfold splitDotsFrom
    split
    · simp
    · exact ih _

/-- A path has at least one segment. -/
theorem splitDots_ne_nil (cs : List Char) : splitDots cs ≠ [] := splitDotsFrom_ne_nil [] cs

theorem splitDotsFrom_append (segment as bs : List Char) :
    splitDotsFrom segment (as ++ '.' :: bs) = splitDotsFrom segment as ++ splitDots bs := by
  induction as generalizing segment with
  | nil => simp [splitDotsFrom, splitDots]
  | cons a as ih =>
    simp only [List.cons_append, splitDotsFrom]
    split
    · simp [ih]
    · exact ih _

/-- A dot separates the segments on its two sides. -/
theorem splitDots_append (as bs : List Char) :
    splitDots (as ++ '.' :: bs) = splitDots as ++ splitDots bs :=
  splitDotsFrom_append [] as bs

theorem splitDotsFrom_of_not_mem (segment : List Char) {cs : List Char} (h : '.' ∉ cs) :
    splitDotsFrom segment cs = [segment.reverse ++ cs] := by
  induction cs generalizing segment with
  | nil => rw [splitDotsFrom, List.append_nil]
  | cons c cs ih =>
    rw [List.mem_cons, not_or] at h
    rw [splitDotsFrom, if_neg (fun hc => h.1 hc.symm), ih _ h.2, List.reverse_cons,
      List.append_assoc, List.singleton_append]

/-- A text without dots is not split. -/
theorem splitDots_of_not_mem {cs : List Char} (h : '.' ∉ cs) : splitDots cs = [cs] :=
  splitDotsFrom_of_not_mem [] h

/-- A path without dots is its only segment. -/
theorem segments_of_not_mem {path : String} (h : '.' ∉ path.toList) : segments path = [path] := by
  rw [segments, splitDots_of_not_mem h, List.map_singleton, String.ofList_toList]

/-- The empty text is no field name. -/
@[simp] theorem isFieldName_empty : isFieldName "" = false := by decide

/-- A character that may stand in a field name. -/
def isNameChar (c : Char) : Bool := c = '.' || isSegmentChar c

/-- Splitting loses nothing but the dots. -/
theorem mem_splitDotsFrom {segment cs : List Char} {c : Char} (hd : c ≠ '.')
    (hc : c ∈ segment ∨ c ∈ cs) : ∃ s ∈ splitDotsFrom segment cs, c ∈ s := by
  induction cs generalizing segment with
  | nil =>
    rcases hc with hc | hc
    · exact ⟨segment.reverse, by simp [splitDotsFrom], List.mem_reverse.mpr hc⟩
    · cases hc
  | cons a as ih =>
    simp only [splitDotsFrom]
    split
    · next ha =>
      rcases hc with hc | hc
      · exact ⟨segment.reverse, List.mem_cons_self, List.mem_reverse.mpr hc⟩
      · rcases List.mem_cons.mp hc with rfl | hc
        · exact absurd ha hd
        · obtain ⟨s, hs, hcs⟩ := ih (.inr hc)
          exact ⟨s, List.mem_cons_of_mem _ hs, hcs⟩
    · apply ih
      rcases hc with hc | hc
      · exact .inl (List.mem_cons_of_mem _ hc)
      · rcases List.mem_cons.mp hc with rfl | hc
        · exact .inl List.mem_cons_self
        · exact .inr hc

theorem isSegmentChar_of_isSegment {s : List Char} (h : isSegment s = true) :
    ∀ c ∈ s, isSegmentChar c = true := by
  cases s with
  | nil => simp
  | cons a as =>
    simp only [isSegment, Bool.and_eq_true, List.all_eq_true] at h
    have ha : isSegmentChar a = true := by
      have h' := h.1
      simp only [isSegmentStart, isSegmentChar, Char.isAlphanum, Bool.or_eq_true] at h' ⊢
      exact h'.imp_left .inl
    intro c hc
    rcases List.mem_cons.mp hc with rfl | hc
    · exact ha
    · exact h.2 c hc

/-- A field name holds letters, digits, underscores and dots only. -/
theorem isNameChar_of_isFieldName {path : String} (h : isFieldName path = true) :
    ∀ c ∈ path.toList, isNameChar c = true := by
  intro c hc
  by_cases hd : c = '.'
  · simp [isNameChar, hd]
  · have hmem : c ∈ [] ∨ c ∈ path.toList := .inr hc
    obtain ⟨s, hs, hcs⟩ := mem_splitDotsFrom hd hmem
    have hseg := isSegmentChar_of_isSegment (List.all_eq_true.mp h s hs) c hcs
    simp [isNameChar, hseg]

end DataAccess.FieldPath
