/-
  DataAccess.Text.Suffixes — the ends of a text, and what stands within it.

  Main statements:
    * `mem_suffixes`  — the suffixes of a text are its ends;
    * `occurs_iff`    — a part occurs in a text if the text is that part with
                        something before and after it.
-/

namespace DataAccess.Text

/-- The characters from each place on, to the empty list at the end. -/
def suffixes : List Char → List (List Char)
  | [] => [[]]
  | c :: cs => (c :: cs) :: suffixes cs

/-- The part stands somewhere within the characters. -/
def occurs (part cs : List Char) : Bool := (suffixes cs).any part.isPrefixOf

@[simp] theorem mem_suffixes {rest cs : List Char} :
    rest ∈ suffixes cs ↔ ∃ run, cs = run ++ rest := by
  induction cs with
  | nil => simp [suffixes]
  | cons c cs ih =>
    simp only [suffixes, List.mem_cons, ih]
    constructor
    · rintro (rfl | ⟨run, rfl⟩)
      · exact ⟨[], rfl⟩
      · exact ⟨c :: run, rfl⟩
    · rintro ⟨run, h⟩
      cases run with
      | nil => exact .inl h.symm
      | cons r run => exact .inr ⟨run, (List.cons.inj h).2⟩

/-- A part occurs in a text if the text is that part with something before
and after it. -/
@[simp] theorem occurs_iff {part cs : List Char} :
    occurs part cs = true ↔ ∃ first last, cs = first ++ part ++ last := by
  simp only [occurs, List.any_eq_true, mem_suffixes, List.isPrefixOf_iff_prefix]
  constructor
  · rintro ⟨rest, ⟨first, rfl⟩, ⟨last, rfl⟩⟩
    exact ⟨first, last, by simp⟩
  · rintro ⟨first, last, rfl⟩
    exact ⟨part ++ last, ⟨first, by simp⟩, ⟨last, rfl⟩⟩

end DataAccess.Text
