/-
  DataAccess.Pattern.Literal — characters that stand for themselves.

  Some characters mean something in the text of a pattern.  Such a character
  stands for itself behind a backslash; all others stand for themselves as
  they are.

  Main statements:
    * `takeEscape?_of_isMeta` — a character with a meaning may be escaped;
    * `head?_literal`         — no literal starts with a bare character that
                                means something.
-/
import DataAccess.Pattern.Escape

namespace DataAccess.Pattern

/-- The characters that mean something in a pattern. -/
def metaChars : List Char := "\\.+*?()|[]\x7b\x7d^$#&-~".toList

/-- The character means something in a pattern. -/
def isMeta (c : Char) : Bool := metaChars.contains c

/-- The text of the pattern that matches this character alone. -/
def literal (c : Char) : List Char := if isMeta c then ['\\', c] else [c]

/-- The characters with a meaning are ASCII signs, and no angle is among them. -/
theorem sign_of_isMeta {c : Char} (h : isMeta c = true) :
    c.toNat < 0x80 ∧ c.isAlphanum = false ∧ c ≠ '<' ∧ c ≠ '>' := by
  have hall : metaChars.all (fun d =>
      decide (d.toNat < 0x80 ∧ d.isAlphanum = false ∧ d ≠ '<' ∧ d ≠ '>')) = true := by
    decide
  exact of_decide_eq_true (List.all_eq_true.mp hall c (List.contains_iff_mem.mp h))

/-- A character with a meaning may be escaped to stand for itself. -/
theorem takeEscape?_of_isMeta (f : Flags) {c : Char} (h : isMeta c = true) (cs : List Char) :
    takeEscape? f (c :: cs) = some (.char c, cs) := by
  obtain ⟨hascii, halnum, hl, hr⟩ := sign_of_isMeta h
  have hshort : shortEscape? f c = some (.char c) := shortEscape?_self f hascii halnum hl hr
  -- only letters have escapes that take more than one character
  unfold takeEscape?
  split
  · next heq => cases heq
  all_goals
    next heq =>
    cases heq
    first
    | exact absurd halnum (by decide)
    | rw [hshort]; rfl

/-- No literal starts with a bare character that means something. -/
theorem head?_literal (c : Char) {d : Char} (hd : d ≠ '\\') (h : isMeta d = true) :
    (literal c).head? ≠ some d := by
  unfold literal
  split
  · simpa using hd.symm
  · next hc =>
    intro heq
    rw [List.head?_cons, Option.some.injEq] at heq
    exact hc (heq ▸ h)

end DataAccess.Pattern
