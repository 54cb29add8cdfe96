/-
  DataAccess.Sql.Like — patterns of the relational store.

  A percent sign stands for any run of characters, an underscore for exactly
  one, and every other character for itself.  A pattern has to match the
  whole of a text, and letters match in their own case only.

  There is one machine for patterns, and it reads another language.  A LIKE
  pattern is put to it as a text in that language, which asks for the whole
  of a text and lets a dot match line breaks too.

  Main statement:
    * `likeChars_percent`  — a percent sign matches any run of characters.
-/
import DataAccess.Pattern.Literal
import DataAccess.Text.Suffixes

namespace DataAccess.Sql

open DataAccess.Text

/-! ## §1. LIKE patterns as texts for the machine. -/

/-- What a character of a LIKE pattern is put as. -/
def likePiece (c : Char) : List Char :=
  if c = '%' then ['.', '*']
  else if c = '_' then ['.']
  else Pattern.literal c

/-- What LIKE patterns start with: a dot matches line breaks too, and nothing
stands before the match. -/
def likeStart : List Char := ['(', '?', 's', ')', '^']

/-- A LIKE pattern as a text for the machine. -/
def likeText (pattern : String) : String :=
  String.ofList (likeStart ++ (pattern.toList.flatMap likePiece ++ ['$']))

/-! ## §2. What LIKE patterns match. -/

/-- The pattern matches all of the characters. -/
def likeChars : List Char → List Char → Bool
  | [], cs => cs.isEmpty
  | p :: ps, cs =>
      if p = '%' then (suffixes cs).any (likeChars ps)
      else match cs with
        | [] => false
        | c :: rest => (p = '_' || p = c) && likeChars ps rest

/-- The pattern matches the text. -/
def like (pattern text : String) : Bool := likeChars pattern.toList text.toList

/-- A percent sign matches any run of characters. -/
@[simp] theorem likeChars_percent (ps cs : List Char) :
    likeChars ('%' :: ps) cs = true ↔ ∃ run rest, cs = run ++ rest ∧ likeChars ps rest = true := by
  simp only [likeChars, if_true, List.any_eq_true, mem_suffixes]
  constructor
  · rintro ⟨rest, ⟨run, h⟩, hr⟩
    exact ⟨run, rest, h, hr⟩
  · rintro ⟨run, rest, h, hr⟩
    exact ⟨rest, ⟨run, h⟩, hr⟩

end DataAccess.Sql
