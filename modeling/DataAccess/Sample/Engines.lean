/-
  DataAccess.Sample.Engines — one way to settle what is left open.

  What a pattern engine, a sorter and a reader of JSON texts do beyond their
  contracts is a parameter of everything that uses them.  Here is one of each,
  for values that can be looked at: an engine that takes patterns up to a
  length, a sorter that puts a few elements into place one by one whatever they
  are compared by and panics over more of them if they are in no order, and a
  reader that never tells where a text breaks.

  Main statement:
    * `sort_eq_none` — the sorter panics over many elements in no order.
-/
import DataAccess.Json.Basic
import DataAccess.Pattern.Reader
import DataAccess.Sorting

namespace DataAccess.Sample

/-- How long a pattern may be. -/
def maxPatternLength : Nat := 10000

/-- An engine that goes by the length of a pattern. -/
scoped instance : Pattern.Engine where
  fits _ text := decide (text.length ≤ maxPatternLength)
  complaint _ _ := "malformed pattern"

/-- How many elements are put into place one by one. -/
def maxInserted : Nat := 20

/-- An element put into its place among others that stand last first. -/
def placed {α : Type} (cmp : α → α → Ordering) (a : α) : List α → List α
  | [] => [a]
  | b :: bs => if cmp a b = .lt then b :: placed cmp a bs else a :: b :: bs

/-- The elements put into place one by one. -/
def inserted {α : Type} (cmp : α → α → Ordering) (xs : List α) : List α :=
  (xs.foldl (fun others a => placed cmp a others) []).reverse

theorem perm_placed {α : Type} (cmp : α → α → Ordering) (a : α) (bs : List α) :
    (placed cmp a bs).Perm (a :: bs) := by
  induction bs with
  | nil => exact .refl _
  | cons b bs ih =>
    unfold placed
    split
    · exact (ih.cons b).trans (.swap a b bs)
    · exact .refl _

/-- Putting elements into place loses none and adds none. -/
theorem perm_inserted {α : Type} (cmp : α → α → Ordering) (xs : List α) :
    (inserted cmp xs).Perm xs := by
  have hfold : ∀ others : List α,
      (xs.foldl (fun others a => placed cmp a others) others).Perm (xs ++ others) := by
    induction xs with
    | nil => exact fun others => .refl _
    | cons a xs ih =>
      intro others
      refine (ih _).trans (((perm_placed cmp a others).append_left xs).trans ?_)
      exact List.perm_middle
  have hall := hfold []
  rw [List.append_nil] at hall
  exact (List.reverse_perm _).trans hall

/-- A sorter that looks at no more than a few elements in no order. -/
scoped instance : Sorter where
  disordered cmp xs := if xs.length ≤ maxInserted then some (inserted cmp xs) else none
  perm := by
    intro α cmp xs ys h
    split at h
    · obtain rfl := Option.some.inj h
      exact perm_inserted cmp xs
    · cases h

/-- Over more than a few elements in no order it panics. -/
theorem sort_eq_none {α : Type} {cmp : α → α → Ordering} {xs : List α}
    (h : ¬ ConsistentOn cmp xs) (hlength : maxInserted < xs.length) :
    Sorter.sort cmp xs = none := by
  rw [Sorter.sort, if_neg h]
  exact if_neg (Nat.not_le.mpr hlength)

/-- A reader with the same words for every text. -/
scoped instance : Json.Complaints where
  malformed _ _ := "malformed text"
  place _ _ := ""

end DataAccess.Sample
