/-
  DataAccess.Pattern.Bracket — sets of characters written in brackets.

  A bracket lists characters, ranges, escapes, named classes and brackets
  inside it.  Between lists, "&&", "--" and "~~" take what both sides have,
  what only the left side has, and what exactly one side has; they bind
  equally and from the left.  Hyphens that come first are characters, and so
  is a closing bracket that comes first.
-/
import DataAccess.Pattern.Escape

namespace DataAccess.Pattern

open DataAccess.Text

/-! ## §1. What stands in a bracket. -/

/-- A list of items: their union, their number, and how deep they are nested. -/
structure Items where
  set : CharSet
  count : Nat
  depth : Nat

namespace Items

/-- No item yet. -/
def empty : Items := ⟨.empty, 0, 0⟩

/-- Adds an item that is nested so deep. -/
def add (r : Items) (s : CharSet) (depth : Nat) : Items :=
  ⟨.union r.set s, r.count + 1, max r.depth depth⟩

/-- How deep the list itself is nested: several items are a level of their own. -/
def height (r : Items) : Nat := if r.count ≤ 1 then r.depth else r.depth + 1

end Items

/-- What is taken of two sets. -/
inductive SetOperation where
  | both
  | leftOnly
  | oneOnly
  deriving Repr, DecidableEq

/-- The set taken of two sets. -/
def SetOperation.of (op : SetOperation) (s t : CharSet) : CharSet :=
  match op with
  | both => .inter s t
  | leftOnly => s.without t
  | oneOnly => .differ s t

/-- What waits while a bracket is read. -/
inductive Pending where
  /-- A bracket that is open, with the items of the one around it. -/
  | bracket (outer : Items) (negated : Bool)
  /-- An operation with its left side. -/
  | operation (op : SetOperation) (left : CharSet) (depth : Nat)

/-! ## §2. Items. -/

/-- The character that follows a hyphen, blanks and one number sign passed
over if they mean nothing. -/
def peekPast (f : Flags) (cs : List Char) : Option Char :=
  if f.spaced then
    match cs.dropWhile isBlank with
    | '#' :: rest => (rest.dropWhile isBlank).head?
    | rest => rest.head?
  else cs.head?

/-- A character or an escape, and the rest. -/
def takeItem? (f : Flags) : List Char → Option (Escape × List Char)
  | [] => none
  | '\\' :: cs => takeEscape? f cs
  | c :: cs => some (.char c, cs)

/-- The character of an item; outside of Unicode only those in ASCII. -/
def Escape.char? (f : Flags) : Escape → Option Char
  | .char c => if f.unicode || c.toNat < 0x80 then some c else none
  | _ => none

/-- The set of an item. -/
def Escape.set? (f : Flags) : Escape → Option CharSet
  | .set s => some s
  | e => (e.char? f).map .single

/-- A range, or a single item if no range follows, and the rest. -/
def takeRange? (f : Flags) (cs : List Char) : Option (CharSet × List Char) := do
  let (low, rest) ← takeItem? f cs
  match skipGap f rest with
  | [] => none
  | '-' :: rest =>
      if peekPast f rest = some ']' ∨ peekPast f rest = some '-' then
        return (← low.set? f, '-' :: rest)
      else
        let (high, rest) ← takeItem? f (skipGap f rest)
        let a ← low.char? f
        let b ← high.char? f
        if a.toNat ≤ b.toNat then return (.ranges [(a.toNat, b.toNat)], rest) else none
  | rest => return (← low.set? f, rest)

/-- A class by name, after the bracket that opens it: whether its complement
is meant, the class, and the rest. -/
def takeClass? (cs : List Char) : Option (Bool × CharSet × List Char) := do
  let ':' :: cs := cs | none
  let (negated, cs) := match cs with
    | '^' :: cs => (true, cs)
    | _ => (false, cs)
  let (name, rest) ← cutAt? ':' cs
  let ']' :: rest := rest | none
  return (negated, ← asciiClass? (String.ofList name), rest)

/-- Hyphens that come first, and the rest. -/
def takeHyphens (f : Flags) (r : Items) : List Char → Items × List Char
  | [] => (r, [])
  | c :: cs =>
      if c = '-' then takeHyphens f (r.add (.single '-') 0) (skipGap f cs) else (r, c :: cs)
termination_by cs => cs.length
decreasing_by
  have := length_skipGap_le f cs
  simp only [List.length_cons]
  omega

/-- The start of a bracket after it is opened: whether its complement is
meant, the characters that come first, and the rest. -/
def takeOpening (f : Flags) (cs : List Char) : Bool × Items × List Char :=
  let (negated, cs) := match skipGap f cs with
    | '^' :: cs => (true, skipGap f cs)
    | cs => (false, cs)
  let (items, cs) := takeHyphens f .empty cs
  match cs with
  | ']' :: cs =>
      if items.count = 0 then (negated, items.add (.single ']') 0, skipGap f cs)
      else (negated, items, ']' :: cs)
  | cs => (negated, items, cs)

/-! ## §3. Brackets. -/

/-- Completes an operation that waits for its right side. -/
def complete (f : Flags) (stack : List Pending) (items : Items) :
    CharSet × Nat × List Pending :=
  match stack with
  | .operation op left depth :: below =>
      (op.of (f.fold left) (f.fold items.set), 1 + max depth items.height, below)
  | _ => (items.set, items.height, stack)

/-- Reads on in a bracket, in at most so many steps: the set, how deep it is
nested, and the rest after the outermost bracket. -/
def readBracket (f : Flags) : Nat → List Pending → Items → List Char →
    Option (CharSet × Nat × List Char)
  | 0, _, _, _ => none
  | fuel + 1, stack, items, cs =>
      let operate := fun op rest =>
        let (left, depth, below) := complete f stack items
        readBracket f fuel (.operation op left depth :: below) .empty rest
      match skipGap f cs with
      | [] => none
      | '[' :: rest =>
          match takeClass? rest with
          | some (negated, s, rest) =>
              match f.negate? negated (f.fold s) with
              | some s => readBracket f fuel stack (items.add s 0) rest
              | none => none
          | none =>
              let (negated, inner, rest) := takeOpening f rest
              readBracket f fuel (.bracket items negated :: stack) inner rest
      | ']' :: rest =>
          match complete f stack items with
          | (s, depth, .bracket outer negated :: below) =>
              match f.negate? negated (f.fold s) with
              | some s =>
                  if below.isEmpty then some (s, depth + 1, rest)
                  else readBracket f fuel below (outer.add s (depth + 1)) rest
              | none => none
          | _ => none
      | '&' :: '&' :: rest => operate .both rest
      | '-' :: '-' :: rest => operate .leftOnly rest
      | '~' :: '~' :: rest => operate .oneOnly rest
      | cs =>
          match takeRange? f cs with
          | some (s, rest) => readBracket f fuel stack (items.add s 0) rest
          | none => none

/-- A bracket after it is opened.  Every step takes a character, so as many
steps as characters are enough. -/
def takeBracket? (f : Flags) (cs : List Char) : Option (CharSet × Nat × List Char) :=
  let (negated, items, rest) := takeOpening f cs
  readBracket f (rest.length + 1) [.bracket .empty negated] items rest

end DataAccess.Pattern
