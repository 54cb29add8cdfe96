/-
  DataAccess.Pattern.Basic — patterns and the places that they reach.

  A pattern is matched by sets of places.  A place is a number of characters
  of the text that stand before it.  Starting from some places, a pattern
  reaches the places at which a match that begins at one of them ends; it
  occurs in a text if it reaches any place at all from all of them together.

  A repetition need not be counted beyond one more round than the text has
  places, as a match that takes so many rounds passes over nothing in one of
  them.

  Main statements:
    * `mem_join`        — the places of either of two lists;
    * `reach_cat`, `reach_alt` — how patterns are composed;
    * `le_of_mem_reach` — no pattern reaches beyond the end of a text.
-/
import DataAccess.Pattern.CharSet

namespace DataAccess.Pattern

/-! ## §1. Patterns. -/

/-- Where in a word a place lies. -/
inductive WordEdge where
  /-- At the start or at the end of a word. -/
  | boundary
  /-- Anywhere else. -/
  | interior
  | start
  | stop
  /-- No character of a word stands before. -/
  | startHalf
  /-- No character of a word stands after. -/
  | stopHalf
  deriving Repr, DecidableEq

/-- What is asked of a place. -/
inductive Look where
  /-- The start of the text. -/
  | start
  /-- The end of the text. -/
  | stop
  /-- The start of a line; with `crlf`, carriage returns end lines too. -/
  | lineStart (crlf : Bool)
  /-- The end of a line. -/
  | lineStop (crlf : Bool)
  /-- A place in a word, by all the characters of words or those in ASCII. -/
  | word (edge : WordEdge) (unicode : Bool)
  deriving Repr, DecidableEq

/-- A pattern. -/
inductive Node where
  /-- Matches in every place. -/
  | empty
  /-- One character of a set. -/
  | char (s : CharSet)
  | look (l : Look)
  | cat (p q : Node)
  | alt (p q : Node)
  /-- At least `least` times and at most `most` times, if there is a most. -/
  | times (p : Node) (least : Nat) (most : Option Nat)

instance : Inhabited Node := ⟨.empty⟩

/-! ## §2. Places. -/

/-- The character belongs to a word. -/
def isWordChar (unicode : Bool) (c : Option Char) : Bool :=
  match c with
  | some c => (if unicode then wordSet else asciiWordSet).mem c.toNat
  | none => false

namespace WordEdge

/-- A place lies so, given whether words reach up to it from both sides. -/
def holds (e : WordEdge) (before after : Bool) : Bool :=
  match e with
  | boundary => before ^^ after
  | interior => before == after
  | start => !before && after
  | stop => before && !after
  | startHalf => !before
  | stopHalf => !after

end WordEdge

namespace Look

/-- A place is as asked, given the characters at its two sides. -/
def holds (l : Look) (before after : Option Char) : Bool :=
  match l with
  | start => before.isNone
  | stop => after.isNone
  | lineStart false => before.isNone || before == some '\n'
  | lineStop false => after.isNone || after == some '\n'
  | lineStart true =>
      before.isNone || before == some '\n' || (before == some '\r' && after != some '\n')
  | lineStop true =>
      after.isNone || after == some '\r' || (after == some '\n' && before != some '\r')
  | word edge unicode => edge.holds (isWordChar unicode before) (isWordChar unicode after)

end Look

/-- The places of two lists, each once if each list has it once. -/
def join (S T : List Nat) : List Nat := S ++ T.filter fun i => !S.contains i

@[simp] theorem mem_join {S T : List Nat} {i : Nat} : i ∈ join S T ↔ i ∈ S ∨ i ∈ T := by
  simp only [join, List.mem_append, List.mem_filter, List.contains_eq_mem, Bool.not_eq_true',
    decide_eq_false_iff_not]
  constructor
  · rintro (h | h)
    · exact .inl h
    · exact .inr h.1
  · rintro (h | h)
    · exact .inl h
    · by_cases hs : i ∈ S
      · exact .inl hs
      · exact .inr ⟨h, hs⟩

/-- Takes exactly so many steps. -/
def march (step : List Nat → List Nat) : Nat → List Nat → List Nat
  | 0, S => S
  | k + 1, S => march step k (step S)

/-- Adds what at most so many further steps reach; only the places that were
new in one step are gone on from in the next. -/
def spread (step : List Nat → List Nat) : Nat → List Nat → List Nat → List Nat
  | 0, _, seen => seen
  | k + 1, latest, seen =>
      let fresh := (step latest).filter fun i => !seen.contains i
      if fresh.isEmpty then seen else spread step k fresh (seen ++ fresh)

/-- The character before a place. -/
def before (text : Array Char) : Nat → Option Char
  | 0 => none
  | i + 1 => text[i]?

namespace Node

/-- The places reached from the given places. -/
def reach (text : Array Char) : Node → List Nat → List Nat
  | empty, S => S
  | char s, S => (S.filter fun i => match text[i]? with
      | some c => s.mem c.toNat
      | none => false).map (· + 1)
  | look l, S => S.filter fun i => l.holds (before text i) text[i]?
  | cat p q, S => q.reach text (p.reach text S)
  | alt p q, S => join (p.reach text S) (q.reach text S)
  | times p least most, S =>
      let rounds := text.size + 1
      let start := march (p.reach text) (min least rounds) S
      let further := match most with
        | some m => min (m - least) rounds
        | none => rounds
      spread (p.reach text) further start start

/-- The pattern matches somewhere in the text. -/
def occursIn (p : Node) (s : String) : Bool :=
  let text := s.toList.toArray
  !(p.reach text (List.range (text.size + 1))).isEmpty

@[simp] theorem reach_cat (text : Array Char) (p q : Node) (S : List Nat) :
    (cat p q).reach text S = q.reach text (p.reach text S) := rfl

@[simp] theorem reach_alt (text : Array Char) (p q : Node) (S : List Nat) :
    (alt p q).reach text S = join (p.reach text S) (q.reach text S) := rfl

/-! ## §3. Bounds. -/

theorem forall_mem_march {P : Nat → Prop} {step : List Nat → List Nat}
    (hstep : ∀ S, (∀ i ∈ S, P i) → ∀ i ∈ step S, P i) (k : Nat) {S : List Nat}
    (hS : ∀ i ∈ S, P i) : ∀ i ∈ march step k S, P i := by
  induction k generalizing S with
  | zero => exact hS
  | succ k ih => exact ih (hstep S hS)

theorem forall_mem_spread {P : Nat → Prop} {step : List Nat → List Nat}
    (hstep : ∀ S, (∀ i ∈ S, P i) → ∀ i ∈ step S, P i) (k : Nat) {latest seen : List Nat}
    (hl : ∀ i ∈ latest, P i) (hs : ∀ i ∈ seen, P i) : ∀ i ∈ spread step k latest seen, P i := by
  induction k generalizing latest seen with
  | zero => exact hs
  | succ k ih =>
    have hfresh : ∀ i ∈ (step latest).filter fun i => !seen.contains i, P i :=
      fun i hi => hstep latest hl i (List.mem_filter.mp hi).1
    simp only [spread]
    split
    · exact hs
    · refine ih hfresh fun i hi => ?_
      rcases List.mem_append.mp hi with hi | hi
      · exact hs i hi
      · exact hfresh i hi

/-- No pattern reaches beyond the end of a text. -/
theorem le_of_mem_reach (text : Array Char) (p : Node) {S : List Nat}
    (hS : ∀ i ∈ S, i ≤ text.size) : ∀ i ∈ p.reach text S, i ≤ text.size := by
  induction p generalizing S with
  | empty => exact hS
  | char s =>
    intro i hi
    simp only [reach, List.mem_map, List.mem_filter] at hi
    obtain ⟨j, ⟨_, hc⟩, rfl⟩ := hi
    by_cases hj : j < text.size
    · exact hj
    · simp [Array.getElem?_eq_none (Nat.le_of_not_lt hj)] at hc
  | look l => exact fun i hi => hS i (List.mem_filter.mp hi).1
  | cat p q ihp ihq => exact ihq (ihp hS)
  | alt p q ihp ihq =>
    intro i hi
    rcases mem_join.mp hi with hi | hi
    · exact ihp hS i hi
    · exact ihq hS i hi
  | times p least most ih =>
    have hmarch := forall_mem_march (fun S hS => ih hS) (min least (text.size + 1)) hS
    exact forall_mem_spread (fun S hS => ih hS) _ hmarch hmarch

end Node

end DataAccess.Pattern
