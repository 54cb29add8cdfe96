/-
  DataAccess.Pattern.Reader — patterns from their text.

  A text is read part by part with a stack of the groups that are open.  A
  pattern is refused if it is malformed or nested too deep, and also if the
  machine for it is too large.  How large a machine is, and in what words a
  malformed pattern is refused, is up to the engine.

  Main statement:
    * `compile_ok_iff` — a pattern is taken if it is read and its machine is not
                         too large.
-/
import DataAccess.Pattern.Bracket

namespace DataAccess.Pattern

open DataAccess.Text

/-! ## §1. Parts. -/

/-- A part of a pattern; a directive sets flags and matches nothing by itself. -/
structure Part where
  node : Node
  directive : Bool
  /-- How deep its groups, lists and brackets are nested. -/
  depth : Nat

/-- The parts of a list, last first, one after the other. -/
def sequence (parts : List Part) : Part :=
  match parts with
  | [] => ⟨.empty, false, 0⟩
  | [p] => ⟨p.node, false, p.depth⟩
  | last :: parts =>
      parts.foldl (fun acc p => ⟨.cat p.node acc.node, false, max acc.depth (p.depth + 1)⟩)
        ⟨last.node, false, last.depth + 1⟩

/-- A choice among alternatives, last first. -/
def choice (branches : List Part) (last : Part) : Part :=
  match branches with
  | [] => last
  | _ => branches.foldl (fun acc p => ⟨.alt p.node acc.node, false, max acc.depth (p.depth + 1)⟩)
      ⟨last.node, false, last.depth + 1⟩

/-- A group that is open: the flags that hold after it, and the alternatives
and the parts before it. -/
structure Group where
  flags : Flags
  branches : List Part
  parts : List Part

/-- What has been read. -/
structure Progress where
  flags : Flags
  groups : List Group
  branches : List Part
  parts : List Part
  /-- The names of groups so far. -/
  names : List (List Char)

namespace Progress

/-- Adds a part. -/
def add (s : Progress) (node : Node) (depth : Nat) : Progress :=
  { s with parts := ⟨node, false, depth⟩ :: s.parts }

/-- Ends an alternative. -/
def endBranch (s : Progress) : Progress :=
  { s with branches := sequence s.parts :: s.branches, parts := [] }

/-- Opens a group under flags of its own. -/
def openGroup (s : Progress) (flags : Flags) : Progress :=
  { s with
    flags, groups := ⟨s.flags, s.branches, s.parts⟩ :: s.groups, branches := [], parts := [] }

/-- The choice among the alternatives since the innermost open group. -/
def body (s : Progress) : Part := choice s.branches (sequence s.parts)

/-- Closes the innermost group, none if none is open. -/
def closeGroup? (s : Progress) : Option Progress :=
  match s.groups with
  | [] => none
  | g :: groups =>
      some { s with
        flags := g.flags, groups, branches := g.branches
        parts := ⟨s.body.node, false, s.body.depth + 1⟩ :: g.parts }

/-- Repeats the last part, none if there is none or if it is a directive. -/
def repeat? (s : Progress) (least : Nat) (most : Option Nat) : Option Progress :=
  match s.parts with
  | p :: parts =>
      if p.directive then none
      else some { s with parts := ⟨.times p.node least most, false, p.depth + 1⟩ :: parts }
  | [] => none

end Progress

/-! ## §2. Counts. -/

/-- A count in decimal digits, blanks around it passed over, and the rest. -/
def takeCount? (f : Flags) (cs : List Char) : Option (Nat × List Char) :=
  let (digits, rest) := takeRun f isDigit (cs.dropWhile isBlank)
  let n := decimalValue digits
  if digits.isEmpty ∨ UInt32.size ≤ n then none else some (n, rest.dropWhile isBlank)

/-- The counts of a repetition after its opening brace: one count, a least
count, or a least and a most count. -/
def takeCounts? (f : Flags) (cs : List Char) : Option (Nat × Option Nat × List Char) := do
  let (least, rest) ← takeCount? f (skipGap f cs)
  match rest with
  | '\x7d' :: rest => return (least, some least, skipGap f rest)
  | ',' :: rest =>
      match skipGap f rest with
      | '\x7d' :: rest => return (least, none, skipGap f rest)
      | rest =>
          let (most, rest) ← takeCount? f rest
          let '\x7d' :: rest := rest | none
          if least ≤ most then return (least, some most, skipGap f rest) else none
  | _ => none

/-- Passes over the mark of a repetition that takes as little as it can. -/
def skipLazy : List Char → List Char
  | '?' :: cs => cs
  | cs => cs

/-! ## §3. Groups. -/

/-- The characters of the names of groups. -/
def isNameChar (first : Bool) (c : Char) : Bool :=
  c = '_' || (propertySet "alphabetic").mem c.toNat
    || (!first && (c = '.' || c = '[' || c = ']'
      || (CharSet.ranges (["nd", "nl", "no"].flatMap categoryRanges)).mem c.toNat))

/-- The name of a group up to its closing angle, and the rest. -/
def takeName? (cs : List Char) : Option (List Char × List Char) := do
  let (name, rest) ← cutAt? '>' cs
  match name with
  | [] => none
  | c :: more =>
      if isNameChar true c && more.all (isNameChar false) then some (name, rest) else none

/-- Flags up to a colon or a closing parenthesis: the flags, whether there
were any, whether a group follows, and the rest.  No flag and no minus may
come twice, and no minus may come last. -/
def takeFlags? (f : Flags) (seen : List Char) (minus dangling : Bool) :
    List Char → Option (Flags × Bool × Bool × List Char)
  | [] => none
  | ':' :: cs => if dangling then none else some (f, !seen.isEmpty, true, cs)
  | ')' :: cs => if dangling then none else some (f, !seen.isEmpty, false, cs)
  | '-' :: cs => if minus then none else takeFlags? f seen true true cs
  | c :: cs =>
      if seen.contains c then none
      else match f.set? c (!minus) with
        | some f => takeFlags? f (c :: seen) minus false cs
        | none => none

/-- Opens a group with a name, after the angle that starts the name. -/
def openNamed? (s : Progress) (cs : List Char) : Option (Progress × List Char) := do
  let (name, rest) ← takeName? cs
  if s.names.contains name then none
  return ({ s.openGroup s.flags with names := name :: s.names }, rest)

/-- What an opening parenthesis starts: a group, a group with a name, a group
under flags, or a directive; never a look around. -/
def takeGroup? (s : Progress) (cs : List Char) : Option (Progress × List Char) :=
  match skipGap s.flags cs with
  | '?' :: '=' :: _ => none
  | '?' :: '!' :: _ => none
  | '?' :: '<' :: '=' :: _ => none
  | '?' :: '<' :: '!' :: _ => none
  | '?' :: 'P' :: '<' :: rest => openNamed? s rest
  | '?' :: '<' :: rest => openNamed? s rest
  | '?' :: rest =>
      match takeFlags? s.flags [] false false rest with
      | some (flags, _, true, rest) => some (s.openGroup flags, rest)
      | some (flags, true, false, rest) =>
          some ({ s with flags, parts := ⟨.empty, true, 0⟩ :: s.parts }, rest)
      | _ => none
  | rest => some (s.openGroup s.flags, rest)

/-! ## §4. Patterns. -/

/-- The part that a character stands for. -/
def charNode (f : Flags) (c : Char) : Node := .char (f.fold (.single c))

/-- The part that an escape stands for. -/
def Escape.node (f : Flags) : Escape → Node
  | .char c => charNode f c
  | .set s => .char s
  | .look l => .look l

/-- What a dot matches.  Outside of Unicode it would match single bytes, and
there is no such pattern. -/
def dotNode? (f : Flags) : Option Node :=
  if !f.unicode then none
  else if f.dotAll then some (.char (.compl .empty))
  else if f.crlf then some (.char (.compl (.ranges [(0xA, 0xA), (0xD, 0xD)])))
  else some (.char (.compl (.single '\n')))

/-- What a caret looks for. -/
def startLook (f : Flags) : Look := if f.multiLine then .lineStart f.crlf else .start

/-- What a dollar sign looks for. -/
def stopLook (f : Flags) : Look := if f.multiLine then .lineStop f.crlf else .stop

/-- Reads on in at most so many steps. -/
def readParts : Nat → Progress → List Char → Option Part
  | 0, _, _ => none
  | fuel + 1, s, cs =>
      let f := s.flags
      let next := fun (r : Option (Progress × List Char)) =>
        match r with
        | some (s, rest) => readParts fuel s rest
        | none => none
      match skipGap f cs with
      | [] => if s.groups.isEmpty then some s.body else none
      | '(' :: rest => next (takeGroup? s rest)
      | ')' :: rest => next (s.closeGroup?.map (·, rest))
      | '|' :: rest => readParts fuel s.endBranch rest
      | '[' :: rest =>
          next ((takeBracket? f rest).map fun (set, depth, rest) => (s.add (.char set) depth, rest))
      | '?' :: rest => next ((s.repeat? 0 (some 1)).map (·, skipLazy rest))
      | '*' :: rest => next ((s.repeat? 0 none).map (·, skipLazy rest))
      | '+' :: rest => next ((s.repeat? 1 none).map (·, skipLazy rest))
      | '\x7b' :: rest =>
          next (do
            let (least, most, rest) ← takeCounts? f rest
            return (← s.repeat? least most, skipLazy rest))
      | '\\' :: rest =>
          next ((takeEscape? f rest).map fun (e, rest) => (s.add (e.node f) 0, rest))
      | '.' :: rest => next ((dotNode? f).map fun node => (s.add node 0, rest))
      | '^' :: rest => readParts fuel (s.add (.look (startLook f)) 0) rest
      | '$' :: rest => readParts fuel (s.add (.look (stopLook f)) 0) rest
      | c :: rest => readParts fuel (s.add (charNode f c) 0) rest

/-- How deep a pattern may be nested. -/
def maxDepth : Nat := 250

/-- What is said of a whole pattern beforehand. -/
structure Options where
  ignoreCase : Bool
  multiLine : Bool
  deriving Repr, DecidableEq

/-- The pattern that a text writes, none if it writes none.  Every step takes a
character, so one step more than characters is enough. -/
def read? (o : Options) (text : String) : Option Node :=
  let cs := text.toList
  let start : Progress :=
    ⟨⟨o.ignoreCase, o.multiLine, false, true, false, false⟩, [], [], [], []⟩
  match readParts (cs.length + 1) start cs with
  | some p => if p.depth ≤ maxDepth then some p.node else none
  | none => none

/-! ## §5. The machine. -/

/-- What is left open about the machine that patterns are run on. -/
class Engine where
  /-- The machine for the pattern keeps within the limit on its size. -/
  fits : Options → String → Bool
  /-- The words in which a text that writes no pattern is refused. -/
  complaint : Options → String → String

/-- How many bytes a machine may take up. -/
def sizeLimit : Nat := 10 * 1024 * 1024

/-- The words in which a pattern is refused whose machine is too large. -/
def tooLarge : String := "Compiled regex exceeds size limit of " ++ toString sizeLimit ++ " bytes."

/-- The pattern of a text, if the machine takes it; what is said otherwise. -/
def compile [Engine] (o : Options) (text : String) : Except String Node :=
  match read? o text with
  | none => .error (Engine.complaint o text)
  | some p => if Engine.fits o text then .ok p else .error tooLarge

/-- A pattern is taken if it is read and its machine is not too large. -/
theorem compile_ok_iff [Engine] {o : Options} {text : String} {p : Node} :
    compile o text = .ok p ↔ read? o text = some p ∧ Engine.fits o text = true := by
  unfold compile
  cases read? o text with
  | none => simp
  | some q =>
    by_cases hfits : Engine.fits o text = true
    · simp [hfits]
    · simp [hfits]

end DataAccess.Pattern
