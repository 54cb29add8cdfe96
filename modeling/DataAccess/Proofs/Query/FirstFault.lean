/-
  DataAccess.Proofs.Query.FirstFault — which queries make sense, and what is
  said of the others.

  A name is checked by splitting it at its dots and looking at every segment
  by itself.  Said outright, the names that pass are a regular language:

      [A-Za-z_][A-Za-z0-9_]*(\.[A-Za-z_][A-Za-z0-9_]*)*

  And a query is a list of parts, in the order in which they are looked at:
  projected names, each condition with its name before its operands, names to
  sort by, the limit, the offset.  Every part has a fault of its own at most,
  and what is said of a query is the fault of the first part that has one.

  Main statements:
    * `isFieldName_iff`          — the names that pass are that language;
    * `Query.validate_eq_forM`   — a query is checked part by part;
    * `QueryPart.check_error_iff` — what is said of a part is its fault;
    * `Query.validate_decided`   — which queries pass, and the first fault of the
                                   others.
-/
import DataAccess.Proofs.Query.Grammar
import DataAccess.Query.Validation
import Mathlib.Computability.Language

namespace DataAccess

open scoped Computability

/-! ## §1. The language of names. -/

namespace FieldPath

/-- A letter from A to Z, large or small. -/
def IsLetter (c : Char) : Prop := ('A' ≤ c ∧ c ≤ 'Z') ∨ ('a' ≤ c ∧ c ≤ 'z')

/-- A digit from 0 to 9. -/
def IsDigit (c : Char) : Prop := '0' ≤ c ∧ c ≤ '9'

/-- The texts of one character of a class. -/
def single (p : Char → Prop) : Language Char := {w | ∃ c, w = [c] ∧ p c}

/-- Segments: a letter or an underscore, and then letters, digits and
underscores. -/
def segmentWords : Language Char :=
  single (fun c => IsLetter c ∨ c = '_') * (single fun c => IsLetter c ∨ IsDigit c ∨ c = '_')∗

/-- Names: a segment, and then any number of segments behind dots. -/
def nameWords : Language Char := segmentWords * (single (· = '.') * segmentWords)∗

/-- A repeated class is the texts of its characters. -/
theorem mem_kstar_single {p : Char → Prop} {w : List Char} :
    w ∈ (single p)∗ ↔ ∀ c ∈ w, p c := by
  rw [Language.mem_kstar]
  constructor
  · rintro ⟨ws, rfl, hws⟩ c hc
    obtain ⟨u, hu, hcu⟩ := List.mem_flatten.mp hc
    obtain ⟨d, rfl, hd⟩ := hws u hu
    obtain rfl : c = d := List.mem_singleton.mp hcu
    exact hd
  · intro h
    refine ⟨w.map fun c => [c], (List.flatMap_singleton' w).symm, fun u hu => ?_⟩
    obtain ⟨c, hc, rfl⟩ := List.mem_map.mp hu
    exact ⟨c, rfl, h c hc⟩

theorem isSegmentStart_iff (c : Char) : isSegmentStart c = true ↔ IsLetter c ∨ c = '_' := by
  have hletter : c.isAlpha = true ↔ IsLetter c := by
    show (decide ('A' ≤ c ∧ c ≤ 'Z') || (decide ('a' ≤ c) && decide (c ≤ 'z'))) = true ↔ IsLetter c
    simp only [Bool.or_eq_true, Bool.and_eq_true, decide_eq_true_eq, IsLetter]
  rw [isSegmentStart, Bool.or_eq_true, hletter, decide_eq_true_eq]

theorem isSegmentChar_iff (c : Char) :
    isSegmentChar c = true ↔ IsLetter c ∨ IsDigit c ∨ c = '_' := by
  have hdigit : c.isDigit = true ↔ IsDigit c := by
    show (decide ('0' ≤ c) && decide (c ≤ '9')) = true ↔ IsDigit c
    simp only [Bool.and_eq_true, decide_eq_true_eq, IsDigit]
  have hstart := isSegmentStart_iff c
  rw [isSegmentStart, Bool.or_eq_true, decide_eq_true_eq] at hstart
  show ((c.isAlpha || c.isDigit) || decide (c = '_')) = true ↔ _
  rw [Bool.or_eq_true, Bool.or_eq_true, decide_eq_true_eq, hdigit]
  tauto

/-- A segment is told by its first character and the others. -/
theorem mem_segmentWords_iff {w : List Char} : w ∈ segmentWords ↔ isSegment w = true := by
  rw [segmentWords, Language.mem_mul]
  cases w with
  | nil =>
    constructor
    · rintro ⟨_, ⟨c, rfl, -⟩, b, -, h⟩
      cases h
    · intro h
      cases h
  | cons c cs =>
    rw [isSegment, Bool.and_eq_true, List.all_eq_true, isSegmentStart_iff]
    simp only [isSegmentChar_iff]
    constructor
    · rintro ⟨_, ⟨d, rfl, hd⟩, b, hb, h⟩
      obtain ⟨rfl, rfl⟩ := List.cons.inj h
      exact ⟨hd, mem_kstar_single.mp hb⟩
    · rintro ⟨hc, hcs⟩
      exact ⟨[c], ⟨c, rfl, hc⟩, cs, mem_kstar_single.mpr hcs, rfl⟩

/-- Segments with dots in front of all but the first. -/
def joined (first : List Char) (rest : List (List Char)) : List Char :=
  first ++ rest.flatMap ('.' :: ·)

/-- A name is told by its segments. -/
theorem mem_nameWords_iff {w : List Char} :
    w ∈ nameWords ↔ ∃ first rest, w = joined first rest ∧ isSegment first = true
      ∧ ∀ s ∈ rest, isSegment s = true := by
  rw [nameWords, Language.mem_mul]
  constructor
  · rintro ⟨first, hfirst, tail, htail, rfl⟩
    obtain ⟨dotted, rfl, hdotted⟩ := Language.mem_kstar.mp htail
    rw [mem_segmentWords_iff] at hfirst
    -- every word of the tail is a segment behind a dot
    have hrest : ∃ rest : List (List Char), dotted = rest.map ('.' :: ·)
        ∧ ∀ s ∈ rest, isSegment s = true := by
      clear htail
      induction dotted with
      | nil => exact ⟨[], rfl, List.forall_mem_nil _⟩
      | cons u dotted ih =>
        obtain ⟨hu, hmore⟩ := List.forall_mem_cons.mp hdotted
        obtain ⟨_, ⟨c, rfl, rfl⟩, s, hs, rfl⟩ := Language.mem_mul.mp hu
        obtain ⟨rest, rfl, hrest⟩ := ih hmore
        exact ⟨s :: rest, rfl,
          List.forall_mem_cons.mpr ⟨mem_segmentWords_iff.mp hs, hrest⟩⟩
    obtain ⟨rest, rfl, hrest⟩ := hrest
    exact ⟨first, rest, by rw [joined, List.flatMap_def], hfirst, hrest⟩
  · rintro ⟨first, rest, rfl, hfirst, hrest⟩
    refine ⟨first, mem_segmentWords_iff.mpr hfirst, _, ?_, rfl⟩
    refine Language.mem_kstar.mpr ⟨rest.map ('.' :: ·), List.flatMap_def, fun u hu => ?_⟩
    obtain ⟨s, hs, rfl⟩ := List.mem_map.mp hu
    exact Language.mem_mul.mpr
      ⟨['.'], ⟨'.', rfl, rfl⟩, s, mem_segmentWords_iff.mpr (hrest s hs), rfl⟩

/-- A segment has no dots. -/
theorem not_mem_of_isSegment {s : List Char} (h : isSegment s = true) : '.' ∉ s := by
  intro hdot
  have hchar := isSegmentChar_of_isSegment h '.' hdot
  exact absurd hchar (by decide)

/-- Segments without dots are found again. -/
theorem splitDots_joined {first : List Char} {rest : List (List Char)} (hfirst : '.' ∉ first)
    (hrest : ∀ s ∈ rest, '.' ∉ s) : splitDots (joined first rest) = first :: rest := by
  induction rest generalizing first with
  | nil => rw [joined, List.flatMap_nil, List.append_nil, splitDots_of_not_mem hfirst]
  | cons s rest ih =>
    obtain ⟨hs, hmore⟩ := List.forall_mem_cons.mp hrest
    show splitDots (first ++ '.' :: joined s rest) = _
    rw [splitDots_append, splitDots_of_not_mem hfirst, ih hs hmore]
    rfl

theorem splitDotsFrom_eq (segment cs : List Char) :
    ∃ first rest, splitDotsFrom segment cs = (segment.reverse ++ first) :: rest
      ∧ cs = joined first rest := by
  induction cs generalizing segment with
  | nil => exact ⟨[], [], by rw [splitDotsFrom, List.append_nil], rfl⟩
  | cons c cs ih =>
    by_cases hc : c = '.'
    · -- a dot ends the segment that is being read
      obtain ⟨first, rest, hsplit, rfl⟩ := ih []
      refine ⟨[], first :: rest, ?_, by rw [hc]; rfl⟩
      rw [splitDotsFrom, if_pos hc, hsplit, List.append_nil]
      rfl
    · obtain ⟨first, rest, hsplit, rfl⟩ := ih (c :: segment)
      refine ⟨c :: first, rest, ?_, rfl⟩
      rw [splitDotsFrom, if_neg hc, hsplit, List.reverse_cons, List.append_assoc]
      rfl

/-- **The names that pass are the language of names.** -/
theorem isFieldName_iff (path : String) : isFieldName path = true ↔ path.toList ∈ nameWords := by
  unfold isFieldName
  rw [List.all_eq_true, mem_nameWords_iff]
  generalize path.toList = cs
  constructor
  · intro h
    obtain ⟨first, rest, hsplit, hcs⟩ := splitDotsFrom_eq [] cs
    have hpieces : splitDots cs = first :: rest := hsplit
    rw [hpieces, List.forall_mem_cons] at h
    exact ⟨first, rest, hcs, h.1, h.2⟩
  · rintro ⟨first, rest, rfl, hfirst, hrest⟩
    rw [splitDots_joined (not_mem_of_isSegment hfirst) fun s hs =>
      not_mem_of_isSegment (hrest s hs)]
    exact List.forall_mem_cons.mpr ⟨hfirst, hrest⟩

end FieldPath

/-! ## §2. The parts of a query and their faults. -/

/-- A part of a query that is looked at by itself. -/
inductive QueryPart where
  | name (field : String)
  | operands (c : Condition)
  | limit (n : Int64)
  | offset (n : Int64)

namespace QueryPart

/-- What is wrong with a part. -/
inductive HasFault : QueryPart → QueryError → Prop where
  /-- A name is empty. -/
  | emptyName : HasFault (name "") .emptyField
  /-- A name is not empty and not in the language of names. -/
  | badName {field : String} (hne : field ≠ "") (h : field.toList ∉ FieldPath.nameWords) :
      HasFault (name field) (.badField field)
  /-- A list of operands is empty. -/
  | emptyList (field : String) : HasFault (operands (field, .oneOf [])) (.emptyList field)
  | negativeLimit {n : Int64} (h : n.toInt < 0) : HasFault (limit n) (.negativeLimit n)
  | negativeOffset {n : Int64} (h : n.toInt < 0) : HasFault (offset n) (.negativeOffset n)

/-- Looks at a bound, which may not be negative. -/
def checkBound (n : Int64) (fault : QueryError) : Except QueryError Unit :=
  if n.toInt < 0 then .error fault else .ok ()

/-- Looks at a part. -/
def check : QueryPart → Except QueryError Unit
  | name field => Query.validateField field
  | operands c => Query.validateOperands c
  | limit n => checkBound n (.negativeLimit n)
  | offset n => checkBound n (.negativeOffset n)

theorem validateField_error_iff {field : String} {e : QueryError} :
    Query.validateField field = .error e ↔ (name field).HasFault e := by
  unfold Query.validateField
  constructor
  · intro h
    split at h
    · next hempty =>
      cases h
      exact hempty ▸ .emptyName
    · next hempty =>
      split at h
      · cases h
      · next hbad =>
        cases h
        exact .badName hempty fun hname => hbad ((FieldPath.isFieldName_iff field).mpr hname)
  · intro h
    cases h with
    | emptyName => rfl
    | badName hne hbad =>
      rw [if_neg hne, if_neg fun hname => hbad ((FieldPath.isFieldName_iff field).mp hname)]

theorem validateOperands_error_iff {c : Condition} {e : QueryError} :
    Query.validateOperands c = .error e ↔ (operands c).HasFault e := by
  obtain ⟨field, p⟩ := c
  unfold Query.validateOperands
  constructor
  · intro h
    split at h
    · next hp =>
      cases h
      exact (show p = .oneOf [] from hp) ▸ .emptyList field
    · cases h
  · intro h
    cases h
    rfl

theorem checkBound_error_iff {n : Int64} {fault e : QueryError} :
    checkBound n fault = .error e ↔ n.toInt < 0 ∧ fault = e := by
  unfold checkBound
  split <;> simp [*]

/-- **What is said of a part is its fault.** -/
theorem check_error_iff (p : QueryPart) (e : QueryError) : p.check = .error e ↔ p.HasFault e := by
  cases p with
  | name field => exact validateField_error_iff
  | operands c => exact validateOperands_error_iff
  | limit n =>
    refine checkBound_error_iff.trans ⟨?_, fun h => ?_⟩
    · rintro ⟨hn, rfl⟩
      exact .negativeLimit hn
    · cases h with
      | negativeLimit hn => exact ⟨hn, rfl⟩
  | offset n =>
    refine checkBound_error_iff.trans ⟨?_, fun h => ?_⟩
    · rintro ⟨hn, rfl⟩
      exact .negativeOffset hn
    · cases h with
      | negativeOffset hn => exact ⟨hn, rfl⟩

/-- A part passes if nothing is wrong with it. -/
theorem check_ok_iff (p : QueryPart) : p.check = .ok () ↔ ∀ e, ¬ p.HasFault e := by
  simp only [← check_error_iff]
  cases p.check with
  | ok u => simp
  | error e => simp

end QueryPart

/-! ## §3. A query is checked part by part. -/

namespace Query

/-- The parts of a query in the order in which they are looked at. -/
def parts (q : Query) : List QueryPart :=
  q.projection.map .name
    ++ q.conditions.toList.flatMap (fun c => [.name c.1, .operands c])
    ++ q.sort.map (fun k => .name k.field)
    ++ [.limit q.limit, .offset q.offset]

theorem validateFields_eq_forM (fields : List String) :
    validateFields fields = forM (fields.map QueryPart.name) QueryPart.check := by
  induction fields with
  | nil => rfl
  | cons f fields ih =>
    rw [validateFields, ih]
    rfl

theorem validateConditions_eq_forM (cs : List Condition) :
    validateConditions cs
      = forM (cs.flatMap fun c => [QueryPart.name c.1, .operands c]) QueryPart.check := by
  induction cs with
  | nil => rfl
  | cons c cs ih =>
    rw [validateConditions, ih]
    rfl

theorem validateWindow_eq_forM (q : Query) :
    q.validateWindow = forM [QueryPart.limit q.limit, .offset q.offset] QueryPart.check := by
  show _ = QueryPart.checkBound q.limit _ >>= fun _ =>
    QueryPart.checkBound q.offset _ >>= fun _ => pure ()
  unfold validateWindow QueryPart.checkBound
  split
  · rfl
  · split
    · rfl
    · rfl

/-- **A query is checked part by part.** -/
theorem validate_eq_forM (q : Query) : q.validate = forM q.parts QueryPart.check := by
  have hsort : q.sort.map (fun k => QueryPart.name k.field)
      = (q.sort.map (·.field)).map QueryPart.name := by rw [List.map_map]; rfl
  unfold parts
  rw [List.forM_append, List.forM_append, List.forM_append, hsort, ← validateFields_eq_forM,
    ← validateFields_eq_forM, ← validateConditions_eq_forM, ← validateWindow_eq_forM]
  simp only [validate, bind_assoc]

end Query

/-- Looking at items from the left, the first one that fails is the complaint. -/
theorem forM_error_iff {α ε : Type} {f : α → Except ε Unit} {xs : List α} {e : ε} :
    forM xs f = .error e
      ↔ ∃ before x after, xs = before ++ x :: after ∧ (∀ b ∈ before, f b = .ok ())
        ∧ f x = .error e := by
  have hmap : forM xs f = (fun _ => ()) <$> xs.mapM f := by
    induction xs with
    | nil => rfl
    | cons x xs ih =>
      rw [List.mapM_cons, List.forM_cons, ih]
      cases f x with
      | error e => rfl
      | ok u => cases xs.mapM f <;> rfl
  rw [hmap, map_error_iff, mapM_error_iff]
  -- there is but one answer that an item can give
  simp only [Unique.exists_iff, PUnit.default_eq_unit]

namespace Query

/-- **WHICH QUERIES PASS, AND WHAT IS SAID OF THE OTHERS.**  A query passes
exactly if every name that it gives is in the language of names, no list of
operands is empty, and neither limit nor offset is negative.  Otherwise what is
said is the fault of its first part that has one: projected names come first,
then the conditions, each with its name before its operands, then the names to
sort by, the limit, the offset. -/
theorem validate_decided (q : Query) :
    (q.validate = .ok ()
        ↔ (∀ f ∈ q.projection, f.toList ∈ FieldPath.nameWords)
          ∧ (∀ c ∈ q.conditions.toList, c.1.toList ∈ FieldPath.nameWords)
          ∧ (∀ k ∈ q.sort, k.field.toList ∈ FieldPath.nameWords)
          ∧ (∀ c ∈ q.conditions.toList, c.2 ≠ .oneOf [])
          ∧ 0 ≤ q.limit.toInt ∧ 0 ≤ q.offset.toInt)
      ∧ ∀ e, q.validate = .error e
        ↔ ∃ before p after, q.parts = before ++ p :: after
          ∧ (∀ b ∈ before, ∀ e', ¬ b.HasFault e') ∧ p.HasFault e := by
  constructor
  · rw [validate_ok_iff]
    simp only [FieldPath.isFieldName_iff, forall_and]
    tauto
  · intro e
    rw [validate_eq_forM, forM_error_iff]
    simp only [QueryPart.check_ok_iff, QueryPart.check_error_iff]

/-- A projected name that ends in a dot is complained of before an empty name
in a condition. -/
example : (((Query.empty.select ["a", "b."]).filter "" (.oneOf [])).withLimit (-1)).validate
    = .error (.badField "b.") := by decide

end Query

end DataAccess
