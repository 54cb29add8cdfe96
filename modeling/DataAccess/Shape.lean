/-
  DataAccess.Shape — structured values seen by their shape, and complaints
  about a shape that does not fit.

  JSON values and documents are both read into records through `View`, which
  forgets how a value is stored.  A record is read from a mapping, entry by
  entry in the order of the entries, or from a sequence that gives its fields
  by position.  The first entry that does not fit is the complaint; fields
  that are missing are noticed only after all entries were read.

  Main statements:
    * `integerIn_ok_iff`    — which views are read as a bounded integer;
    * `readInt64_integer`   — every signed 64-bit integer is read.
-/
import DataAccess.Fallible
import DataAccess.Text.Quoted

namespace DataAccess

/-! ## §1. Views. -/

/-- The outermost layer of a structured value. -/
inductive View (α : Type) where
  | null
  | boolean (b : Bool)
  | integer (n : Int)
  | float (x : Float)
  | text (s : String)
  | sequence (items : List α)
  | mapping (entries : List (String × α))

/-- What was found in place of what was expected. -/
inductive Found where
  | null
  | boolean (b : Bool)
  | integer (n : Int)
  | float (x : Float)
  | text (s : String)
  | sequence
  | mapping
  deriving DecidableEq

/-- The part of a view that a complaint names. -/
def View.found {α : Type} : View α → Found
  | null => .null
  | boolean b => .boolean b
  | integer n => .integer n
  | float x => .float x
  | text s => .text s
  | sequence _ => .sequence
  | mapping _ => .mapping

/-! ## §2. Complaints. -/

/-- Why a value does not have the shape of what is read from it. -/
inductive ShapeError where
  /-- A field has no entry. -/
  | missingField (name : String)
  /-- A field has a second entry. -/
  | duplicateField (name : String)
  /-- An entry belongs to no field. -/
  | unknownField (name : String) (known : List String)
  /-- A value of another kind. -/
  | invalidType (found : Found) (expected : String)
  /-- A value of the right kind that is out of range. -/
  | invalidValue (found : Found) (expected : String)
  /-- Too few or too many items. -/
  | invalidLength (length : Nat) (expected : String)
  /-- A complaint of the type that is read, in its own words. -/
  | custom (text : String)
  deriving DecidableEq

/-- The words in which a format names what was found. -/
structure Wording where
  /-- The absent value. -/
  null : String
  /-- The text of a double. -/
  float : Float → String

/-- What was found, in the words of a format. -/
def Found.describe (w : Wording) : Found → String
  | null => w.null
  | boolean b => "boolean `" ++ (if b then "true" else "false") ++ "`"
  | integer n => "integer `" ++ toString n ++ "`"
  | float x => "floating point `" ++ w.float x ++ "`"
  | text s => "string " ++ Text.quoted s
  | sequence => "sequence"
  | mapping => "map"

/-- The message of a complaint, in the words of a format. -/
def ShapeError.message (w : Wording) : ShapeError → String
  | missingField name => "missing field `" ++ name ++ "`"
  | duplicateField name => "duplicate field `" ++ name ++ "`"
  | unknownField name known =>
      "unknown field `" ++ name ++ "`, expected one of "
        ++ ", ".intercalate (known.map fun k => "`" ++ k ++ "`")
  | invalidType found expected =>
      "invalid type: " ++ found.describe w ++ ", expected " ++ expected
  | invalidValue found expected =>
      "invalid value: " ++ found.describe w ++ ", expected " ++ expected
  | invalidLength length expected =>
      "invalid length " ++ toString length ++ ", expected " ++ expected
  | custom text => text

/-! ## §3. Reading single values. -/

namespace View

variable {α β : Type}

/-- Another kind of value than the expected one. -/
@[simp] def mismatch (v : View α) (expected : String) : Except ShapeError β :=
  .error (.invalidType v.found expected)

/-- A text. -/
@[simp] def readText : View α → Except ShapeError String
  | text s => .ok s
  | v => v.mismatch "a string"

/-- An integer between two bounds; `name` is the name of the range. -/
def integerIn (low high : Int) (name : String) : View α → Except ShapeError Int
  | integer n =>
      if low ≤ n ∧ n ≤ high then .ok n else .error (.invalidValue (.integer n) name)
  | v => v.mismatch name

/-- A signed 64-bit integer. -/
def readInt64 (v : View α) : Except ShapeError Int64 :=
  Int64.ofInt <$> v.integerIn Int64.minValue.toInt Int64.maxValue.toInt "i64"

/-- A signed 32-bit integer. -/
def readInt32 (v : View α) : Except ShapeError Int32 :=
  Int32.ofInt <$> v.integerIn Int32.minValue.toInt Int32.maxValue.toInt "i32"

/-- An unsigned 64-bit integer. -/
def readUInt64 (v : View α) : Except ShapeError UInt64 :=
  (fun n => UInt64.ofNat n.toNat) <$> v.integerIn 0 (UInt64.size - 1) "u64"

/-- A list, every item of which is read by `read`. -/
@[simp] def readList (read : α → Except ShapeError β) : View α → Except ShapeError (List β)
  | sequence items => items.mapM read
  | v => v.mismatch "a sequence"

/-- The absent value or what `read` makes of another one. -/
def readOptional (read : View α → Except ShapeError β) : View α → Except ShapeError (Option β)
  | null => .ok none
  | v => some <$> read v

/-- Exactly the integers within the bounds are read. -/
@[simp] theorem integerIn_ok_iff {low high : Int} {name : String} {v : View α} {n : Int} :
    v.integerIn low high name = .ok n ↔ v = integer n ∧ low ≤ n ∧ n ≤ high := by
  cases v with
  | integer m =>
    unfold integerIn
    by_cases h : low ≤ m ∧ m ≤ high
    · simp only [h, and_self, if_true, Except.ok.injEq, integer.injEq]
      constructor
      · rintro rfl; exact ⟨rfl, h⟩
      · rintro ⟨rfl, _⟩; rfl
    · simp only [h, if_false, reduceCtorEq, integer.injEq, false_iff]
      rintro ⟨rfl, h'⟩
      exact h h'
  | _ => simp [integerIn, mismatch]

/-- Every signed 64-bit integer is read. -/
@[simp] theorem readInt64_integer (n : Int64) : readInt64 (integer n.toInt : View α) = .ok n := by
  have h : (integer n.toInt : View α).integerIn Int64.minValue.toInt Int64.maxValue.toInt "i64"
      = .ok n.toInt :=
    integerIn_ok_iff.mpr ⟨rfl, n.minValue_le_toInt, n.toInt_le⟩
  rw [readInt64, h]
  exact congrArg Except.ok (Int64.ofInt_toInt n)

end View

/-! ## §4. Reading records. -/

/-- What the absence of a field means. -/
inductive Absence where
  /-- The record is incomplete. -/
  | refused
  /-- A mapping may leave the field out, a sequence may not. -/
  | allowed
  /-- Mapping and sequence may leave the field out. -/
  | defaulted
  deriving Repr, DecidableEq

/-- A field of a record: its name, what its absence means, and a check of
its value. -/
structure Field (α : Type) where
  name : String
  absence : Absence
  check : α → Except ShapeError Unit

/-- A check that a value can be read. -/
def checking {α β : Type} (read : α → Except ShapeError β) (a : α) : Except ShapeError Unit :=
  (fun _ => ()) <$> read a

/-- A record as it is read from a structured value. -/
structure RecordShape (α : Type) where
  name : String
  fields : List (Field α)
  /-- Entries that belong to no field are refused; otherwise they are passed over. -/
  strict : Bool
  /-- A sequence may not be longer than the record; otherwise its rest is passed over. -/
  exact : Bool

namespace RecordShape

variable {α : Type}

/-- The names of the fields, in order. -/
def names (r : RecordShape α) : List String := r.fields.map (·.name)

/-- Checks one entry of a mapping. -/
def checkEntry (r : RecordShape α) (entry : String × α) : Except ShapeError Unit :=
  match r.fields.find? (·.name == entry.1) with
  | some field => field.check entry.2
  | none => if r.strict then .error (.unknownField entry.1 r.names) else .ok ()

/-- Checks entries from the left. -/
def checkEntries (r : RecordShape α) : List (String × α) → Except ShapeError Unit
  | [] => .ok ()
  | e :: es => do r.checkEntry e; r.checkEntries es

/-- The first field without an entry whose absence is refused. -/
def missing? (r : RecordShape α) (entries : List (String × α)) : Option String :=
  (r.fields.find? fun f =>
    f.absence == .refused && !(entries.any (·.1 == f.name))).map (·.name)

/-- How many elements the record has, in words. -/
def arity (r : RecordShape α) : String :=
  "struct " ++ r.name ++ " with " ++ toString r.fields.length
    ++ (if r.fields.length = 1 then " element" else " elements")

/-- The entries of a record, all of them checked: those of a mapping, or the
items of a sequence under the names of the fields in their places. -/
def entries (r : RecordShape α) (v : View α) : Except ShapeError (List (String × α)) :=
  match v with
  | .mapping es => do
      r.checkEntries es
      match r.missing? es with
      | some name => .error (.missingField name)
      | none => .ok es
  | .sequence items => do
      let es := r.names.zip items
      r.checkEntries es
      if (r.fields.drop items.length).any (·.absence != .defaulted) then
        .error (.invalidLength items.length r.arity)
      else if r.exact && decide (r.fields.length < items.length) then
        .error (.invalidLength items.length "fewer elements in array")
      else .ok es
  | v => v.mismatch ("struct " ++ r.name)

end RecordShape

/-- The value of the last entry of a field, read by `read`, or the default if
there is no entry. -/
def readEntry {α β : Type} (entries : List (String × α)) (name : String) (default : β)
    (read : α → Except ShapeError β) : Except ShapeError β :=
  match entries.reverse.find? (·.1 == name) with
  | some e => read e.2
  | none => .ok default

end DataAccess
