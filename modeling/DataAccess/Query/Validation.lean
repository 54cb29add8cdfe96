/-
  DataAccess.Query.Validation — which queries make sense.

  Every field that a query names has to be a field name, a list of operands
  may not be empty, and neither limit nor offset may be negative.  The first
  fault is reported: projected fields come first, then the conditions, each
  with its field before its list, then the sort keys, the limit, the offset.

  Main statements:
    * `validateField_ok_iff` — the names that pass are the field names;
    * `validate_ok_iff`      — the queries that pass, said outright.
-/
import DataAccess.Fallible
import DataAccess.FieldPath
import DataAccess.Query.Basic

namespace DataAccess

/-- Why a query is refused. -/
inductive QueryError where
  | emptyField
  | badField (field : String)
  | emptyList (field : String)
  | negativeLimit (n : Int64)
  | negativeOffset (n : Int64)
  | unknownColumn (table column : String)
  deriving DecidableEq

/-- The message of a refusal. -/
def QueryError.message : QueryError → String
  | emptyField => "empty field name"
  | badField field => "invalid field name `" ++ field ++ "`"
  | emptyList field => "empty value list for `" ++ field ++ "`"
  | negativeLimit n => "negative limit " ++ toString n.toInt
  | negativeOffset n => "negative offset " ++ toString n.toInt
  | unknownColumn table column => "unknown column `" ++ column ++ "` for `" ++ table ++ "`"

namespace Query

/-- Checks a field name. -/
def validateField (field : String) : Except QueryError Unit :=
  if field = "" then .error .emptyField
  else if FieldPath.isFieldName field then .ok ()
  else .error (.badField field)

/-- Checks names from the left. -/
def validateFields : List String → Except QueryError Unit
  | [] => .ok ()
  | f :: fs => do validateField f; validateFields fs

/-- Checks the operands of a condition: a list may not be empty. -/
def validateOperands (c : Condition) : Except QueryError Unit :=
  match c.2 with
  | .oneOf [] => .error (.emptyList c.1)
  | _ => .ok ()

/-- Checks conditions from the left, each with its field before its operands. -/
def validateConditions : List Condition → Except QueryError Unit
  | [] => .ok ()
  | c :: cs => do validateField c.1; validateOperands c; validateConditions cs

/-- Checks the window of answers. -/
def validateWindow (q : Query) : Except QueryError Unit :=
  if q.limit.toInt < 0 then .error (.negativeLimit q.limit)
  else if q.offset.toInt < 0 then .error (.negativeOffset q.offset)
  else .ok ()

/-- Checks a query and reports its first fault. -/
def validate (q : Query) : Except QueryError Unit := do
  validateFields q.projection
  validateConditions q.conditions.toList
  validateFields (q.sort.map (·.field))
  q.validateWindow

/-! ## Which queries pass. -/

/-- The names that pass are the field names. -/
@[simp] theorem validateField_ok_iff (field : String) :
    validateField field = .ok () ↔ FieldPath.isFieldName field = true := by
  unfold validateField
  split
  · next h => subst h; simp
  · split <;> simp_all

@[simp] theorem validateFields_ok_iff (fields : List String) :
    validateFields fields = .ok () ↔ ∀ f ∈ fields, FieldPath.isFieldName f = true := by
  induction fields with
  | nil => simp [validateFields]
  | cons f fs ih =>
    rw [List.forall_mem_cons, ← validateField_ok_iff, ← ih, validateFields]
    cases h : validateField f with
    | error e => simp
    | ok u => cases u; simp

@[simp] theorem validateOperands_ok_iff (c : Condition) :
    validateOperands c = .ok () ↔ c.2 ≠ .oneOf [] := by
  unfold validateOperands
  split
  · next h => simp [h]
  · next h => simpa using h

@[simp] theorem validateConditions_ok_iff (cs : List Condition) :
    validateConditions cs = .ok ()
      ↔ ∀ c ∈ cs, FieldPath.isFieldName c.1 = true ∧ c.2 ≠ .oneOf [] := by
  induction cs with
  | nil => simp [validateConditions]
  | cons c cs ih =>
    rw [List.forall_mem_cons, ← validateField_ok_iff, ← validateOperands_ok_iff, ← ih,
      validateConditions]
    cases h : validateField c.1 with
    | error e => simp
    | ok u =>
      cases u
      cases h' : validateOperands c with
      | error e => simp
      | ok u => cases u; simp

@[simp] theorem validateWindow_ok_iff (q : Query) :
    q.validateWindow = .ok () ↔ 0 ≤ q.limit.toInt ∧ 0 ≤ q.offset.toInt := by
  unfold validateWindow
  split
  · simp; omega
  · split
    · simp; omega
    · simp; omega

/-- A query passes exactly if all its names are field names, no list of
operands is empty, and neither limit nor offset is negative. -/
theorem validate_ok_iff (q : Query) :
    q.validate = .ok ()
      ↔ (∀ f ∈ q.projection, FieldPath.isFieldName f = true)
        ∧ (∀ c ∈ q.conditions.toList, FieldPath.isFieldName c.1 = true ∧ c.2 ≠ .oneOf [])
        ∧ (∀ k ∈ q.sort, FieldPath.isFieldName k.field = true)
        ∧ 0 ≤ q.limit.toInt ∧ 0 ≤ q.offset.toInt := by
  have hs : (∀ k ∈ q.sort, FieldPath.isFieldName k.field = true)
      ↔ validateFields (q.sort.map (·.field)) = .ok () := by
    rw [validateFields_ok_iff]; simp
  rw [← validateFields_ok_iff, ← validateConditions_ok_iff, hs, ← validateWindow_ok_iff, validate]
  cases h1 : validateFields q.projection with
  | error e => simp
  | ok u =>
    cases u
    cases h2 : validateConditions q.conditions.toList with
    | error e => simp
    | ok u =>
      cases u
      cases h3 : validateFields (q.sort.map (·.field)) with
      | error e => simp
      | ok u => cases u; simp

end Query

end DataAccess
