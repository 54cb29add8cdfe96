/-
  DataAccess.Query.Decode — queries given as JSON.

  A query is an object with the members select, where, sort, limit and
  offset, each of which may be absent; a condition is an object with the
  members field, op and value.  Either may also be given as a sequence of
  its members.  The shape of the whole is read first, then the conditions
  one by one, so a complaint about the shape wins over one about a
  condition.  Field names and bounds are not looked at.

  Main statement:
    * `ofJson_ok_iff`        — a query is accepted in two steps, shape and conditions.
-/
import DataAccess.Json.Printer
import DataAccess.Json.Reader
import DataAccess.Query.Basic
import DataAccess.Text.LowerCase

namespace DataAccess

/-- Why a JSON query is refused. -/
inductive DecodeError where
  | json (e : JsonError)
  | unknownOperator (op : String)
  | unsupportedValue (field : String) (value : Json)
  | wrongOperand (field op expected : String)

/-- The message of a refusal. -/
def DecodeError.message : DecodeError → String
  | json e => "malformed query :: " ++ e.message
  | unknownOperator op => "unknown operator `" ++ op ++ "`"
  | unsupportedValue field value =>
      "unsupported value `" ++ value.render ++ "` for `" ++ field ++ "`"
  | wrongOperand field op expected =>
      "`" ++ op ++ "` on `" ++ field ++ "` expects " ++ expected

/-! ## §1. The shape of a query. -/

/-- A condition whose operator and operand are still as they were given. -/
structure RawCondition where
  field : String
  op : String
  value : Json

/-- A query whose conditions are still as they were given. -/
structure RawQuery where
  select : List String
  conditions : List RawCondition
  sort : List String
  limit : Int64
  offset : Int64

namespace RawCondition

/-- The members of a condition. -/
def shape : RecordShape Json where
  name := "RawCondition"
  fields := [
    ⟨"field", .refused, checking (View.readText ∘ Json.view)⟩,
    ⟨"op", .refused, checking (View.readText ∘ Json.view)⟩,
    ⟨"value", .refused, fun _ => .ok ()⟩]
  strict := true
  exact := true

/-- Reads the shape of a condition. -/
def read (j : Json) : Except ShapeError RawCondition := do
  let entries ← shape.entries j.view
  let field ← readEntry entries "field" "" (View.readText ∘ Json.view)
  let op ← readEntry entries "op" "" (View.readText ∘ Json.view)
  let value ← readEntry entries "value" .null Except.ok
  return ⟨field, op, value⟩

end RawCondition

namespace RawQuery

/-- A list of texts. -/
def readTexts (j : Json) : Except ShapeError (List String) :=
  j.view.readList (View.readText ∘ Json.view)

/-- The conditions of a query. -/
def readConditions (j : Json) : Except ShapeError (List RawCondition) :=
  j.view.readList RawCondition.read

/-- A bound of the window. -/
def readBound (j : Json) : Except ShapeError Int64 := j.view.readInt64

/-- The members of a query. -/
def shape : RecordShape Json where
  name := "RawQuery"
  fields := [
    ⟨"select", .defaulted, checking readTexts⟩,
    ⟨"where", .defaulted, checking readConditions⟩,
    ⟨"sort", .defaulted, checking readTexts⟩,
    ⟨"limit", .defaulted, checking readBound⟩,
    ⟨"offset", .defaulted, checking readBound⟩]
  strict := true
  exact := true

/-- Reads the shape of a query. -/
def read (j : Json) : Except ShapeError RawQuery := do
  let entries ← shape.entries j.view
  let select ← readEntry entries "select" [] readTexts
  let conditions ← readEntry entries "where" [] readConditions
  let sort ← readEntry entries "sort" [] readTexts
  let limit ← readEntry entries "limit" 0 readBound
  let offset ← readEntry entries "offset" 0 readBound
  return ⟨select, conditions, sort, limit, offset⟩

end RawQuery

/-! ## §2. Operators and operands. -/

/-- A number as a scalar: an integer where it fits in 64 bits with a sign,
else the nearest double. -/
def Number.scalar : Number → Scalar
  | .integer n =>
      if Int64.minValue.toInt ≤ n ∧ n ≤ Int64.maxValue.toInt then .integer (Int64.ofInt n)
      else .float (UInt64.ofNat n.toNat).toFloat
  | .float x => .float x

/-- The operand that a JSON value stands for. -/
def scalarOf? : Json → Option Scalar
  | .boolean b => some (.boolean b)
  | .string s => some (.text s)
  | .number n => some n.scalar
  | _ => none

/-- An operand of a condition on a field. -/
def operand (field : String) (j : Json) : Except DecodeError Scalar :=
  match scalarOf? j with
  | some v => .ok v
  | none => .error (.unsupportedValue field j)

namespace RawCondition

/-- Reads operator and operand of a condition.  Operators are named in any
case. -/
def predicate (c : RawCondition) : Except DecodeError Predicate :=
  let op := Text.lowercase c.op
  if op = "eq" then Predicate.equals <$> operand c.field c.value
  else if op = "in" then
    match c.value with
    | .array items => Predicate.oneOf <$> items.mapM (operand c.field)
    | _ => .error (.wrongOperand c.field "in" "an array")
  else if op = "like" then
    match c.value with
    | .string pattern => .ok (.like pattern)
    | _ => .error (.wrongOperand c.field "like" "a string pattern")
  else if op = "between" then
    match c.value with
    | .array [low, high] => do
        let low ← operand c.field low
        let high ← operand c.field high
        return .between low high
    | _ => .error (.wrongOperand c.field "between" "a [low, high] pair")
  else .error (.unknownOperator c.op)

end RawCondition

/-! ## §3. Queries. -/

namespace Query

/-- Adds conditions from the left, up to the first that cannot be read. -/
def addConditions (q : Query) : List RawCondition → Except DecodeError Query
  | [] => .ok q
  | c :: cs => do
      let p ← c.predicate
      addConditions (q.filter c.field p) cs

/-- The query with the members of a raw query. -/
def ofRaw (raw : RawQuery) : Except DecodeError Query :=
  ((((Query.empty.select raw.select).sortBy raw.sort).withLimit raw.limit).withOffset
    raw.offset).addConditions raw.conditions

/-- The query that a JSON value stands for. -/
def ofJson (j : Json) : Except DecodeError Query :=
  match RawQuery.read j with
  | .ok raw => ofRaw raw
  | .error e => .error (.json (.shape e))

/-- The query that a JSON text stands for. -/
def parse [Json.Complaints] (s : String) : Except DecodeError Query :=
  match Json.parse s with
  | .ok j => ofJson j
  | .error e => .error (.json e)

end Query

/-! ## §4. Laws. -/

/-- A query is accepted in two steps: its shape, then its conditions. -/
theorem Query.ofJson_ok_iff {j : Json} {q : Query} :
    Query.ofJson j = .ok q ↔ ∃ raw, RawQuery.read j = .ok raw ∧ Query.ofRaw raw = .ok q := by
  unfold Query.ofJson
  cases RawQuery.read j <;> simp

end DataAccess
