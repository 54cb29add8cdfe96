/-
  DataAccess.Document.Find — queries as requests to a document store.

  Conditions become a filter document in which equality stands plain and
  everything else under an operator.  Sort keys become a document of
  directions; a repeated field keeps its first place and its last direction.

  Main statement:
    * `translate_ok_iff` — queries that make sense have a request, others none.
-/
import DataAccess.Document.Basic
import DataAccess.Query.Validation

namespace DataAccess

/-- A request to find documents. -/
structure FindRequest where
  filter : Document
  sort : Document
  projection : Option Document
  limit : Option Int64
  skip : Option Nat

namespace FindRequest

/-- The options under which patterns are matched: without regard to case. -/
def likeOptions : String := "i"

/-- What a filter asks of a field. -/
@[simp] def predicateDatum : Predicate → Datum
  | .equals v => .ofScalar v
  | .oneOf vs => .document [("$in", .array (vs.map .ofScalar))]
  | .between low high => .document [("$gte", .ofScalar low), ("$lte", .ofScalar high)]
  | .like pattern => .document [("$regex", .string pattern), ("$options", .string likeOptions)]

/-- Conditions as a filter. -/
def filterDocument (cs : ConditionSet) : Document :=
  Assoc.ofList (cs.toList.map fun c => (c.1, predicateDatum c.2))

/-- The number that stands for a direction. -/
def directionDatum : Direction → Datum
  | .ascending => .int32 1
  | .descending => .int32 (-1)

/-- Sort keys as a document of directions. -/
def sortDocument (keys : List SortKey) : Document :=
  Assoc.ofList (keys.map fun k => (k.field, directionDatum k.direction))

/-- Projected fields as a document; none if all fields are wanted. -/
def projectionDocument (fields : List String) : Option Document :=
  if fields.isEmpty then none
  else some (Assoc.ofList (fields.map fun f => (f, .int32 1)))

/-- The request of a query that makes sense. -/
def ofQuery (q : Query) : FindRequest where
  filter := filterDocument q.conditions
  sort := sortDocument q.sort
  projection := projectionDocument q.projection
  limit := if 0 < q.limit.toInt then some q.limit else none
  skip := if 0 < q.offset.toInt then some q.offset.toInt.toNat else none

/-- The request of a query. -/
def translate (q : Query) : Except QueryError FindRequest := do
  q.validate
  return ofQuery q

/-- A query that makes sense has a request, and no other has one. -/
theorem translate_ok_iff {q : Query} {r : FindRequest} :
    translate q = .ok r ↔ q.validate = .ok () ∧ r = ofQuery q := by
  unfold translate
  cases h : q.validate with
  | error e => simp
  | ok u => cases u; simp [eq_comm]

end FindRequest

end DataAccess
