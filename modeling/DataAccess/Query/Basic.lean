/-
  DataAccess.Query.Basic — what a reader asks for.

  A query names the fields to return, the conditions that a record has to
  meet, the order of the answers, and a window of them.  It says nothing
  about the store that answers it.  Queries are built call by call; building
  never fails, and `Query.validate` tells whether a query makes sense.
-/
import DataAccess.Assoc
import DataAccess.Scalar

namespace DataAccess

/-! ## §1. Conditions. -/

/-- What a condition asks of the value of its field. -/
inductive Predicate where
  /-- It equals the operand. -/
  | equals (v : Scalar)
  /-- It equals one of the operands. -/
  | oneOf (vs : List Scalar)
  /-- It is a text that matches the pattern. -/
  | like (pattern : String)
  /-- It lies between the operands, both included. -/
  | between (low high : Scalar)
  deriving DecidableEq

/-- A field with what is asked of its value. -/
abbrev Condition := String × Predicate

/-- Conditions on distinct fields, in the order in which the fields were
first given. -/
structure ConditionSet where
  toList : Assoc String Predicate
  nodup : (Assoc.keys toList).Nodup
  deriving DecidableEq

namespace ConditionSet

/-- No condition at all. -/
def empty : ConditionSet := ⟨[], List.nodup_nil⟩

/-- Adds a condition; on a field that has one already, the new condition
takes its place. -/
def insert (cs : ConditionSet) (field : String) (p : Predicate) : ConditionSet :=
  ⟨Assoc.insert cs.toList field p, Assoc.nodup_keys_insert cs.nodup field p⟩

/-- The condition on a field. -/
def find? (cs : ConditionSet) (field : String) : Option Predicate :=
  Assoc.find? cs.toList field

/-- The fields that have a condition. -/
def fields (cs : ConditionSet) : List String := Assoc.keys cs.toList

end ConditionSet

/-! ## §2. Sort keys. -/

/-- The direction of an order. -/
inductive Direction where
  | ascending
  | descending
  deriving Repr, DecidableEq

/-- A field to sort by. -/
structure SortKey where
  field : String
  direction : Direction
  deriving Repr, DecidableEq

/-- Reads a sort key: a leading minus asks for descending order and is not
part of the field. -/
def SortKey.parse (key : String) : SortKey :=
  match key.toList with
  | '-' :: field => ⟨String.ofList field, .descending⟩
  | _ => ⟨key, .ascending⟩

/-! ## §3. Queries. -/

/-- What a reader asks for.  Without a projection all fields are returned; a
limit of zero is no limit. -/
structure Query where
  projection : List String
  conditions : ConditionSet
  sort : List SortKey
  limit : Int64
  offset : Int64
  deriving DecidableEq

namespace Query

/-- Everything, in no particular order. -/
def empty : Query := ⟨[], .empty, [], 0, 0⟩

/-- Returns these fields instead of those asked for before. -/
def select (q : Query) (fields : List String) : Query := { q with projection := fields }

/-- Adds a condition, in place of an earlier one on the same field. -/
def filter (q : Query) (field : String) (p : Predicate) : Query :=
  { q with conditions := q.conditions.insert field p }

/-- Asks that a field equals an operand. -/
def whereEquals (q : Query) (field : String) (v : Scalar) : Query := q.filter field (.equals v)

/-- Asks that a field equals one of some operands. -/
def whereOneOf (q : Query) (field : String) (vs : List Scalar) : Query := q.filter field (.oneOf vs)

/-- Asks that a field is a text that matches a pattern. -/
def whereLike (q : Query) (field pattern : String) : Query := q.filter field (.like pattern)

/-- Asks that a field lies between two operands, both included. -/
def whereBetween (q : Query) (field : String) (low high : Scalar) : Query :=
  q.filter field (.between low high)

/-- Adds sort keys after the earlier ones. -/
def sortBy (q : Query) (keys : List String) : Query :=
  { q with sort := q.sort ++ keys.map SortKey.parse }

/-- Returns at most so many answers. -/
def withLimit (q : Query) (n : Int64) : Query := { q with limit := n }

/-- Leaves out so many answers. -/
def withOffset (q : Query) (n : Int64) : Query := { q with offset := n }

end Query

end DataAccess
