/-
  DataAccess.Document.Condition — what conditions say about a document.

  A condition holds of a document if its field, read as a dotted path, has a
  value that is as the condition asks.  What it takes for a text to match a
  pattern differs between stores and is left open.
-/
import DataAccess.Document.Order
import DataAccess.Query.Basic

namespace DataAccess

/-- A value is as asked, given when a pattern matches a text. -/
def Predicate.holds (like : String → String → Bool) (p : Predicate) (x : Datum) : Bool :=
  match p with
  | .equals v => x.compare? (.ofScalar v) == some .eq
  | .oneOf vs => vs.any fun v => x.compare? (.ofScalar v) == some .eq
  | .like pattern =>
      match x with
      | .string s => like pattern s
      | _ => false
  | .between low high =>
      (match x.compare? (.ofScalar low) with
        | some .gt | some .eq => true
        | _ => false)
      && (match x.compare? (.ofScalar high) with
        | some .lt | some .eq => true
        | _ => false)

namespace Document

/-- A condition holds of a document. -/
def holds (like : String → String → Bool) (d : Document) (c : Condition) : Bool :=
  match d.path? c.1 with
  | some x => c.2.holds like x
  | none => false

/-- All conditions hold of a document. -/
def holdsAll (like : String → String → Bool) (d : Document) (cs : ConditionSet) : Bool :=
  cs.toList.all (d.holds like)

end Document

end DataAccess
