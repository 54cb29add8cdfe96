/-
  DataAccess.Sql.Clause — queries as relational clauses.

  A query becomes a text with numbered placeholders and the list of the
  values to bind to them.  Placeholders are numbered from one without gaps,
  in the order of the values.  Only field names and numbers get into the
  text; operands never do.

  Main statements:
    * `compile_values`   — the values are those of the conditions, in order;
    * `length_compile`   — there is one clause for each condition;
    * `translate_ok_iff` — queries that make sense have a clause, others none.
-/
import DataAccess.Query.Validation

namespace DataAccess.Sql

/-- A text with placeholders and the values to bind, first to last. -/
structure Clause where
  text : String
  values : List Scalar
  deriving DecidableEq

namespace Clause

/-- A clause that asks for nothing. -/
def isEmpty (c : Clause) : Bool := c.text.isEmpty

end Clause

/-- The placeholder with this number. -/
def placeholder (n : Nat) : String := "$" ++ toString n

/-- The values that a condition binds, in the order of its placeholders. -/
@[simp] def boundValues : Predicate → List Scalar
  | .equals v => [v]
  | .oneOf vs => vs
  | .like pattern => [.text pattern]
  | .between low high => [low, high]

/-- The text of a condition, its first placeholder having this number. -/
def conditionText (field : String) (p : Predicate) (first : Nat) : String :=
  match p with
  | .equals _ => field ++ " = " ++ placeholder first
  | .oneOf vs =>
      field ++ " IN ("
        ++ ", ".intercalate ((List.range vs.length).map fun i => placeholder (first + i)) ++ ")"
  | .like _ => field ++ " LIKE " ++ placeholder first
  | .between _ _ =>
      field ++ " BETWEEN " ++ placeholder first ++ " AND " ++ placeholder (first + 1)

/-- One condition as a clause, its first placeholder having this number. -/
def conditionClause (field : String) (p : Predicate) (first : Nat) : Clause :=
  ⟨conditionText field p first, boundValues p⟩

/-- Conditions with the placeholders that they share out among themselves. -/
structure Compiled where
  clauses : List String
  values : List Scalar
  deriving DecidableEq

namespace Compiled

/-- No condition yet. -/
def empty : Compiled := ⟨[], []⟩

/-- Adds a condition, its placeholders numbered after the earlier ones. -/
def add (r : Compiled) (c : Condition) : Compiled :=
  let clause := conditionClause c.1 c.2 (r.values.length + 1)
  ⟨r.clauses ++ [clause.text], r.values ++ clause.values⟩

/-- There is nothing to filter by. -/
def isUnfiltered (r : Compiled) : Bool := r.clauses.isEmpty

end Compiled

/-- Compiles conditions from the left. -/
def compile (cs : List Condition) : Compiled := cs.foldl Compiled.add .empty

/-- A sort key of an ordering clause. -/
def orderText (k : SortKey) : String :=
  match k.direction with
  | .ascending => k.field ++ " ASC"
  | .descending => k.field ++ " DESC"

/-- The parts of a clause, in the order in which they stand. -/
def parts (q : Query) (r : Compiled) : List String :=
  (if r.isUnfiltered then [] else ["WHERE " ++ " AND ".intercalate r.clauses])
    ++ (if q.sort.isEmpty then [] else ["ORDER BY " ++ ", ".intercalate (q.sort.map orderText)])
    ++ (if 0 < q.limit.toInt then ["LIMIT " ++ toString q.limit.toInt] else [])
    ++ (if 0 < q.offset.toInt then ["OFFSET " ++ toString q.offset.toInt] else [])

/-- The clause of a query that makes sense. -/
def clauseOf (q : Query) : Clause :=
  let r := compile q.conditions.toList
  ⟨" ".intercalate (parts q r), r.values⟩

/-- The clause of a query. -/
def translate (q : Query) : Except QueryError Clause := do
  q.validate
  return clauseOf q

/-! ## Laws. -/

theorem foldl_add_values (cs : List Condition) (r : Compiled) :
    (cs.foldl Compiled.add r).values = r.values ++ cs.flatMap (fun c => boundValues c.2) := by
  induction cs generalizing r with
  | nil => simp
  | cons c cs ih => simp [ih, Compiled.add, conditionClause]

/-- The bound values are those of the conditions, in order. -/
@[simp] theorem compile_values (cs : List Condition) :
    (compile cs).values = cs.flatMap (fun c => boundValues c.2) := by
  simp [compile, foldl_add_values, Compiled.empty]

theorem foldl_add_clauses_length (cs : List Condition) (r : Compiled) :
    (cs.foldl Compiled.add r).clauses.length = r.clauses.length + cs.length := by
  induction cs generalizing r with
  | nil => simp
  | cons c cs ih => simp [ih, Compiled.add]; omega

/-- There is one clause for each condition. -/
@[simp] theorem length_compile (cs : List Condition) : (compile cs).clauses.length = cs.length := by
  simp [compile, foldl_add_clauses_length, Compiled.empty]

/-- A query that makes sense has a clause, and no other has one. -/
theorem translate_ok_iff {q : Query} {c : Clause} :
    translate q = .ok c ↔ q.validate = .ok () ∧ c = clauseOf q := by
  unfold translate
  cases h : q.validate with
  | error e => simp
  | ok u => cases u; simp [eq_comm]

end DataAccess.Sql
