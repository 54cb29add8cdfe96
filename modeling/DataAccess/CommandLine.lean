/-
  DataAccess.CommandLine — what the program answers to its arguments.

  `explain` shows how a query is put to a relational and to a document
  store; `ping` asks whether the relational store can be reached.  The
  answer is worked out without any input or output of its own, so that
  `ping` finds no store, whatever it is told of one.

  Main statement:
    * `explain_ok_iff` — a query is explained exactly if it is read and
                         makes sense.
-/
import DataAccess.Document.Find
import DataAccess.Document.Printer
import DataAccess.Query.Decode
import DataAccess.Settings
import DataAccess.Sql.Statement

namespace DataAccess.CommandLine

/-! ## §1. Commands. -/

/-- What the program is asked to do. -/
inductive Command where
  /-- Show how a query is put to each store, the relational one as a statement on
  the table if one is named. -/
  | explain (query : String) (table : Option String)
  /-- Ask whether the relational store can be reached. -/
  | ping
  deriving Repr, DecidableEq

/-- Reads the arguments of `explain`: one query and at most one table. -/
def parseExplain (query table : Option String) : List String → Option Command
  | [] => query.map fun q => .explain q table
  | "-t" :: t :: rest => if table.isNone then parseExplain query (some t) rest else none
  | "--table" :: t :: rest => if table.isNone then parseExplain query (some t) rest else none
  | a :: rest =>
      match a.toList with
      | '-' :: '-' :: 't' :: 'a' :: 'b' :: 'l' :: 'e' :: '=' :: t =>
          if table.isNone then parseExplain query (some (String.ofList t)) rest else none
      | '-' :: _ :: _ => none
      | _ => if query.isNone then parseExplain (some a) table rest else none

/-- Reads the arguments of the program. -/
def parse : List String → Option Command
  | "explain" :: rest => parseExplain none none rest
  | ["ping"] => some .ping
  | _ => none

/-! ## §2. Answers. -/

/-- Why a command fails. -/
inductive Failure where
  | decode (e : DecodeError)
  | query (e : QueryError)
  | unset (name : String)
  | unreachable (dsn : String)

/-- The message of a failure. -/
def Failure.message : Failure → String
  | decode e => e.message
  | query e => e.message
  | unset name => name ++ " is not set"
  | unreachable dsn => "connection error :: no relational store answers at " ++ dsn

/-- The lines for bound values, numbered from one. -/
def valueLines (values : List Scalar) : List String :=
  values.mapIdx fun i v => "  " ++ Sql.placeholder (i + 1) ++ " " ++ v.render

/-- How a query is put to a relational store. -/
def relationalLines (q : Query) (table : Option String) (c : Sql.Clause) : List String :=
  "relational" ::
    ("  " ++ match table with
      | some t => Sql.selectFields t q.projection c
      | none => c.text) ::
    valueLines c.values

/-- How a query is put to a document store. -/
def documentLines (r : FindRequest) : List String :=
  ["document", "  filter " ++ r.filter.render, "  sort " ++ r.sort.render]
    ++ (match r.projection with
        | some p => ["  projection " ++ p.render]
        | none => [])
    ++ (match r.limit with
        | some n => ["  limit " ++ toString n.toInt]
        | none => [])
    ++ (match r.skip with
        | some n => ["  skip " ++ toString n]
        | none => [])

/-- How a query is put to each store, line by line. -/
def explain [Json.Complaints] (text : String) (table : Option String) :
    Except Failure (List String) := do
  let q ← (Query.parse text).mapError .decode
  let c ← (Sql.translate q).mapError .query
  let r ← (FindRequest.translate q).mapError .query
  return relationalLines q table c ++ documentLines r

/-- Asks whether the relational store can be reached.  Settings that cannot
be read count as unset. -/
def ping (lookup : String → Option String) : Except Failure (List String) :=
  let settings := match Settings.load lookup with
    | .ok s => s
    | .error _ => .default
  match settings.sqlDsn with
  | none => .error (.unset Settings.sqlDsnName)
  | some dsn => .error (.unreachable dsn)

/-- Carries a command out; a query that is a single dash stands for the
standard input. -/
def run [Json.Complaints] (command : Command) (stdin : String)
    (lookup : String → Option String) : Except Failure (List String) :=
  match command with
  | .explain query table => explain (if query = "-" then stdin else query) table
  | .ping => ping lookup

/-- Lines as text. -/
def unlines (lines : List String) : String := String.join (lines.map (· ++ "\n"))

/-- The text for the error stream. -/
def complaint (f : Failure) : String := unlines ["error: " ++ f.message]

/-! ## §3. Laws. -/

/-- A query is explained exactly if it is read and makes sense. -/
theorem explain_ok_iff [Json.Complaints] {text : String} {table : Option String}
    {lines : List String} :
    explain text table = .ok lines ↔
      ∃ q, Query.parse text = .ok q ∧ q.validate = .ok ()
        ∧ lines = relationalLines q table (Sql.clauseOf q) ++ documentLines (.ofQuery q) := by
  cases hq : Query.parse text with
  | error e =>
    have he : explain text table = .error (.decode e) := by
      unfold explain
      rw [hq]
      rfl
    simp [he]
  | ok q =>
    cases hv : q.validate with
    | error e =>
      have he : explain text table = .error (.query e) := by
        unfold explain Sql.translate
        rw [hq]
        change ((q.validate >>= _).mapError _ >>= _) = _
        rw [hv]
        rfl
      simp [he, hv]
    | ok u =>
      have he : explain text table
          = .ok (relationalLines q table (Sql.clauseOf q) ++ documentLines (.ofQuery q)) := by
        unfold explain Sql.translate FindRequest.translate
        rw [hq]
        -- the query is checked again for either kind of store
        change ((q.validate >>= _).mapError _ >>= fun c =>
          (q.validate >>= _).mapError _ >>= _) = _
        rw [hv]
        rfl
      simp [he, hv, eq_comm]

end DataAccess.CommandLine
