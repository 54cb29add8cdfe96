/-
  DataAccess.Log — what is told about operations.

  Every operation on a store is told of by entries: that it succeeded, that
  it found nothing, or that it failed, and that something else failed beside
  it.  An entry can be written as a line of a log with a level; finding
  nothing is an expected outcome and has the level of details.
-/

namespace DataAccess

/-- How much a line of a log matters. -/
inductive LogLevel where
  | trace
  | debug
  | info
  | warn
  | error
  deriving Repr, DecidableEq

/-- The name of a level. -/
def LogLevel.name : LogLevel → String
  | trace => "TRACE"
  | debug => "DEBUG"
  | info => "INFO"
  | warn => "WARN"
  | error => "ERROR"

/-- A line of a log. -/
structure LogLine where
  level : LogLevel
  text : String
  deriving Repr, DecidableEq

/-- The operation that an entry is about. -/
structure LogContext where
  operation : String
  /-- The table, collection, key or index. -/
  target : String
  id : Option String
  deriving Repr, DecidableEq

/-- The operation in square brackets, its target, and the record behind a
number sign if it is about one. -/
def LogContext.text (c : LogContext) : String :=
  let start := "[" ++ c.operation ++ "] " ++ c.target
  match c.id with
  | some id => start ++ "#" ++ id
  | none => start

/-- What is told about an operation. -/
inductive LogEntry where
  | success (context : LogContext) (message : String)
  | notFound (context : LogContext)
  | failure (context : LogContext) (error : String)
  /-- Something failed that does not change the outcome. -/
  | suppressed (context : LogContext) (error : String)
  deriving Repr, DecidableEq

namespace LogEntry

/-- The line that tells of an entry. -/
def line : LogEntry → LogLine
  | success c message => ⟨.info, c.text ++ " " ++ message⟩
  | notFound c => ⟨.debug, c.text ++ " no matching data"⟩
  | failure c error => ⟨.error, c.text ++ " failed :: " ++ error⟩
  | suppressed c error => ⟨.warn, c.text ++ " " ++ error⟩

end LogEntry

end DataAccess
