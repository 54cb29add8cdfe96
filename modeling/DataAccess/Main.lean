/-
  DataAccess.Main — the program.

  Reads the arguments, the standard input where it is asked for, and the
  variables of the environment; everything else is `CommandLine.run`.
-/
import DataAccess.CommandLine

namespace DataAccess

/-- The variables that settings are read from, with their values. -/
def environment : IO (List (String × Option String)) :=
  [Settings.sqlDsnName, Settings.documentUriName, Settings.cacheUriName, Settings.searchUriName,
    Settings.sqlMaxConnectionsName, Settings.cacheTtlName].mapM fun name => do
      return (name, ← IO.getEnv name)

/-- The words of the program for texts that are no JSON. -/
instance : Json.Complaints where
  malformed _ _ := "malformed text"
  place _ _ := ""

/-- How the program is called. -/
def usage : String :=
  "usage: explain QUERY [-t TABLE], where QUERY may be a dash for the standard input, or ping\n"

/-- Carries a command out and answers with an exit code. -/
def perform (command : CommandLine.Command) : IO UInt32 := do
  let stdin ← match command with
    | .explain "-" _ => (← IO.getStdin).readToEnd
    | _ => pure ""
  let known ← environment
  let lookup := fun name => ((known.find? (·.1 == name)).map (·.2)).join
  match CommandLine.run command stdin lookup with
  | .ok lines =>
      IO.print (CommandLine.unlines lines)
      return 0
  | .error failure =>
      IO.eprint (CommandLine.complaint failure)
      return 1

end DataAccess

/-- The entry point of the program. -/
def main (args : List String) : IO UInt32 := do
  match DataAccess.CommandLine.parse args with
  | some command => DataAccess.perform command
  | none =>
      IO.eprint DataAccess.usage
      return 2
