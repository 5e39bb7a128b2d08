/-
  SearchDomain.Main

  The command line program. It prints what a run comes to and keeps no rule of
  its own.
-/
import SearchDomain.CommandLine.Run
import SearchDomain.Transport.Queue

namespace SearchDomain.CommandLine

/-- The variables that the command line reads. -/
def variableNames : List String :=
  [Environment.domainName, Environment.regionName, Environment.apiVersionName,
    Environment.modeName, Environment.endpointName, Environment.timeoutName,
    Environment.logLevelName]

/-- The environment of the process. -/
def processEnvironment : IO Environment := do
  let pairs ← variableNames.filterMapM fun name => do
    return (← IO.getEnv name).map fun value => (name, value)
  return Environment.ofPairs pairs

/-- Prints what a run comes to, and gives the exit code. -/
def RunResult.print : RunResult → IO UInt32
  | .usage e => do
    IO.eprintln ("error: " ++ e.name)
    return 2
  | .noConfig e => do
    IO.eprintln ("Error: " ++ e.message)
    return 1
  | .unfit _ _ problems => do
    for problem in problems do
      IO.eprintln ("Configuration error: " ++ problem.message)
    return 1
  | .finished _ _ report => do
    IO.print report.output
    match report.failure with
    | some e =>
      IO.eprintln ("Error: " ++ e.message)
      return 1
    | none => return 0

end SearchDomain.CommandLine

open SearchDomain CommandLine

/-- No request leaves the process, so the time that would be written into it does not matter. -/
def main (args : List String) : IO UInt32 := do
  let env ← processEnvironment
  (run Transport.offline () 0 args env).print
