import Reflow.CommandLine

/-!
# The program

Reads the file that the arguments name, runs them and writes the outcome. A command line that
cannot be run ends with exit code two, a run without an outcome with one.
-/

namespace Reflow

/-- The bytes of a file, if it can be read. -/
def readFile? (path : String) : IO (Option (List UInt8)) := do
  try
    let bytes ← IO.FS.readBinFile path
    return some bytes.toList
  catch _ => return none

/-- The bytes of the file that the arguments name. -/
def readNamedFile? (args : List String) : IO (Option (List UInt8)) := do
  match Invocation.parse args with
  | .ok invocation =>
    match invocation.path? with
    | some path => readFile? path
    | none => return none
  | .error _ => return none

end Reflow

open Reflow

/-- Runs the program. -/
def main (args : List String) : IO UInt32 := do
  let bytes ← readNamedFile? args
  match CommandLine.answer .standard (fun _ => bytes) args with
  | .ok outcome =>
    IO.print outcome.output
    IO.eprint outcome.errors
    return outcome.exit.toUInt32
  | .error (.usage .badPath) =>
    IO.eprintln ("Error: " ++ UsageError.badPath.message)
    return 1
  | .error (.usage cause) =>
    IO.eprintln CommandLine.usage
    IO.eprintln ("Error: " ++ cause.message)
    return 2
  | .error e =>
    IO.eprintln ("Error: " ++ e.message)
    return 1
