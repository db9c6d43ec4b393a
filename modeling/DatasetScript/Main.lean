import DatasetScript.CommandLine.Session
/-!
# The program

Reads the files named on the command line and prints the bindings that the program leaves.
-/

namespace DatasetScript

/-- The contents of the files that are there. -/
def readFiles (paths : List String) : IO (List (String × String)) :=
  paths.filterMapM fun (path : String) => do
    try return some (path, ← IO.FS.readFile path)
    catch _ => return none

def report (failure : SessionFailure) : String :=
  let cause := (failure.cause?.map ("\n\nCaused by:\n    " ++ ·)).getD ""
  "Error: " ++ failure.message ++ cause

end DatasetScript

open DatasetScript

def main (args : List String) : IO UInt32 := do
  match Arguments.ofList? args with
  | none =>
    IO.eprintln "Usage: dataset-script --program PROGRAM [--bindings BINDINGS] [--config CONFIG]"
    return 2
  | some a =>
    let contents ← readFiles (a.program :: (a.bindings.toList ++ a.config.toList))
    match Session.run (Assoc.find? contents) a with
    | .ok text =>
      IO.println text
      return 0
    | .error failure =>
      IO.eprintln (report failure)
      return 1
