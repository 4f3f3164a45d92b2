/-
  The program `udbg`.

  Reads the files that the arguments name and, if the titles come from there, the input; runs the
  command line on them; prints what it leaves behind and exits with its code.
-/
import DebugDesk.CommandLine

namespace DebugDesk

/-- What stands under a path.  A directory opens but cannot be read. -/
def readPath (path : String) : IO FileContent := do
  let opened ← (IO.FS.Handle.mk path .read).toBaseIO
  match opened with
  | .error _ => return .missing
  | .ok file =>
    match ← file.readBinToEnd.toBaseIO with
    | .error _ => return .directory
    | .ok content => return .bytes content

/-- What stands under each of some paths. -/
def readPaths (paths : List String) : IO (List (String × FileContent)) :=
  paths.mapM fun path => return (path, ← readPath path)

/-- What the command line leaves behind, with the files and the input read that it needs. -/
def outcomeOf (arguments : List String) : IO CommandLine.Outcome := do
  let invocation := CommandLine.parse? arguments
  let files ← readPaths ((invocation.map (·.paths)).getD [])
  let input ←
    if (invocation.map (·.readsInput)).getD false then (← IO.getStdin).readBinToEnd
    else pure .empty
  return CommandLine.run (fun path => (files.lookup path).getD .missing) input arguments

end DebugDesk

/-- Runs the command line on the arguments of the process. -/
def main (arguments : List String) : IO UInt32 := do
  let outcome ← DebugDesk.outcomeOf arguments
  IO.print outcome.output
  IO.eprint outcome.diagnostic
  return UInt32.ofNat outcome.code
