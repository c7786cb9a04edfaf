import ViewportScaling.CommandLine.Program

/-!
# The executable

The places that the paths of a call lead through are looked at first, the outcome of the call follows
from what stands there, and then the outcome is carried out.
-/

namespace ViewportScaling.CommandLine

/-- The code with which the reading of a directory fails. -/
def directoryCode : UInt32 := 21

/-- What stands at a location. -/
def entryAt (location : Location) : IO (Option Entry) := do
  try
    let bytes ← IO.FS.readBinFile location.path
    return some (.file bytes.toList)
  catch error =>
    match error with
    | .inappropriateType _ code _ => return if code = directoryCode then some .directory else none
    | _ => return none

/-- The tree of files as far as given paths lead through it. -/
def treeFor (paths : List String) : IO FileTree := do
  let entries ← (paths.flatMap locationsOf).mapM fun location => do
    return (location, ← entryAt location)
  return fun location => (entries.lookup location).join

end ViewportScaling.CommandLine

open ViewportScaling.CommandLine in
/-- Runs the program. -/
def main (words : List String) : IO UInt32 := do
  let tree ← treeFor (namedPaths words)
  let outcome := run tree words
  if let some (location, text) := outcome.changed? tree then
    IO.FS.writeFile location.path text
  IO.print outcome.output
  IO.eprint outcome.diagnostics
  return outcome.exitCode.toUInt32
