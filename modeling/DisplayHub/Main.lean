import DisplayHub.CommandLine

/-!
# The program

The outermost layer: the real files and the real process.

The files that a run can look at are gathered first, as far as they are
there, and everything after that is `runCommand`. Shared libraries are not
among what is gathered, so the program runs without a vendor extension.

## Main definitions

* `main`: The program.
-/

namespace DisplayHub

/-- Adds a file to the storage, if it can be read. -/
def gatherFile (storage : Storage) (path : String) : IO Storage := do
  try
    let bytes ← IO.FS.readBinFile path
    return storage.put path (.ofBytes bytes.toList)
  catch _ => return storage

/-- Adds a directory of connector entries to the storage, if it is there. -/
def gatherConnectors (storage : Storage) (root : String) : IO Storage := do
  try
    let directory ← IO.FS.realPath root
    let mut gathered := storage.put root .directory
    for entry in ← directory.readDir do
      let dir := Path.join root entry.fileName
      gathered ← gatherFile (gathered.put dir .directory) (Path.join dir "status")
      gathered ← gatherFile gathered (Path.join dir "connector_id")
    return gathered
  catch _ => return storage

/-- The files that a run with the given arguments can look at. -/
def gather (arguments : List String) (settingsPath : Option String) : IO Storage := do
  let directory ← IO.currentDir
  let storage : Storage := { workingDir := Path.components directory.toString }
  match Command.ofArguments none arguments with
  | .run given =>
    let path := Settings.path? given settingsPath
    let storage ← match path with
      | some path => gatherFile storage path
      | none => pure storage
    match (Settings.load storage path).result with
    | .ok settings => gatherConnectors storage settings.hardware.connectorRoot
    | .error _ => return storage
  | _ => return storage

/-- Runs the program. What is noted at the usual weights and what went wrong
    goes to the error stream. -/
def runProgram (arguments : List String) : IO UInt32 := do
  let settingsPath ← IO.getEnv "DISPLAY_CORE_CONFIG"
  let override ← IO.getEnv "DISPLAY_EXTENSION_LIBRARY_PATH"
  let storage ← gather arguments settingsPath
  let report := runCommand arguments storage settingsPath override
  for note in report.notes do
    if note.level.rank ≤ Level.info.rank then
      IO.eprintln note.line
  for line in report.output do
    IO.println line
  match report.chain with
  | [] => return 0
  | first :: causes =>
    IO.eprintln ("Error: " ++ first)
    for cause in causes do
      IO.eprintln ("  caused by: " ++ cause)
    return 1

end DisplayHub

/-- The program. -/
def main (arguments : List String) : IO UInt32 :=
  DisplayHub.runProgram arguments
