import EntityForge.CommandLine.Run
import EntityForge.Log.Instant
import Std.Time.DateTime.Timestamp

/-!
# The program

The outermost layer: it looks up on disk what a request concerns, runs the program on that, writes
what has changed back to disk and prints.
-/

set_option autoImplicit false

namespace EntityForge.Disk

open Files (Entry Location Workspace)

/-- The path of a location from the root. -/
def pathOf (location : Location) : String := "/" ++ "/".intercalate location

/-- What is on disk at a location; a link counts as what it leads to. -/
def entry? (location : Location) : IO (Option Entry) := do
  let path := (← IO.currentDir) / pathOf location
  if ← path.isDir then
    return some .directory
  else if ← path.pathExists then
    return some (.file (← IO.FS.readBinFile path))
  else
    return none

/-- Adds to a workspace what is on disk at paths and on the way to them. -/
def survey (paths : List String) (workspace : Workspace) : IO Workspace := do
  let mut known := workspace
  for path in paths do
    for beginning in (Files.Path.enclosing path).reverse ++ [path] do
      let location := Files.Path.location known.here beginning
      if location ≠ [] ∧ '\x00' ∉ beginning.toList then
        if let some entry ← entry? location then
          known := known.set location entry
  return known

/-- Writes to disk what has changed between two workspaces. -/
def save (before after : Workspace) : IO Unit := do
  for (location, entry) in after.tree.entries do
    if before.tree.get? location ≠ some entry then
      match entry with
      | .directory => IO.FS.createDir (pathOf location)
      | .file bytes => IO.FS.writeBinFile (pathOf location) bytes
      | .link _ => pure ()

/-- The present moment. -/
def now : IO Instant := do
  let moment ← Std.Time.Timestamp.now
  return ⟨moment.val.second.val.toNat, moment.val.nano.val.toNat / 1000⟩

end EntityForge.Disk

open EntityForge in
/-- Runs the program on its command line; the variable `RUST_LOG` states the log filter. -/
def main (arguments : List String) : IO UInt32 := do
  let start : Files.Workspace := ⟨.empty, Files.Path.location [] (← IO.currentDir).toString⟩
  let before ←
    match CommandLine.read arguments with
    | .ok (.serve request) => do
      let inputs ← Disk.survey request.inputs start
      Disk.survey (request.outputs inputs) inputs
    | _ => pure start
  let setting ← IO.getEnv "RUST_LOG"
  let (after, printed) := CommandLine.run setting (← Disk.now).text arguments before
  Disk.save before after
  (← IO.getStdout).putStr printed.output
  (← IO.getStderr).putStr printed.errors
  return printed.exit
