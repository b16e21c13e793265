import ExactCover.CommandLine.Run

/-!
# The program

Runs the command line on the files that it names, prints what the run has printed, and writes the
files that the run has changed.
-/

set_option autoImplicit false

namespace ExactCover

/-- What stands at a path on disk. -/
def entryOnDisk (path : String) : IO (Option FileEntry) := do
  try
    return some (.file (← IO.FS.readFile path))
  catch problem =>
    match problem with
    | .noFileOrDirectory .. => return none
    | .inappropriateType .. => return some .directory
    | _ => return none

/-- The files that the words of a command line may name, packed or not. -/
def filesOnDisk (words : List String) : IO FileTree := do
  let named := words ++ words.filterMap fun word => (CommandLine.cutEquals word).2
  ("config.json" :: named.flatMap FileTree.candidates).foldlM (fun tree path => do
    let place := Path.parts (Path.plain path)
    match ← entryOnDisk path with
    | some entry => return Entries.set (tree.withParents place) place entry
    | none => return tree) []

/-- Writes what a run has changed. -/
def writeChanges (before after : FileTree) : IO Unit := do
  for (place, entry) in after do
    if Entries.get? before place != some entry then
      let path := "/".intercalate place
      match entry with
      | .directory => IO.FS.createDirAll path
      | .file text => IO.FS.writeFile path text

end ExactCover

open ExactCover in
/-- Runs the command line. -/
def main (words : List String) : IO UInt32 := do
  let files ← filesOnDisk words
  let outcome := CommandLine.run words (Session.start .standard files)
  let out ← IO.getStdout
  out.putStr outcome.session.printed
  let err ← IO.getStderr
  err.putStr outcome.errors
  writeChanges files outcome.session.files
  match outcome.ending with
  | .done => return 0
  | .code code => return UInt32.ofNat code
  | .failed failure =>
      err.putStrLn failure.message
      return 1
