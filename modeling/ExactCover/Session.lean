import ExactCover.Failure
import ExactCover.Settings

/-!
# Sessions

What a run changes: the settings, the files, what has been printed and the charts that have been
drawn. A run that fails leaves what it has done up to then.
-/

set_option autoImplicit false

namespace ExactCover

/-- How the vertical axis of a chart is divided. -/
inductive Scale where
  | linear
  | logarithmic
deriving DecidableEq

/-- A chart: its file, its size in inches, its labels, and the texts that stand in it, each with its
place and its size in points. -/
structure Chart where
  path : String
  width : Float
  height : Float
  title : String
  horizontal : String
  vertical : String
  scale : Scale
  texts : List (Nat × Int × String × Float)

/-- The state of a run. -/
structure Session where
  settings : Settings
  files : FileTree
  printed : String
  /-- The charts, the latest first. -/
  charts : List Chart

/-- A computation in a session. -/
abbrev SessionM := EStateM Failure Session

namespace Session

/-- A session in which nothing has been done yet. -/
def start (settings : Settings) (files : FileTree) : Session := ⟨settings, files, "", []⟩

instance : Inhabited Session := ⟨start .standard []⟩

/-- Prints a line. -/
def say (line : String) : SessionM Unit := fun ⟨settings, files, printed, charts⟩ =>
  .ok () ⟨settings, files, printed ++ line ++ "\n", charts⟩

/-- Goes on with a result, or fails with an error of some domain. -/
def lift {ε α : Type} (wrap : ε → Failure) : Except ε α → SessionM α
  | .ok answer => pure answer
  | .error error => throw (wrap error)

/-- Goes on with a result, or fails for a mismatch. -/
def check {α : Type} (result : Except Mismatch α) : SessionM α := lift .unsuitable result

def setSettings (settings : Settings) : SessionM Unit :=
  modify fun session => { session with settings := settings }

/-- The text of a file, with line feeds at the ends of its lines. -/
def readFile (path : String) : SessionM (List Char) := do
  let text ← lift .file ((← get).files.read path)
  return Text.withLineFeeds text.toList

/-- Writes a file. -/
def writeFile (path text : String) : SessionM Unit := do
  let files ← lift .file ((← get).files.write path text)
  modify fun session => { session with files := files }

/-- Makes a directory, and those above it. Those that could be made stay. -/
def makeDirectories (path : String) : SessionM Unit := do
  let (files, failed) := (← get).files.makeDirectories path
  modify fun session => { session with files := files }
  match failed with
  | some error => throw (.file error)
  | none => return ()

/-- Makes a directory for files of a run and gives the path of one of them. -/
def outputPath (directory : Value) (stem ending : String) : SessionM String := do
  match directory with
  | .text directory =>
      makeDirectories directory
      let suffix ← check (← get).settings.suffix
      return Path.join directory (stem ++ suffix ++ ending)
  | other => throw (.unsuitable (.notAPath other.kind))

/-- Adds a chart. -/
def draw (chart : Chart) : SessionM Unit :=
  modify fun session => { session with charts := chart :: session.charts }

end Session

end ExactCover
