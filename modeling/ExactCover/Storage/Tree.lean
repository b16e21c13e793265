import ExactCover.Entries
import ExactCover.Storage.Path
import ExactCover.Text.Half
import ExactCover.Text.Quoted

/-!
# File trees

The files that a run can see: what each place holds, counted from the working directory. The working
directory, those above it and the root are directories always. Reading, writing and making directories
fail as they do on disk, and a failure names the path as it was given. A name has at most 255 bytes; a
text that cannot be encoded, or that holds the character that ends texts, is no path at all.

Main statement: `read_write` (what has been written to a path is read back from it).
-/

set_option autoImplicit false

namespace ExactCover

/-- What stands at a place. -/
inductive FileEntry where
  | file (text : String)
  | directory
deriving DecidableEq

/-- Places, given by their names from the working directory or the root down, and what they hold. -/
abbrev FileTree := Entries (List String) FileEntry

/-- Why a path cannot be used. -/
inductive FileProblem where
  | missing
  | exists
  | notDirectory
  | isDirectory
  | nameTooLong
deriving DecidableEq

/-- Why a file cannot be used: a path that leads nowhere, or a text that is no path. -/
inductive FileError where
  | atPath (problem : FileProblem) (path : String)
  /-- A path holds the character that ends texts. -/
  | nullByte
  /-- A text cannot be encoded. -/
  | unencodable (fault : Text.EncodingFault)
deriving DecidableEq

/-- The number and the wording of a problem. -/
def FileProblem.message : FileProblem → String
  | .missing => "[Errno 2] No such file or directory"
  | .exists => "[Errno 17] File exists"
  | .notDirectory => "[Errno 20] Not a directory"
  | .isDirectory => "[Errno 21] Is a directory"
  | .nameTooLong => "[Errno 36] File name too long"

/-- The wording of an error. -/
def FileError.message : FileError → String
  | .atPath problem path => problem.message ++ ": " ++ Text.quoted path
  | .nullByte => "embedded null byte"
  | .unencodable fault => fault.message

namespace FileTree

/-- Whether a place is the working directory or one above it. -/
def isAbove (place : List String) : Bool := place.all (· = "..")

/-- Whether a place is a directory always: the working directory, one above it, or the root. -/
def isGiven (place : List String) : Bool := isAbove place || place == ["/"]

/-- What stands at a place. -/
def at? (tree : FileTree) (place : List String) : Option FileEntry :=
  if isGiven place then some .directory else Entries.get? tree place

/-- The place above one. Nothing is above the root. -/
def above (place : List String) : List String :=
  if isAbove place then place ++ [".."] else if place = ["/"] then place else place.dropLast

/-! ## Finding places -/

/-- The longest name of a file, in bytes. -/
def nameLimit : Nat := 255

/-- The longest path, in bytes. -/
def pathLimit : Nat := 4095

/-- Goes from a directory to one of its parts. -/
def enter (tree : FileTree) (place : List String) (part : String) :
    Except FileProblem (List String) :=
  match tree.at? place with
  | none => .error .missing
  | some (.file _) => .error .notDirectory
  | some .directory =>
      if part = "." then .ok place
      else if part = ".." then .ok (above place)
      else if Text.Encoding.fileName.size part > nameLimit then .error .nameTooLong
      else .ok (place ++ [part])

/-- Follows parts of a path from the working directory on. Every part but the last one must be a
directory. -/
def follow (tree : FileTree) (path : String) (parts : List String) :
    Except FileProblem (List String) :=
  if path = "" then .error .missing
  else if Text.Encoding.fileName.size path > pathLimit then .error .nameTooLong
  else parts.foldlM tree.enter []

/-- What keeps a text from being a path. -/
def refusal? (path : String) : Option FileError :=
  match Text.Encoding.fileName.fault? path with
  | some fault => some (.unencodable fault)
  | none => if path.toList.contains '\x00' then some .nullByte else none

/-- The place that some parts of a path lead to. -/
def reach (tree : FileTree) (path : String) (parts : List String) :
    Except FileError (List String) :=
  match refusal? path with
  | some error => .error error
  | none => (tree.follow path parts).mapError (.atPath · path)

/-- The place of a path. -/
def locate (tree : FileTree) (path : String) : Except FileError (List String) :=
  let parts := Path.parts path
  tree.reach path (if path.toList.getLast? = some '/' then parts ++ ["."] else parts)

/-- What stands at a path. -/
def find (tree : FileTree) (path : String) : Except FileError (List String × FileEntry) := do
  let place ← tree.locate path
  match tree.at? place with
  | none => .error (.atPath .missing path)
  | some entry => .ok (place, entry)

/-- Whether something stands at a path. -/
def isPresent (tree : FileTree) (path : String) : Bool := (tree.find path).isOk

/-- Whether something stands at a path, of which no name is too long. -/
def probe (tree : FileTree) (path : String) : Except FileError Bool :=
  match tree.find path with
  | .ok _ => .ok true
  | .error (.atPath .nameTooLong path) => .error (.atPath .nameTooLong path)
  | .error _ => .ok false

/-- Whether a directory stands at a path. -/
def isDirectory (tree : FileTree) (path : String) : Bool :=
  match tree.find path with
  | .ok (_, .directory) => true
  | _ => false

/-! ## Files -/

/-- The text of a file. -/
def read (tree : FileTree) (path : String) : Except FileError String :=
  match tree.find path with
  | .ok (_, .file text) => .ok text
  | .ok (_, .directory) => .error (.atPath .isDirectory path)
  | .error error => .error error

/-- Writes a file, whatever it held before. A path with a slash at its end is no file. -/
def write (tree : FileTree) (path text : String) : Except FileError FileTree :=
  if path.toList.getLast? = some '/' then
    match tree.reach path (Path.parts path) with
    | .error error => .error error
    | .ok _ => .error (.atPath .isDirectory path)
  else
    match tree.locate path with
    | .error error => .error error
    | .ok place =>
        match tree.at? place with
        | some .directory => .error (.atPath .isDirectory path)
        | _ => .ok (Entries.set tree place (.file text))

/-! ## Directories -/

/-- Makes one directory. -/
def makeDirectory (tree : FileTree) (path : String) : Except FileError FileTree := do
  let place ← tree.reach path (Path.parts path)
  match tree.at? place with
  | some _ => .error (.atPath .exists path)
  | none => .ok (Entries.set tree place .directory)

/-- Makes the last directory of a path. It is no error if the directory is there already. -/
def makeLast (tree : FileTree) (path : String) : FileTree × Option FileError :=
  match tree.makeDirectory path with
  | .ok made => (made, none)
  | .error error => (tree, if tree.isDirectory path then none else some error)

/-- Makes a directory and those above it, as far as they are missing. What has been made stays when
one of them cannot be made. -/
def makeDirectoriesFrom : Nat → FileTree → String → FileTree × Option FileError
  | 0, tree, path => (tree, some (.atPath .missing path))
  | fuel + 1, tree, path =>
      let (parent, name) := Path.parentAndName path
      if parent != "" && name != "" && !tree.isPresent parent then
        match makeDirectoriesFrom fuel tree parent with
        | (made, none) => if name = "." then (made, none) else made.makeLast path
        | (made, some (.atPath .exists _)) =>
            if name = "." then (made, none) else made.makeLast path
        | (made, some error) => (made, some error)
      else tree.makeLast path

/-- Makes a directory and those above it, as far as they are missing. -/
def makeDirectories (tree : FileTree) (path : String) : FileTree × Option FileError :=
  makeDirectoriesFrom (path.length + 1) tree path

/-- Adds the directories above a place that are missing. -/
def withParents (tree : FileTree) (place : List String) : FileTree :=
  (List.range place.length).foldl (fun tree depth =>
    let parent := place.take depth
    if (tree.at? parent).isSome then tree else Entries.set tree parent .directory) tree

/-- Removes what stands at a place and below it. -/
def remove (tree : FileTree) (place : List String) : FileTree :=
  tree.filter fun entry => !place.isPrefixOf entry.1

/-! ## Laws -/

theorem at?_set {tree : FileTree} {place : List String} {entry : FileEntry}
    (named : isGiven place = false) : at? (Entries.set tree place entry) place = some entry := by
  simp [at?, named, Entries.get?_set_same (show (place == place) = true by simp)]

theorem at?_set_other {tree : FileTree} {place other : List String} {entry : FileEntry}
    (different : other ≠ place) : at? (Entries.set tree place entry) other = tree.at? other := by
  simp [at?, Entries.get?_set_other different]

/-- Setting a place that is no directory does not change a step that leads on. -/
theorem enter_set {tree : FileTree} {target place found : List String} {entry : FileEntry}
    {part : String} (plain : tree.at? target ≠ some .directory)
    (entered : tree.enter place part = .ok found) :
    enter (Entries.set tree target entry) place part = .ok found := by
  unfold enter at entered ⊢
  cases seen : tree.at? place with
  | none => simp [seen] at entered
  | some what =>
      cases what with
      | file text => simp [seen] at entered
      | directory =>
          have apart : place ≠ target := fun same => plain (same ▸ seen)
          rw [at?_set_other apart, seen]
          simpa [seen] using entered

/-- Setting a place that is no directory does not change where a path leads. -/
theorem foldlM_enter_set {tree : FileTree} {target : List String} {entry : FileEntry}
    (plain : tree.at? target ≠ some .directory) {parts place found : List String}
    (located : parts.foldlM tree.enter place = .ok found) :
    parts.foldlM (enter (Entries.set tree target entry)) place = .ok found := by
  induction parts generalizing place with
  | nil => simpa using located
  | cons part rest ih =>
      rw [List.foldlM_cons] at located ⊢
      cases entered : tree.enter place part with
      | error problem => simp [entered, bind, Except.bind] at located
      | ok next =>
          rw [enter_set plain entered]
          exact ih (by simpa [entered, bind, Except.bind] using located)

/-- Setting a place that is no directory does not change what is reached. -/
theorem reach_set {tree : FileTree} {target found : List String} {entry : FileEntry}
    {path : String} {parts : List String} (plain : tree.at? target ≠ some .directory)
    (reached : tree.reach path parts = .ok found) :
    reach (Entries.set tree target entry) path parts = .ok found := by
  unfold reach at reached ⊢
  cases refused : refusal? path with
  | some error => simp [refused] at reached
  | none =>
      simp only [refused] at reached ⊢
      unfold follow at reached ⊢
      split at reached
      · cases reached
      · rename_i something
        split at reached
        · cases reached
        · rename_i short
          rw [if_neg something, if_neg short]
          cases walked : parts.foldlM tree.enter [] with
          | error problem =>
              rw [walked] at reached
              cases reached
          | ok place =>
              rw [foldlM_enter_set plain walked]
              simpa [walked] using reached

/-- **What has been written to a path is read back from it.** -/
theorem read_write {tree after : FileTree} {path text : String}
    (written : tree.write path text = .ok after) : after.read path = .ok text := by
  unfold write at written
  split at written
  · split at written <;> cases written
  · split at written
    · cases written
    · rename_i place located
      split at written
      · cases written
      · rename_i noDirectory
        cases written
        have plain : tree.at? place ≠ some .directory := noDirectory
        have named : isGiven place = false := by
          cases given : isGiven place with
          | false => rfl
          | true => exact absurd (by simp [at?, given]) plain
        have again : locate (Entries.set tree place (.file text)) path = .ok place :=
          reach_set plain located
        simp [read, find, again, at?_set named, bind, Except.bind]

end FileTree

end ExactCover
