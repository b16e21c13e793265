import ExactCover.Json.Reader
import ExactCover.Json.Writer
import ExactCover.Session
import ExactCover.Value.Access

/-!
# Configurations

A configuration is a JSON document in a file: an object of sections, each of which is an object of
settings. Changing it changes the document and then writes the file. A change that fails may have
changed the document without writing it.
-/

set_option autoImplicit false

namespace ExactCover

/-- A document and the path of its file. -/
structure Configuration where
  path : String
  document : Value

/-- A session with an open configuration. -/
structure Editing where
  session : Session
  configuration : Configuration

/-- A computation that changes a configuration. -/
abbrev EditM := EStateM Failure Editing

namespace Configuration

/-- How many lists and objects of a document may stand in each other. -/
def room : Nat := 985

/-- Whether there is a file at a path. -/
def isPresent (path : String) : SessionM Bool := do
  Session.lift .file ((← get).files.probe path)

/-- Reads the document of a file. -/
def readDocument (path : String) : SessionM Value := do
  if ← isPresent path then
    Session.lift .document (Json.read room (String.ofList (← Session.readFile path)))
  else throw (.noConfiguration path)

/-- The plain form of a path, which must be a text. -/
def pathOf : Value → Except Mismatch String
  | .text path => .ok (Path.plain path)
  | other => .error (.notAPath other.kind)

/-- Opens the configuration in a file. -/
def load (path : Value) : SessionM Configuration := do
  let path ← Session.check (pathOf path)
  return ⟨path, ← readDocument path⟩

/-! ## Reading -/

/-- A section of a document; it is empty if it is missing. -/
def sectionOf (document : Value) (name : String) : Except Mismatch Value :=
  document.fieldOr name (.object [])

def experimentSection (document : Value) : Except Mismatch Value :=
  sectionOf document "experiment_settings"

def searchSection (document : Value) : Except Mismatch Value :=
  sectionOf document "search_settings"

/-- Whether an entry is a pair of whole numbers. -/
def isSquare (entry : Value) : Except Mismatch Bool := do
  if (← entry.length) != 2 then return false
  return (← entry.items).all Value.isWhole

/-- The entry of a board size, which must be a pair of whole numbers. -/
def squareOf (size : Key) (entry : Value) : Except Failure Value := do
  if ← (isSquare entry).mapError .unsuitable then return entry
  else throw (.badSquare (Value.displayKey size) entry)

/-- The squares of a board size and the size as a number. -/
def forcedOf (size : Key) (entries : Value) : Except Failure (Key × Value) := do
  let squares ← (← entries.items.mapError .unsuitable).mapM (squareOf size)
  let number ← size.toValue.toInteger.mapError .unsuitable
  return (.int number, .list squares)

/-- The squares with forced queens by board size. Of two keys for one size the later one counts. -/
def forcedQueens (document : Value) : Except Failure (Entries Key Value) := do
  let raw ← (sectionOf document "partial_solutions").mapError .unsuitable
  let fields ← (raw.fields "items").mapError .unsuitable
  return Entries.ofList (← fields.mapM fun (size, entries) => forcedOf size entries)

/-! ## Changing -/

/-- Runs a computation on the session. -/
def onSession {α : Type} (action : SessionM α) : EditM α := fun ⟨session, configuration⟩ =>
  match action session with
  | .ok answer session => .ok answer ⟨session, configuration⟩
  | .error failure session => .error failure ⟨session, configuration⟩

/-- Goes on with a result, or fails for a mismatch. -/
def check {α : Type} (result : Except Mismatch α) : EditM α := onSession (Session.check result)

/-- The document as it is now. -/
def current : EditM Value := fun editing => .ok editing.configuration.document editing

def setDocument (document : Value) : EditM Unit := fun ⟨session, configuration⟩ =>
  .ok () ⟨session, { configuration with document := document }⟩

/-- Writes the document to its file. -/
def save : EditM Unit := do
  let ⟨path, document⟩ := (← get).configuration
  onSession (Session.writeFile path (Json.page document))

/-- Reads the file again. -/
def reload : EditM Value := do
  let fresh ← onSession (readDocument (← get).configuration.path)
  setDocument fresh
  return fresh

/-- The section of a document, and the fields of a document in which it is present. -/
def withSection (document name : Value) : Except Mismatch (Key × Value × Fields) := do
  let fields ← document.fields "setdefault"
  let key ← Key.ofValue name
  match Entries.get? fields key with
  | some found => return (key, found, fields)
  | none => return (key, .object [], Entries.set fields key (.object []))

/-- The place of an item, a negative number counting from the end. -/
def placeOf (count : Nat) (index : Int) : Except Mismatch Nat :=
  let place := if index < 0 then index + count else index
  if 0 ≤ place ∧ place < count then .ok place.toNat
  else if index < -Link.widthBound ∨ Link.widthBound ≤ index then .error .indexTooWide
  else .error .assignmentOutOfRange

/-- Sets a field of an object, or an item of a list. -/
def assign (container key value : Value) : Except Mismatch Value :=
  match container with
  | .object fields => do return .object (Entries.set fields (← Key.ofValue key) value)
  | .list items =>
      if key.isWhole then do
        return .list (items.set (← placeOf items.length (← key.toCount)) value)
      else .error (.listIndexKind key.kind)
  | other => .error (.noAssignment other.kind)

/-- Sets a setting in a section and writes the file. -/
def updateSetting (name key value : Value) : EditM Unit := do
  let (name, found, fields) ← check (withSection (← current) name)
  setDocument (.object fields)
  let changed ← check (assign found key value)
  setDocument (.object (Entries.set fields name changed))
  save

/-- A square as two integers. -/
def integerSquare (square : Value) : Except Mismatch Value := do
  let (rank, file) ← square.parts
  return Value.ofInts [← rank.toInteger, ← file.toInteger]

/-- Stores the squares with forced queens for a board size and writes the file. -/
def saveForced (size squares : Value) : EditM Unit := do
  let (name, found, fields) ← check (withSection (← current) (.text "partial_solutions"))
  setDocument (.object fields)
  let squares ← check (do (← squares.items).mapM integerSquare)
  let changed ← check (assign found (.text size.display) (.list squares))
  setDocument (.object (Entries.set fields name changed))
  save
  let path := (← get).configuration.path
  onSession (Session.say ("Partial solution for N=" ++ size.display ++ " saved to " ++ path))

/-- Opens the configuration in a file and changes it. -/
def edit {α : Type} (path : Value) (action : EditM α) : SessionM α := fun session =>
  match load path session with
  | .error failure session => .error failure session
  | .ok configuration session =>
      match action ⟨session, configuration⟩ with
      | .ok answer ⟨session, _⟩ => .ok answer session
      | .error failure ⟨session, _⟩ => .error failure session

end Configuration

end ExactCover
