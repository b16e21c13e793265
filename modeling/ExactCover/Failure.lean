import ExactCover.Json.Fault
import ExactCover.Matrix.File
import ExactCover.Matrix.Problem
import ExactCover.Queens.Square
import ExactCover.Statistics.Summary
import ExactCover.Storage.Lookup

/-!
# Failures

Everything that can stop a run. A failure either refuses what the user has given, or concerns a file,
or is a defect: a document that holds the wrong kind of value, or a check of the program itself that
does not hold. Refusals and files are reported to the user; a defect ends the program.
-/

set_option autoImplicit false

namespace ExactCover

/-- A check of the program itself that does not hold. -/
inductive Assertion where
  | invalidBoard (size : Value) (board : List Int)
  | notRestored (activity : String) (size : Value)
  | invalidSample (size : Value) (board : List Int)
  | forcedIgnored (size : Value) (board : List Int)
  | undoFailed (size : Value)
  /-- A check of the self-test. -/
  | selfTest (what : String)

/-- The text of a board. -/
def boardText (board : List Int) : String := (Value.ofInts board).display

/-- The wording of a check. -/
def Assertion.message : Assertion → String
  | .invalidBoard size board => "Invalid board for N=" ++ size.display ++ ": " ++ boardText board
  | .notRestored activity size =>
      "Structure not restored after " ++ activity ++ " for N=" ++ size.display
  | .invalidSample size board =>
      "random_search returned an invalid board for N=" ++ size.display ++ ": " ++ boardText board
  | .forcedIgnored size board =>
      "Solution ignores the forced queens for N=" ++ size.display ++ ": " ++ boardText board
  | .undoFailed size => "undo did not restore the board for N=" ++ size.display
  | .selfTest what => what

/-- What stops a run. -/
inductive Failure where
  | unsuitable (mismatch : Mismatch)
  | links (error : LinkError)
  | matrix (error : MatrixError)
  | board (error : BoardError)
  | square (fault : Square.Fault)
  /-- A forced queen that another one attacks. -/
  | attack (rank file : Value)
  | document (fault : Json.Fault)
  | noConfiguration (path : String)
  /-- An entry of the forced queens that is no pair of integers. -/
  | badSquare (size : String) (entry : Value)
  | badSizes (sizes : List Value)
  | unknownPolicies (names : List String)
  | file (error : FileError)
  | lookup (error : LookupError)
  | packing (fault : PackingFault)
  | matrixFile (fault : MatrixFile.Fault)
  | figures (error : Statistics.FigureError)
  /-- A chart of boxes without any number to draw a box of. -/
  | noBoxes
  | noForcedQueens (size : Value)
  | untrue (assertion : Assertion)

/-- The wording of a failure. -/
def Failure.message : Failure → String
  | .unsuitable mismatch => mismatch.message
  | .links error => error.message
  | .matrix error => error.message
  | .board error => error.message
  | .square fault => fault.message
  | .attack onRank onFile =>
      "Forced queens attack each other at (" ++ onRank.display ++ ", " ++ onFile.display ++ ")"
  | .document fault => fault.message
  | .noConfiguration path =>
      "Configuration file not found: " ++ path ++
        "\nCopy config.json from the repository root as a starting point"
  | .badSquare size entry =>
      "partial_solutions[" ++ size ++ "]: expected [rank, file], got " ++ entry.inner
  | .badSizes sizes => "Board sizes must be >= 1, got " ++ (Value.list sizes).display
  | .unknownPolicies names =>
      "Unknown selection policy: " ++ ", ".intercalate names ++
        ". Available: optimized, unoptimized"
  | .file error => error.message
  | .lookup error => error.message
  | .packing fault => fault.message
  | .matrixFile fault => fault.message
  | .figures error => error.message
  | .noBoxes => "List of boxplot statistics and \x60positions\x60 values must have same the length"
  | .noForcedQueens size =>
      "No forced queens given for N=" ++ size.display ++ "; use --cell or config.json"
  | .untrue assertion => assertion.message

/-- Whether a failure refuses a value, a file, or neither. -/
inductive FailureNature where
  /-- What was given cannot be used. -/
  | refusal
  /-- There is no such file. -/
  | missingFile
  /-- Some other trouble with a file. -/
  | file
  /-- Something that is not meant to happen. -/
  | defect
deriving DecidableEq

/-- A mismatch that refuses a value because of its content and not because of its kind. -/
def Mismatch.isRefusal : Mismatch → Bool
  | .tooFewParts _ => true
  | .tooManyParts => true
  | .malformedDouble _ => true
  | .integer _ => true
  | .wholePartOfNotANumber => true
  | _ => false

def Mismatch.nature (mismatch : Mismatch) : FailureNature :=
  if mismatch.isRefusal then .refusal else .defect

def MatrixError.nature : MatrixError → FailureNature
  | .names mismatch => mismatch.nature
  | .links _ => .defect
  | _ => .refusal

def BoardError.nature : BoardError → FailureNature
  | .tooSmall _ => .refusal
  | .offBoard .. => .refusal
  | .badSize mismatch => mismatch.nature
  | .badCoordinate mismatch => mismatch.nature
  | .betweenSquares .. => .defect
  | .noSquare mismatch => mismatch.nature
  | .links _ => .defect

def Statistics.FigureError.nature : FigureError → FailureNature
  | .unsuitable mismatch => mismatch.nature
  | .irregular _ => .refusal
  | .noNumbers => .defect

/-- A text that is no path is refused; a path may also be wrong for what is on disk. -/
def FileError.nature : FileError → FailureNature
  | .atPath .missing _ => .missingFile
  | .atPath .. => .file
  | .nullByte => .refusal
  | .unencodable _ => .refusal

def LookupError.nature : LookupError → FailureNature
  | .notFound _ => .missingFile
  | .badHost => .refusal

/-- A file that is not packed as its name tells is reported. One that breaks off or is packed with
errors is not. -/
def PackingFault.nature : PackingFault → FailureNature
  | .notGzip _ => .file
  | .badStream => .file
  | _ => .defect

/-- A document is refused unless its parts are nested too deeply to be read at all. -/
def Json.Fault.nature : Json.Fault → FailureNature
  | .tooDeep _ => .defect
  | _ => .refusal

/-- The nature of a failure. -/
def Failure.nature : Failure → FailureNature
  | .unsuitable mismatch => mismatch.nature
  | .links _ => .defect
  | .matrix error => error.nature
  | .board error => error.nature
  | .square (.unsuitable mismatch) => mismatch.nature
  | .square _ => .refusal
  | .attack .. => .refusal
  | .document fault => fault.nature
  | .noConfiguration _ => .missingFile
  | .badSquare .. => .refusal
  | .badSizes _ => .refusal
  | .unknownPolicies _ => .refusal
  | .file error => error.nature
  | .lookup error => error.nature
  | .packing fault => fault.nature
  | .matrixFile _ => .refusal
  | .figures error => error.nature
  | .noBoxes => .refusal
  | .noForcedQueens _ => .refusal
  | .untrue _ => .defect

end ExactCover
