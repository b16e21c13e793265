import ExactCover.Queens.Problem
import ExactCover.Text.Integer
import ExactCover.Value.Access

/-!
# Squares in text

A square is written as `R0F2`, in letters of either case, or as `0,2`; blanks are allowed around it
and around the comma. Several squares are separated by semicolons, and parts that are blank are
skipped.

Main statement: `readSquare_trim` (blanks around a square do not matter).
-/

set_option autoImplicit false

namespace ExactCover.Square

/-- Why a text is not read as squares. -/
inductive Fault where
  /-- A part that is no square, without the blanks around it. -/
  | unreadable (part : String)
  /-- A rank or file that is no usable number. -/
  | number (fault : Text.IntegerFault)
  /-- Squares are read from texts. -/
  | unsuitable (mismatch : Mismatch)

/-- The wording of a fault. -/
def Fault.message : Fault → String
  | .unreadable part =>
      "Cannot parse square '" ++ part ++ "'. Use R<rank>F<file> or rank,file"
  | .number fault => fault.message
  | .unsuitable mismatch => mismatch.message

/-- A row of digits in front, and what follows it. -/
def takeDigits (characters : List Char) : List Char × List Char :=
  (characters.takeWhile Text.isDigit, characters.dropWhile Text.isDigit)

/-- The digits of rank and file in a square written with letters, after the first letter. -/
def lettered? (characters : List Char) : Option (List Char × List Char) :=
  let (rank, rest) := takeDigits characters
  match rest with
  | letter :: rest =>
      let (file, rest) := takeDigits rest
      if (letter = 'F' || letter = 'f') && !rank.isEmpty && !file.isEmpty && rest.isEmpty then
        some (rank, file)
      else none
  | [] => none

/-- The digits of rank and file in a square written with a comma. -/
def separated? (characters : List Char) : Option (List Char × List Char) :=
  let (rank, rest) := takeDigits characters
  match rest.dropWhile Text.isBlank with
  | ',' :: rest =>
      let (file, rest) := takeDigits (rest.dropWhile Text.isBlank)
      if !rank.isEmpty && !file.isEmpty && rest.isEmpty then some (rank, file) else none
  | _ => none

/-- The digits of rank and file in a square without blanks around it. -/
def digits? : List Char → Option (List Char × List Char)
  | 'R' :: rest => lettered? rest
  | 'r' :: rest => lettered? rest
  | characters => separated? characters

/-- Reads a square. -/
def readSquare (part : List Char) : Except Fault Square := do
  let bare := Text.trim part
  match digits? bare with
  | none => throw (.unreadable (String.ofList bare))
  | some (rank, file) =>
      let rank ← (Text.readInteger (String.ofList rank)).mapError .number
      let file ← (Text.readInteger (String.ofList file)).mapError .number
      return (rank, file)

/-- The parts of a text between semicolons that are not blank. -/
def parts (text : String) : List (List Char) :=
  (Text.split ';' text.toList).filter fun part => !part.all Text.isBlank

/-- Reads the squares that a text names. -/
def readText : Value → Except Fault (List Square)
  | .text text => (parts text).mapM readSquare
  | other => .error (.unsuitable (.noMember other.kind "split"))

/-- Reads the squares of some texts. None are found if there is no text, or none but blank parts. -/
def readSquares (texts : Value) : Except Fault (Option (List Square)) := do
  if !texts.isTrue then return none
  let squares ← (← texts.items.mapError .unsuitable).mapM readText
  return if squares.flatten.isEmpty then none else some squares.flatten

/-- **Blanks around a square do not matter.** -/
theorem readSquare_trim (part : List Char) : readSquare (Text.trim part) = readSquare part := by
  simp [readSquare, Text.trim_trim]

end ExactCover.Square
