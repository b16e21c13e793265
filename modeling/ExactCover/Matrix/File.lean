import ExactCover.Matrix.Grid
import ExactCover.Text.Integer
import ExactCover.Text.Lines

/-!
# Matrix files

A matrix file has one row a line, its entries separated by blanks. A number sign begins a comment
that lasts to the end of the line, and lines without entries are skipped. Entries are integers of 64
bits, written with an optional sign and ASCII digits. A file without rows is a matrix of no rows and
one column.
-/

set_option autoImplicit false

namespace ExactCover.MatrixFile

/-- Why a file is no matrix. -/
inductive Fault where
  /-- A row has another number of entries than the first; rows count from one. -/
  | rowLength (expected found row : Nat)
  /-- An entry is no integer; rows count from zero and columns from one. -/
  | entry (text : String) (row column : Nat)
deriving DecidableEq

/-- The wording of a fault. -/
def Fault.message : Fault → String
  | .rowLength expected found row =>
      "the number of columns changed from " ++ toString expected ++ " to " ++ toString found ++
        " at row " ++ toString row ++ "; use `usecols` to select a subset and avoid this error"
  | .entry text row column =>
      "could not convert string " ++ Text.firstCharacters 100 (Text.quoted text) ++
        " to int64 at row " ++ toString row ++ ", column " ++ toString column ++ "."

/-- Entries are below this bound, and not below its negative. -/
def entryBound : Int := 9223372036854775808

/-- Reads an entry. -/
def readEntry? (word : List Char) : Option Int :=
  let (negative, digits) := Text.takeSign word
  if digits.isEmpty || !digits.all Text.isPlainDigit then none
  else
    let size : Int := Text.digitsValue digits
    let number := if negative then -size else size
    if -entryBound ≤ number ∧ number < entryBound then some number else none

/-- Reads the entries of a row from some column on. -/
def readEntries (row : Nat) : Nat → List (List Char) → Except Fault (List Int)
  | _, [] => .ok []
  | column, word :: rest =>
      match readEntry? word with
      | none => .error (.entry (String.ofList word) row column)
      | some number => do return number :: (← readEntries row (column + 1) rest)

/-- The entries of every line that has some, as words. -/
def rowWords (text : List Char) : List (List (List Char)) :=
  ((Text.lines text).map fun line => Text.words (line.takeWhile (· != '#'))).filter
    fun words => !words.isEmpty

/-- Reads rows from the row of some number on; each has as many entries as the first. -/
def readRows (width : Nat) : Nat → List (List (List Char)) → Except Fault (List (List Int))
  | _, [] => .ok []
  | row, words :: rest =>
      if words.length = width then do
        let entries ← readEntries row 1 words
        return entries :: (← readRows width (row + 1) rest)
      else .error (.rowLength width words.length (row + 1))

/-- Reads a matrix file. -/
def read (text : String) : Except Fault Grid := do
  let rows := rowWords text.toList
  let width := (rows.head?.map List.length).getD 1
  let entries ← readRows width 0 rows
  return ⟨[rows.length, width], entries.flatten.map .int⟩

end ExactCover.MatrixFile
