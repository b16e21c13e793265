import ExactCover.Arena.Ring
import ExactCover.Arena.Splice

/-!
# Covering a column

Covering a column takes it out of its horizontal ring, and takes every row that meets it out of all
the other columns. Uncovering it puts everything back in the opposite order: the rows from the
bottom up, each from right to left, and the column itself last.
-/

set_option autoImplicit false

namespace ExactCover.Arena

/-- Takes one record of a row out of its column and counts the update. -/
def hideMember (node : Link) : LinkM Unit := do
  hide node
  resize (← read node).column (-1)
  modify fun arena => { arena with updates := arena.updates + 1 }

/-- Puts one record of a row back into its column. -/
def restoreMember (node : Link) : LinkM Unit := do
  resize (← read node).column 1
  restore node

/-- Takes the rest of a row out of the other columns, from left to right. -/
def hideRow (node : Link) : LinkM Unit := walk Node.right hideMember node

/-- Puts the rest of a row back into the other columns, from right to left. -/
def restoreRow (node : Link) : LinkM Unit := walk Node.left restoreMember node

/-- Removes a column and every row that meets it. -/
def cover (header : Link) : LinkM Unit := do
  hideHeader header
  walk Node.down hideRow header

/-- Undoes the cover of the column that was covered last. -/
def uncover (header : Link) : LinkM Unit := do
  walk Node.up restoreRow header
  restoreHeader header

end ExactCover.Arena
