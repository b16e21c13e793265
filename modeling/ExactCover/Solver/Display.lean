import ExactCover.Solver.Problem
import ExactCover.Value.Display

/-!
# Printed solutions

A solution is printed as one line for each of its rows, and a row as the names of its columns.
-/

set_option autoImplicit false

namespace ExactCover.Arena

/-- The names of the columns of a row, with a blank between them. -/
def rowText (arena : Arena) (node : Link) : Except LinkError String := do
  return " ".intercalate ((← arena.rowNames node).map Value.display)

/-- The rows of decisions, one a line. -/
def decisionsText (arena : Arena) (decisions : List Link) : Except LinkError String := do
  return "\n".intercalate (← decisions.mapM arena.rowText)

end ExactCover.Arena
