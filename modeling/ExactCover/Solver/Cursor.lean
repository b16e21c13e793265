import ExactCover.Solver.Search

/-!
# Solutions one at a time

A cursor stands before, on or behind the solutions of a problem. While it stands on a solution, that
solution is in force in the arena; closing the cursor undoes it. A cursor that fails is closed.

Main statement: `advance_finished` and `close_finished` (a cursor that is finished changes nothing
any more).
-/

set_option autoImplicit false

namespace ExactCover

/-- Where a cursor stands. -/
inductive Cursor where
  /-- Before the first solution. -/
  | fresh
  /-- On a solution. -/
  | on (solution : List Link)
  /-- Behind the last solution, or closed. -/
  | finished

namespace Cursor

/-- Goes on from a solution. -/
def goOn (solution : List Link) : ProblemM (Option (List Link)) := do
  let policy := (← get).policy
  let found ← Problem.deciding solution (Search.nextOrUndo policy)
  return if found.isEmpty then none else some found

/-- The next solution, if there is one. -/
def advance : Cursor → ProblemM (Option (List Link))
  | .fresh => goOn []
  | .on solution => goOn solution
  | .finished => return none

/-- Where the cursor stands after `advance` has given its answer. -/
def moved : Option (List Link) → Cursor
  | some solution => .on solution
  | none => .finished

/-- Undoes the solution that the cursor stands on. Afterwards the cursor is finished. -/
def close : Cursor → ProblemM Unit
  | .on solution => Problem.undo solution
  | _ => return ()

theorem advance_finished (problem : Problem) :
    advance .finished problem = .ok none problem := rfl

theorem close_finished (problem : Problem) : close .finished problem = .ok () problem := rfl

end Cursor

end ExactCover
