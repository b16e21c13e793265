import ExactCover.Value.Display
import ExactCover.Value.Number
import ExactCover.Number.Places

/-!
# Progress lines

One line for each step of a longer run: how many steps of all there are, and what is done.
-/

set_option autoImplicit false

namespace ExactCover

/-- A run of some steps with a label. -/
structure Progress where
  total : Value
  label : Value

namespace Progress

/-- A run has at least one step. -/
def ofTotal (total label : Value) : Except Mismatch Progress := do
  return ⟨if ← total.isMore (.int 1) then total else .int 1, label⟩

/-- The line of a step. -/
def line (progress : Progress) (step detail : Value) : Except Mismatch String := do
  let percent := (← step.divide progress.total) * 100
  let ending := if detail.isTrue then " - " ++ detail.display else ""
  return "[" ++ progress.label.display ++ "] " ++ step.display ++ "/" ++ progress.total.display ++
    " (" ++ Double.fixed percent 0 ++ "%)" ++ ending

end Progress

end ExactCover
