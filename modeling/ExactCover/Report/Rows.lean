import ExactCover.Experiment.Suite

/-!
# Rows of reports

The results of a suite as rows of cells: one row for each board size, and one row for each random
run. Results may come from anywhere, so a missing field is an error where the report needs it and an
empty cell where it does not.
-/

set_option autoImplicit false

namespace ExactCover.Report

/-- The entry of a board size, or a fallback. -/
def entryOr (entries : Entries Key Value) (size : Value) (fallback : Value) :
    Except Mismatch Value := do
  return (Entries.get? entries (← Key.ofValue size)).getD fallback

def noFields : Value := .object []

/-- The entries of the enumerations of a board size, by policy. -/
def enumerationsOf (results : Results) (size : Value) : Except Mismatch Value :=
  entryOr results.enumerations size noFields

/-- The random runs of a board size. -/
def runsOf (results : Results) (size : Value) : Except Mismatch (List Value) := do
  let summary ← entryOr results.samples size noFields
  (← summary.fieldOr "raw_runs" (.list [])).items

/-! ## One row for each board size -/

def summaryHeader : List String :=
  ["n", "opt_solutions", "opt_updates", "opt_time_seconds", "opt_exhausted", "unopt_solutions",
    "unopt_updates", "unopt_time_seconds", "unopt_exhausted", "rnd_total_runs", "rnd_valid_runs",
    "rnd_valid_rate", "rnd_distinct_boards", "rnd_updates_mean", "rnd_updates_median",
    "rnd_time_mean", "rnd_time_median", "partial_cells", "partial_solutions", "partial_restored"]

def blank : Value := .text ""

/-- The cells of an enumeration; they are empty if there is none. -/
def enumerationCells (entry : Value) : Except Mismatch (List Value) :=
  if entry.isTrue then
    ["solutions", "updates", "time", "exhausted"].mapM fun name => entry.field name
  else .ok (List.replicate 4 blank)

/-- A figure of a summary; the cell is empty if there is none. -/
def figureCell (samples : Value) (summary figure : String) : Except Mismatch Value := do
  let figures ← samples.fieldOr summary noFields
  if figures.isTrue then
    let value ← figures.fieldOr figure .null
    return if value.isNull then blank else value
  else return blank

/-- The cells of random runs. -/
def sampleCells (samples : Value) : Except Mismatch (List Value) := do
  let counts ← ["total_runs", "valid_runs", "valid_rate", "distinct_boards"].mapM fun name =>
    samples.fieldOr name blank
  return counts ++ [← figureCell samples "all_updates" "mean",
    ← figureCell samples "all_updates" "median", ← figureCell samples "all_time" "mean",
    ← figureCell samples "all_time" "median"]

/-- The text of a square. -/
def squareText (square : Value) : Except Mismatch String := do
  let (rank, file) ← square.parts
  return "R" ++ rank.display ++ "F" ++ file.display

/-- The cells of a completion; they are empty if there is none. -/
def completionCells (entry : Value) : Except Mismatch (List Value) :=
  if entry.isTrue then do
    let squares ← (← (← entry.field "cells").items).mapM squareText
    return [.text (" ".intercalate squares), ← entry.field "solutions", ← entry.field "restored"]
  else .ok (List.replicate 3 blank)

/-- The row of a board size. -/
def summaryRow (results : Results) (size : Value) : Except Mismatch (List Value) := do
  let enumerations ← enumerationsOf results size
  let optimized ← enumerations.fieldOr "optimized" .null
  let unoptimized ← enumerations.fieldOr "unoptimized" .null
  let samples ← entryOr results.samples size noFields
  let completion ← entryOr results.completions size .null
  return size :: (← enumerationCells optimized) ++ (← enumerationCells unoptimized) ++
    (← sampleCells samples) ++ (← completionCells completion)

/-! ## One row for each random run -/

def runHeader : List String := ["n", "run", "valid", "updates", "time_seconds", "board"]

/-- The row of a random run; runs of a board size are numbered from one. -/
def runRow (size : Value) (number : Nat) (run : Value) : Except Mismatch (List Value) := do
  let valid ← run.field "valid"
  let updates ← run.field "updates"
  let time ← run.field "time"
  let ranks ← (← run.field "board").items
  return [size, .int number, valid, updates, time,
    .text (" ".intercalate (ranks.map Value.display))]

/-- The rows of the random runs of a board size, each of which may fail. -/
def runRows (results : Results) (size : Value) : List (Except Mismatch (List Value)) :=
  match runsOf results size with
  | .error mismatch => [.error mismatch]
  | .ok runs => runs.zipIdx.map fun (run, place) => runRow size (place + 1) run

end ExactCover.Report
