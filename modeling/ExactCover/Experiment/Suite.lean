import ExactCover.Experiment.Progress
import ExactCover.Experiment.Runs
import ExactCover.Session
import ExactCover.Statistics.Summary

/-!
# Suites of experiments

A suite does the runs of every board size in turn: the enumerations under each policy, the random
solutions, and the completions of forced queens. It prints a line for each run and collects the
results by board size.
-/

set_option autoImplicit false

namespace ExactCover

/-- What a suite is asked to do. -/
structure Suite where
  sizes : Value
  /-- How many random solutions are drawn for each size. -/
  runs : Value
  limit : Value
  seed : Value
  /-- The squares with forced queens, by board size. -/
  forced : Entries Key Value
  /-- The label of progress lines; there are none without a label. -/
  label : Value
  validate : Bool
  enumerations : Bool
  samples : Bool
  /-- The names of policies; both are used if there is none. -/
  policies : Value

namespace Suite

/-- The policies by name. -/
def policies? : String → Option Policy
  | "optimized" => some .smallest
  | "unoptimized" => some .first
  | _ => none

def policyNames : List String := ["optimized", "unoptimized"]

/-- The policy of a name. -/
def policyOf? : Key → Option (String × Policy)
  | .text name => (policies? name).map (name, ·)
  | _ => none

/-- The different keys of a list, each where it appears first. -/
def distinctKeys (keys : List Key) : List Key :=
  (keys.foldl (fun known key => if known.any (· == key) then known else key :: known) []).reverse

/-- Texts in the order of their characters. -/
def sortedNames (names : List String) : List String :=
  names.mergeSort fun left right => !(decide (right < left))

/-- What keeps keys, of which there is at least one, from being sorted and written as names. -/
def nameMismatch? (keys : List Key) : Option Mismatch :=
  match keys with
  | [] => none
  | first :: rest =>
      match rest.find? fun key => !(key.toValue.isLess first.toValue).isOk with
      | some other => some (.noOrder "<" other.toValue.kind first.toValue.kind)
      | none =>
          let least := rest.foldl (fun least key =>
            if (key.toValue.isLess least.toValue).toOption = some true then key else least) first
          match least with
          | .text _ => none
          | other => some (.notText 0 other.toValue.kind)

/-- The text that a key is. -/
def textOf? : Key → Option String
  | .text name => some name
  | _ => none

/-- The policies of a suite with their names. -/
def chosenPolicies (policies : Value) : SessionM (List (String × Policy)) := do
  if !policies.isTrue then
    return [("optimized", .smallest), ("unoptimized", .first)]
  let keys ← Session.check (do (← policies.items).mapM Key.ofValue)
  let unknown := distinctKeys (keys.filter fun key => (policyOf? key).isNone)
  if unknown.isEmpty then return keys.filterMap policyOf?
  match nameMismatch? unknown with
  | some mismatch => throw (.unsuitable mismatch)
  | none => throw (.unknownPolicies (sortedNames (unknown.filterMap textOf?)))

/-- The line of an enumeration. -/
def enumerationLine (name : String) (entry : Enumeration) : String :=
  "  [" ++ name ++ "] solutions=" ++ toString entry.solutions ++ ", updates=" ++
    toString entry.updates ++ ", time=" ++ Double.fixed entry.time 4 ++ "s"

/-- The line of random runs. -/
def samplesLine (summary : Value) : Except Mismatch String := do
  return "  [random] valid " ++ (← summary.field "valid_runs").display ++ "/" ++
    (← summary.field "total_runs").display ++ ", distinct boards=" ++
    (← summary.field "distinct_boards").display

/-- The line of a completion. -/
def completionLine (entry : Completion) : String :=
  "  [partial] forced=" ++ entry.squaresValue.display ++ " solutions=" ++
    toString entry.solutions ++ " restored=" ++ (Value.bool entry.restored).display

/-- Keeps an entry under a board size. -/
def keep (entries : Entries Key Value) (size entry : Value) :
    Except Mismatch (Entries Key Value) := do
  return Entries.set entries (← Key.ofValue size) entry

/-- Enumerates a board under each policy. -/
def enumerateAll (suite : Suite) (size : Value) :
    List (String × Policy) → Fields → SessionM Fields
  | [], entries => return entries
  | (name, policy) :: rest, entries => do
      let entry ← Session.lift id (Runs.enumerate size policy suite.limit suite.validate)
      Session.say (enumerationLine name entry)
      enumerateAll suite size rest (Entries.set entries (.text name) entry.toValue)

/-- Whether random solutions are drawn. -/
def drawsSamples (suite : Suite) : Except Mismatch Bool :=
  if suite.samples then suite.runs.isMore (.int 0) else .ok false

/-- The seed for a board size: every size has a stream of its own. -/
def seedFor (suite : Suite) (size : Value) : Except Mismatch Value :=
  if suite.seed.isNull then .ok .null else suite.seed.add size

/-- Does the runs of one board size. -/
def runSize (suite : Suite) (policies : List (String × Policy)) (size : Value)
    (results : Results) : SessionM Results := do
  Session.say ("=== N = " ++ size.display ++ " ===")
  let mut results := results
  if suite.enumerations then
    let entries ← enumerateAll suite size policies []
    let kept ← Session.check (keep results.enumerations size (.object entries))
    results := { results with enumerations := kept }
  if ← Session.check suite.drawsSamples then
    let seed ← Session.check (suite.seedFor size)
    let runs ← Session.lift id (Runs.sample size suite.runs seed suite.validate)
    let summary ← Session.lift .figures
      (Statistics.summarizeRuns (.list (runs.map RandomRun.toValue)))
    let kept ← Session.check (keep results.samples size summary)
    results := { results with samples := kept }
    Session.say (← Session.check (samplesLine summary))
  if !suite.forced.isEmpty then
    let key ← Session.check (Key.ofValue size)
    if let some squares := Entries.get? suite.forced key then
      let entry ← Session.lift id (Runs.complete size squares suite.limit suite.validate)
      let kept ← Session.check (keep results.completions size entry.toValue)
      results := { results with completions := kept }
      Session.say (completionLine entry)
  return results

/-- Does the runs of all board sizes from the one of some number on. -/
def runSizes (suite : Suite) (progress : Option Progress) (policies : List (String × Policy)) :
    Nat → List Value → Results → SessionM Results
  | _, [], results => return results
  | step, size :: rest, results => do
      if let some progress := progress then
        Session.say (← Session.check
          (progress.line (.int step) (.text ("N=" ++ size.display))))
      let results ← runSize suite policies size results
      runSizes suite progress policies (step + 1) rest results

/-- Does all the runs of a suite. -/
def run (suite : Suite) : SessionM Results := do
  let progress ←
    if suite.label.isTrue then do
      let count ← Session.check suite.sizes.length
      some <$> Session.check (Progress.ofTotal (.int count) suite.label)
    else pure none
  let policies ← chosenPolicies suite.policies
  runSizes suite progress policies 1 (← Session.check suite.sizes.items) .empty

end Suite

end ExactCover
