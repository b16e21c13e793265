import ExactCover.Configuration.Basic

/-!
# Applying a configuration

Sets the settings of a session from a configuration. The settings are set one after the other, so a
configuration that is refused may have set some of them.
-/

set_option autoImplicit false

namespace ExactCover.Configuration

/-- Whether a board size is too small. -/
def isTooSmall (size : Value) : Except Mismatch Bool := size.isLess (.int 1)

/-- Whether one of some board sizes is too small; the sizes after it are not looked at. -/
def anyTooSmall : List Value → Except Mismatch Bool
  | [] => .ok false
  | size :: rest => do if ← isTooSmall size then return true else anyTooSmall rest

/-- Sets the board sizes, the directory and the number of random runs, and returns the latter. -/
def applyExperiments (found : Value) : SessionM Value := do
  let settings := (← get).settings
  if !found.isTrue then return settings.runs
  let sizes ← Session.check (do
    let sizes ← found.fieldOr "N_values" (.list settings.sizes)
    (← sizes.items).mapM fun size => do return Value.int (← size.toInteger))
  Session.setSettings { settings with sizes := sizes }
  let directory ← Session.check (found.fieldOr "output_dir" settings.directory)
  Session.setSettings { settings with sizes := sizes, directory := directory }
  Session.check (do return .int (← (← found.fieldOr "runs_random" settings.runs).toInteger))

/-- Sets the policy and the limits, and prints the limits. -/
def applySearch (found runs : Value) : SessionM Unit := do
  let settings := (← get).settings
  let optimized ← Session.check (found.fieldOr "optimized" settings.optimized)
  let settings := { settings with optimized := .bool optimized.isTrue }
  Session.setSettings settings
  let limit ← Session.check (found.fieldOr "solution_limit" settings.solutionLimit)
  let seed ← Session.check (found.fieldOr "seed" settings.seed)
  let settings := settings.withLimits limit runs seed
  Session.setSettings settings
  settings.limitLines.forM Session.say

/-- Sets the settings from the configuration in a file, and returns the configuration. -/
def apply (path : Value) : SessionM Configuration := do
  let configuration ← load path
  let runs ← applyExperiments (← Session.check (experimentSection configuration.document))
  applySearch (← Session.check (searchSection configuration.document)) runs
  let forced ← Session.lift id (forcedQueens configuration.document)
  if !forced.isEmpty then
    Session.setSettings { (← get).settings with forced := forced }
  let sizes := (← get).settings.sizes
  if ← Session.check (anyTooSmall sizes) then throw (.badSizes sizes)
  return configuration

end ExactCover.Configuration
