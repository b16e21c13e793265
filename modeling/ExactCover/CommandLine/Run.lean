import ExactCover.CommandLine.SelfTest
import ExactCover.CommandLine.Usage

/-!
# Running a command line

Reads a command line, applies the configuration, and does what is asked. A failure that refuses
something or concerns a file ends the run with a line that tells it; any other failure goes through
to the caller.
-/

set_option autoImplicit false

namespace ExactCover.CommandLine

/-- How a run ends. -/
inductive Ending where
  | done
  /-- Ended with a code, after a message. -/
  | code (code : Nat)
  /-- Stopped by a failure that is not told to the user. -/
  | failed (failure : Failure)

/-- A run that is over: how it has ended, what it has written to the error stream, and the session. -/
structure Outcome where
  ending : Ending
  errors : String
  session : Session

/-- Ends a run with code 1 and a line. -/
def reported (line : String) (session : Session) : Outcome :=
  match Session.say line session with
  | .ok _ session => ⟨.code 1, "", session⟩
  | .error _ session => ⟨.code 1, "", session⟩

/-- Ends a run that has failed while it was configured. -/
def configurationFailed (failure : Failure) (session : Session) : Outcome :=
  match failure.nature with
  | .missingFile => reported ("Configuration file not found: " ++ failure.message) session
  | .refusal => reported ("Configuration error: " ++ failure.message) session
  | _ => ⟨.failed failure, "", session⟩

/-- Ends a run that has failed while it was carried out. -/
def executionFailed (failure : Failure) (session : Session) : Outcome :=
  match failure.nature with
  | .defect => ⟨.failed failure, "", session⟩
  | _ => reported ("Execution error: " ++ failure.message) session

/-- Reads the squares of the command line and applies the configuration. Only experiments need a
configuration file. -/
def configure (options : Options) : SessionM (Option (List Square)) := do
  let squares ← Session.lift .square (Square.readSquares (.list options.squares))
  let path ← Session.check (Configuration.pathOf options.configuration)
  let wanted ←
    if options.mode = .experiments then pure true else Configuration.isPresent path
  if wanted then
    let _ ← Configuration.apply options.configuration
  return squares

/-- Squares as a value. -/
def squaresValue (squares : List Square) : Value := .list (squares.map Runs.squareValue)

/-- Prints the solutions with forced queens, and stores the squares if that is asked for. -/
def executeForced (options : Options) (given : Option (List Square)) (limit : Value) :
    SessionM Unit := do
  let squares ←
    match given with
    | some given => pure (squaresValue given)
    | none => do
        let key ← Session.check (Key.ofValue options.size)
        pure ((Entries.get? (← get).settings.forced key).getD .null)
  if !squares.isTrue then throw (.noForcedQueens options.size)
  forced options.size squares limit
  match given with
  | some given =>
      if options.saveSquares then
        Configuration.edit options.configuration
          (Configuration.saveForced options.size (squaresValue given))
  | none => return ()

/-- Does what the options ask for. -/
def execute (options : Options) (given : Option (List Square)) : SessionM Unit := do
  let settings := (← get).settings
  let policy : Policy :=
    if settings.optimized.isTrue && !options.unoptimized then .smallest else .first
  let limit := if options.limit.isNull then settings.solutionLimit else options.limit
  let seed := if options.seed.isNull then settings.seed else options.seed
  match options.mode with
  | .experiments => experiments options.validate options.plots
  | .enumerate => enumerate options.size policy limit
  | .random => random options.size options.runs seed
  | .forced => executeForced options given limit
  | .matrix => matrix options.matrix policy limit

/-- Carries out options. -/
def perform (options : Options) (session : Session) : Outcome :=
  if options.selfTest then
    match selfTest session with
    | .ok () session => ⟨.done, "", session⟩
    | .error failure session => ⟨.failed failure, "", session⟩
  else
    match configure options session with
    | .error failure session => configurationFailed failure session
    | .ok given session =>
        match execute options given session with
        | .ok () session => ⟨.done, "", session⟩
        | .error failure session => executionFailed failure session

/-- Runs a command line. -/
def run (words : List String) (session : Session) : Outcome :=
  match read words with
  | .ok options => perform options session
  | .error .help =>
      ⟨.code 0, "", { session with printed := session.printed ++ helpText }⟩
  | .error (.refused refusal) => ⟨.code 2, refusalText refusal, session⟩

end ExactCover.CommandLine
