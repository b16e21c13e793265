import ExactCover.CommandLine.Options
import ExactCover.Configuration.Apply
import ExactCover.Report.Charts
import ExactCover.Report.Csv
import ExactCover.Solver.Cursor
import ExactCover.Solver.Display
import ExactCover.Storage.Lookup

/-!
# Modes

What the command line can do: run the suite of experiments, or print solutions of a board, random
solutions, solutions with forced queens, or solutions of a matrix.
-/

set_option autoImplicit false

namespace ExactCover.CommandLine

/-- The text of the rows of some decisions. -/
def decisionsText (problem : Problem) (decisions : List Link) : SessionM String :=
  Session.lift .links (problem.arena.decisionsText decisions)

/-- Runs a computation on a problem and returns the problem afterwards. -/
def onProblem {α : Type} (action : ProblemM α) (problem : Problem) : SessionM (α × Problem) :=
  Session.lift id (Runs.onProblem action problem)

/-! ## Printing solutions -/

/-- Prints a solution with its number. -/
def printOne (problem : Problem) (number : Nat) (solution : List Link) : SessionM Unit := do
  Session.say ("Solution #" ++ toString number ++ ":")
  Session.say (← decisionsText problem solution)
  Session.say ""

/-- Prints the solutions behind a cursor, of which `count` have been printed, until there is no other or
the limit is reached; then the cursor is closed. Returns how many have been printed. -/
def printFrom (limit : Option Int) : Nat → Nat → Cursor → Problem → SessionM (Nat × Problem)
  | 0, _, _, _ => throw (.links .endless)
  | fuel + 1, count, cursor, problem => do
      match ← onProblem cursor.advance problem with
      | (none, problem) => return (count, problem)
      | (some solution, problem) =>
          printOne problem (count + 1) solution
          if limit.any (· ≤ ((count + 1 : Nat) : Int)) then
            let (_, problem) ← onProblem (Cursor.on solution).close problem
            return (count + 1, problem)
          else printFrom limit fuel (count + 1) (.on solution) problem

/-- Prints the solutions of a problem up to a limit, and returns how many there are. -/
def printSolutions (problem : Problem) (limit : Value) : SessionM (Nat × Problem) := do
  let limit ← Session.check (Runs.limitOf limit)
  if limit.any (· ≤ 0) then return (0, problem)
  else printFrom limit (Search.actionLimit problem.arena) 0 .fresh problem

/-- Prints the solutions of a board. -/
def enumerate (size : Value) (policy : Policy) (limit : Value) : SessionM Unit := do
  let queens ← Session.lift id (Runs.boardOf size policy)
  let (count, _) ← printSolutions queens.problem limit
  Session.say (toString count ++ " solution(s) for N=" ++ size.display)

/-- Prints random solutions of a board from the one of some number on. -/
def printRandom (queens : QueensProblem) (number : Nat) :
    Nat → Problem → Twister → SessionM Unit
  | 0, _, _ => return ()
  | count + 1, problem, stream => do
      let (result, stream) := problem.sample Twister.below stream
      match result with
      | .error error _ => throw (.links error)
      | .ok [] _ => Session.say ("No solution exists for N=" ++ queens.size.display)
      | .ok decisions problem =>
          Session.say ("Random Solution #" ++ toString number ++ ":")
          Session.say (← decisionsText problem decisions)
          let board ← Session.lift id (Runs.ranks queens decisions)
          Session.say ("Board: " ++ boardText board)
          Session.say ""
          let (_, problem) ← onProblem (Problem.undo decisions) problem
          printRandom queens (number + 1) count problem stream

/-- Prints random solutions of a board. -/
def random (size runs seed : Value) : SessionM Unit := do
  let stream ← Session.check (Runs.streamOf seed)
  let queens ← Session.lift id (Runs.boardOf size .smallest)
  let bound ← Session.check (do (← runs.add (.int 1)).toCount)
  printRandom queens 1 (bound - 1).toNat queens.problem stream

/-- Prints the solutions of a board with queens on some squares. -/
def forced (size squares limit : Value) : SessionM Unit := do
  let entries ← Session.check squares.items
  Session.lift id (Runs.checkAttacks entries)
  let queens ← Session.lift id (Runs.boardOf size .smallest)
  let places ← Session.check (entries.mapM Value.parts)
  let (decisions, problem) ← Session.lift id (Runs.force queens places [] queens.problem)
  Session.say "Using the partial solution:"
  Session.say (← decisionsText problem decisions)
  Session.say ""
  let (count, problem) ← printSolutions problem limit
  let _ ← onProblem (Problem.undo decisions) problem
  Session.say (toString count ++ " solution(s) extend " ++ toString entries.length ++
    " forced queen(s) on N=" ++ size.display)

/-- The matrix in a file, which may be packed. -/
def matrixIn (path : String) : SessionM Grid := do
  let name ← Session.lift .lookup ((← get).files.lookUp path)
  let text ← Session.lift .file ((← get).files.read name)
  let text ← Session.lift .packing ((Packing.ofPath name).unpack text)
  Session.lift .matrixFile
    (MatrixFile.read (String.ofList (Text.withLineFeeds text.toList)))

/-- The matrix at a path, or the example if there is none. -/
def matrixOf (path : Value) : SessionM Grid := do
  match path with
  | .text path => if path = "" then return MatrixProblem.exampleGrid else matrixIn path
  | _ => return MatrixProblem.exampleGrid

/-- Prints the solutions of a matrix. -/
def matrix (path : Value) (policy : Policy) (limit : Value) : SessionM Unit := do
  let grid ← matrixOf path
  let matrix ← Session.lift .matrix (MatrixProblem.ofGrid grid .null policy)
  Session.say (if policy = .smallest then "Optimized" else "Un-optimized")
  let (count, _) ← printSolutions matrix.problem limit
  Session.say (toString count ++ " exact cover(s)")

/-! ## Experiments -/

/-- The suite that the settings describe. -/
def suiteOf (settings : Settings) (validate : Bool) : Suite :=
  { sizes := .list settings.sizes
    runs := settings.runs
    limit := settings.solutionLimit
    seed := settings.seed
    forced := settings.forced
    label := .text "Experiments"
    validate := validate
    enumerations := true
    samples := true
    policies := .null }

/-- The first valid board of the random runs of each board size that has one. -/
def firstBoards (results : Results) : List Value → Except Mismatch (List (Value × Value))
  | [] => .ok []
  | size :: rest => do
      let runs ← Report.runsOf results size
      let flags ← runs.mapM (Value.field "valid")
      let valid := (runs.zip flags).filterMap fun entry =>
        if entry.2.isTrue then some entry.1 else none
      let others ← firstBoards results rest
      match valid with
      | [] => return others
      | run :: _ => return (size, ← run.field "board") :: others

/-- Keeps the first of the entries of each board size. -/
def oncePerSize : List (Value × Value) → List (Value × Value)
  | [] => []
  | (size, board) :: rest =>
      (size, board) :: (oncePerSize rest).filter fun entry => !entry.1.equal size

/-- Runs the suite of experiments and saves its results. -/
def experiments (validate plots : Bool) : SessionM Unit := do
  let settings := (← get).settings
  let sizes := Value.list settings.sizes
  let results ← (suiteOf settings validate).run
  let _ ← Csv.saveSummary results sizes settings.directory
  let _ ← Csv.saveRuns results sizes settings.directory
  if plots then
    let boards ← Session.check (firstBoards results settings.sizes)
    let _ ← Charts.all results sizes settings.directory (oncePerSize boards)

end ExactCover.CommandLine
