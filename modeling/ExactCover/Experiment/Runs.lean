import ExactCover.Experiment.Entry
import ExactCover.Failure
import ExactCover.Queens.Board
import ExactCover.Random.Twister
import ExactCover.Solver.Sampling

/-!
# Runs on boards

The three kinds of runs: enumerating the solutions of a board, drawing random solutions from it, and
counting the solutions with queens forced on some squares. Each run makes its board and leaves it as
it was. A run can check what it finds; a check that does not hold stops it.
-/

set_option autoImplicit false

namespace ExactCover.Runs

/-- What a run computes, or what stops it. -/
abbrev Outcome (α : Type) := Except Failure α

/-- The result of a computation on a problem together with the problem afterwards. -/
def onProblem {α : Type} (action : ProblemM α) (problem : Problem) : Outcome (α × Problem) :=
  match action problem with
  | .ok answer after => .ok (answer, after)
  | .error error _ => .error (.links error)

theorem onProblem_of_ok {α : Type} {action : ProblemM α} {problem after : Problem} {answer : α}
    (succeeds : action problem = .ok answer after) :
    onProblem action problem = .ok (answer, after) := by
  rw [onProblem, succeeds]

/-- The limit on the number of solutions that a value sets: null sets none, and a double counts as
the next whole number. -/
def limitOf (value : Value) : Except Mismatch (Option Int) :=
  match value.number? with
  | some (.int number) => .ok (some number)
  | some (.float number) =>
      match Double.ceiling? number with
      | some number => .ok (some number)
      | none => .ok (if number < 0 then some 0 else none)
  | none => if value.isNull then .ok none else .error (.noOrder "<=" value.kind "int")

/-- The board of a size. -/
def boardOf (size : Value) (policy : Policy) : Outcome QueensProblem :=
  (QueensProblem.ofSize size policy).mapError .board

/-- The ranks of the queens of some decisions. -/
def ranks (queens : QueensProblem) (decisions : List Link) : Outcome (List Int) :=
  (queens.board decisions).mapError .board

/-- Stops a run unless something holds. -/
def assert (holds : Bool) (assertion : Assertion) : Outcome Unit :=
  if holds then .ok () else .error (.untrue assertion)

/-- Whether no primary column of a problem is covered. -/
def isClean (problem : Problem) : Outcome Bool := problem.isClean.mapError .links

/-! ## Enumeration -/

/-- Enumerates the solutions of a board, up to a limit. -/
def enumerate (size : Value) (policy : Policy) (limit : Value) (validate : Bool) :
    Outcome Enumeration := do
  let queens ← boardOf size policy
  let limit ← (limitOf limit).mapError .unsuitable
  if limit.any (· ≤ 0) then return ⟨0, 0, 0.0, false⟩
  let (found, after) ← onProblem (Problem.solutions limit) queens.problem
  if validate then
    found.forM fun decisions => do
      let board ← ranks queens decisions
      assert (Board.isValid board) (.invalidBoard size board)
    assert (← isClean after) (.notRestored "enumeration" size)
  return {
    solutions := found.length
    updates := after.arena.updates
    time := span
    exhausted := limit.all fun limit => (found.length : Int) < limit }

/-! ## Random solutions -/

/-- The stream of random numbers of a seed. -/
def streamOf : Value → Except Mismatch Twister
  | .int seed => .ok (Twister.ofSeed seed)
  | .bool flag => .ok (Twister.ofSeed (if flag then 1 else 0))
  | .list _ => .error .notASeed
  | .object _ => .error .notASeed
  | _ => .ok (Twister.ofSeed 0)

/-- Draws one random solution and undoes it. -/
def drawOne (queens : QueensProblem) (validate : Bool) (problem : Problem) (stream : Twister) :
    Outcome (RandomRun × Problem × Twister) := do
  let before := problem.arena.updates
  let (result, stream) := problem.sample Twister.below stream
  match result with
  | .error error _ => throw (.links error)
  | .ok decisions problem =>
      let board ← ranks queens decisions
      let valid := !decisions.isEmpty && Board.isValid board
      if validate then
        assert (decisions.isEmpty || valid) (.invalidSample queens.size board)
      let (_, problem) ← onProblem (Problem.undo decisions) problem
      return (⟨valid, problem.arena.updates - before, span, board⟩, problem, stream)

/-- Draws random solutions one after the other from one board. -/
def drawMany (queens : QueensProblem) (validate : Bool) :
    Nat → Problem → Twister → Outcome (List RandomRun × Problem)
  | 0, problem, _ => .ok ([], problem)
  | count + 1, problem, stream => do
      let (run, problem, stream) ← drawOne queens validate problem stream
      let (runs, problem) ← drawMany queens validate count problem stream
      return (run :: runs, problem)

/-- Draws random solutions of a board. -/
def sample (size count seed : Value) (validate : Bool) : Outcome (List RandomRun) := do
  let stream ← (streamOf seed).mapError .unsuitable
  let queens ← boardOf size .smallest
  let count ← count.toCount.mapError .unsuitable
  let (runs, after) ← drawMany queens validate count.toNat queens.problem stream
  if validate then assert (← isClean after) (.notRestored "random sampling" size)
  return runs

/-! ## Forced queens -/

/-- The squares that a value lists. -/
def squaresOf (squares : Value) : Except Mismatch (List Square) := do
  (← squares.items).mapM fun square => do
    let (rank, file) ← square.parts
    return (← rank.toInteger, ← file.toInteger)

/-- Stops a run if a forced queen attacks another one. -/
def checkAttacks (squares : List Value) : Outcome Unit := do
  match ← (Board.attacked? squares).mapError .unsuitable with
  | some (rank, file) => throw (.attack rank file)
  | none => return ()

/-- Forces queens on squares, one after the other. -/
def force (queens : QueensProblem) :
    List (Value × Value) → List Link → Problem → Outcome (List Link × Problem)
  | [], decisions, problem => .ok (decisions, problem)
  | (rank, file) :: rest, decisions, problem => do
      let node ← (queens.cell rank file).mapError .board
      let (decisions, problem) ← onProblem (Problem.commit node decisions) problem
      force queens rest decisions problem

/-- A square as a value. -/
def squareValue (square : Square) : Value := Value.ofInts [square.1, square.2]

/-- Whether a board has a queen on every one of some squares. -/
def holdsAll (board : List Int) (squares : List Square) : Bool :=
  squares.all fun (rank, file) => board[file.toNat]? == some rank

/-- Stops a run unless the board of some decisions is valid and has a queen on every one of some
squares. -/
def checkHeld (queens : QueensProblem) (squares : List Square) (decisions : List Link) :
    Outcome Unit := do
  let board ← ranks queens decisions
  assert (Board.isValid board && holdsAll board squares) (.forcedIgnored queens.size board)

/-- Counts the solutions with queens on some squares, up to a limit. -/
def complete (size squares limit : Value) (validate : Bool) : Outcome Completion := do
  let squares ← (squaresOf squares).mapError .unsuitable
  checkAttacks (squares.map squareValue)
  let queens ← boardOf size .smallest
  let places := squares.map fun (rank, file) => (Value.int rank, Value.int file)
  let (forced, problem) ← force queens places [] queens.problem
  let limit ← (limitOf limit).mapError .unsuitable
  let (found, problem) ← onProblem (Problem.solutions limit) problem
  if validate then
    found.forM fun decisions => checkHeld queens squares (decisions ++ forced)
  let (_, problem) ← onProblem (Problem.undo forced) problem
  let restored := (← isClean problem) && problem.arena.snapshot == queens.problem.arena.snapshot
  if validate then assert restored (.undoFailed size)
  return ⟨squares, found.length, restored, span⟩

end ExactCover.Runs
