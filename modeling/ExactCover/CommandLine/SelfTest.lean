import ExactCover.CommandLine.Modes
import ExactCover.Matrix.Cover

/-!
# Self-test

A quick run of every part of the program with known answers. A check that does not hold stops it.
-/

set_option autoImplicit false

namespace ExactCover.CommandLine

/-- The directory of the self-test, which is removed in the end. -/
def selfTestDirectory : String := "quick_tmp"

/-- Stops the self-test unless something holds. -/
def expect (holds : Bool) (what : String) : SessionM Unit :=
  if holds then return () else throw (.untrue (.selfTest what))

/-- Checks that the example matrix has its one solution under a policy. -/
def checkMatrix (policy : Policy) : SessionM Unit := do
  let grid := MatrixProblem.exampleGrid
  let matrix ← Session.lift .matrix (MatrixProblem.ofGrid grid .null policy)
  let (found, _) ← onProblem (Problem.solutions none) matrix.problem
  let covers := (found.map matrix.rowsOf).filterMap Except.toOption
  expect (covers == [[0, 3, 4]]) "The example matrix does not have its one solution."
  let cover := grid.isExactCover (Value.ofInts [0, 3, 4])
  expect (cover.toOption == some true) "The solution of the example matrix is not an exact cover."

/-- Checks the number of solutions of a board and every one of them. -/
def checkBoard (size expected : Nat) : SessionM Unit := do
  let queens ← Session.lift id (Runs.boardOf (.int size) .smallest)
  let (found, _) ← onProblem (Problem.solutions none) queens.problem
  let boards ← Session.lift id (found.mapM (Runs.ranks queens))
  expect (boards.length == expected && boards.eraseDups.length == expected)
    (toString size ++ "-Queens gave " ++ toString boards.length ++ " solutions, expected " ++
      toString expected ++ ".")
  expect (boards.all Board.isValid) (toString size ++ "-Queens produced an invalid board.")
  Session.say ("  " ++ toString size ++ "-Queens: " ++ toString expected ++ " solutions")

/-- Checks two random solutions of a board. -/
def checkRandom : SessionM Unit := do
  let queens ← Session.lift id (Runs.boardOf (.int 8) .smallest)
  let (runs, after) ← Session.lift id
    (Runs.drawMany queens false 2 queens.problem (Twister.ofSeed 42))
  expect (runs.all (·.valid)) "random_search returned an invalid board."
  let clean ← Session.lift id (Runs.isClean after)
  expect clean "undo did not restore the structure after random_search."
  Session.say "  random_search: 2 valid boards"

/-- Checks the solutions with two forced queens. -/
def checkForced : SessionM Unit := do
  let squares := Value.list [Value.ofInts [0, 2], Value.ofInts [3, 3]]
  let entry ← Session.lift id (Runs.complete (.int 8) squares .null true)
  expect (entry.restored && entry.solutions < 92) "Partial solution run misbehaved."
  Session.say ("  Partial R0F2+R3F3: " ++ toString entry.solutions ++ " completion(s)")

/-- The suite that the self-test runs. -/
def selfTestSuite : Suite :=
  { sizes := Value.ofInts [4, 5]
    runs := .int 3
    limit := .null
    seed := .int 42
    forced := []
    label := .text "Quick regression experiments"
    validate := true
    enumerations := true
    samples := true
    policies := .null }

/-- Removes the directory of the self-test with all that is in it. -/
def removeDirectory : SessionM Unit :=
  modify fun session => { session with files := session.files.remove [selfTestDirectory] }

/-- Checks that results can be saved. -/
def checkSaving (results : Results) : SessionM Unit := fun session =>
  match (Csv.saveSummary results (Value.ofInts [4, 5]) (.text selfTestDirectory)) session with
  | .ok _ session => removeDirectory session
  | .error failure session =>
      match removeDirectory session with
      | .ok _ session => .error failure session
      | .error other session => .error other session

/-- Runs all checks. -/
def selfTest : SessionM Unit := do
  Session.say "Running quick regression tests..."
  checkMatrix .smallest
  checkMatrix .first
  Session.say "  Knuth matrix: 1 exact cover under both policies"
  checkBoard 4 2
  checkBoard 8 92
  checkRandom
  checkForced
  let results ← selfTestSuite.run
  checkSaving results
  Session.say "Quick regression tests passed."

end ExactCover.CommandLine
