import ExactCover.Matrix.Grid
import ExactCover.Solver.Search
import ExactCover.Value.Access

/-!
# Matrices of zeros and ones

The exact cover problem of a matrix: a solution is a choice of rows with exactly one 1 in every
column. Every column of the matrix is a primary column of the problem, and every 1 has a record.

The records are made column by column from the top down, so they are numbered in that order after
the root and the columns, and the ring of a row runs in the order of the columns.
-/

set_option autoImplicit false

namespace ExactCover

/-- A matrix of zeros and ones with its problem. -/
structure MatrixProblem where
  problem : Problem
  width : Nat
  rows : List (List Bool)
  /-- The matrix row of each record, in the order in which the records were made. -/
  rowOfRecord : Array Nat

/-- Why a grid has no problem. -/
inductive MatrixError where
  /-- A matrix has two dimensions. -/
  | notTwoDimensional (count : Nat)
  | noColumns
  /-- A matrix holds zeros and ones only. -/
  | badEntry
  | nameCount (expected found : Nat)
  /-- The names are no sequence. -/
  | names (mismatch : Mismatch)
  | links (error : LinkError)

/-- The wording of an error. -/
def MatrixError.message : MatrixError → String
  | .notTwoDimensional count =>
      "Exact cover matrix must be 2-D, got " ++ toString count ++ " dimension(s)"
  | .noColumns => "Exact cover matrix needs at least one column"
  | .badEntry => "Exact cover matrix may only contain 0 and 1"
  | .nameCount expected found =>
      "Expected " ++ toString expected ++ " column names, got " ++ toString found
  | .names mismatch => mismatch.message
  | .links error => error.message

namespace MatrixProblem

/-- An example with one solution, the rows 0, 3 and 4. -/
def example7 : List (List Bool) :=
  [[false, false, true, false, true, true, false],
    [true, false, false, true, false, false, true],
    [false, true, true, false, false, true, false],
    [true, false, false, true, false, false, false],
    [false, true, false, false, false, false, true],
    [false, false, false, true, true, false, true]]

/-- The name of a column that is given none: a letter, or its number from the 27th on. -/
def defaultName (column : Nat) : String :=
  if column < 26 then String.singleton (Char.ofNat (65 + column)) else "C" ++ toString column

/-- The example as a grid. -/
def exampleGrid : Grid :=
  ⟨[6, 7], example7.flatten.map fun one => .int (if one then 1 else 0)⟩

/-- The names of columns that are given none. -/
def defaultNames (width : Nat) : List String := (List.range width).map defaultName

/-! ## Checking -/

/-- The flag of an entry that equals zero or one. -/
def bit? (entry : Value) : Option Bool :=
  if entry.sameNumber (.int 0) then some false
  else if entry.sameNumber (.int 1) then some true
  else none

/-- The width and the rows of a grid that is a matrix of zeros and ones. -/
def check (grid : Grid) : Except MatrixError (Nat × List (List Bool)) :=
  match grid.dimensions with
  | [_, width] =>
      if width = 0 then .error .noColumns
      else
        match grid.slices.mapM (·.mapM bit?) with
        | some rows => .ok (width, rows)
        | none => .error .badEntry
  | dimensions => .error (.notTwoDimensional dimensions.length)

/-- The names of the columns: default names for null, and otherwise one item for each column. -/
def columnNames (width : Nat) (names : Value) : Except MatrixError (List Value) :=
  if names.isNull then .ok ((defaultNames width).map .text)
  else do
    let count ← names.length.mapError .names
    if count = width then names.items.mapError .names else .error (.nameCount width count)

/-! ## Building -/

/-- Makes the columns one after the other on the ring of the root, the first to the right of
`last`. -/
def addColumns (last : Link) : List Value → ProblemM (List Link)
  | [] => return []
  | name :: names => do
      let header ← Problem.newColumn name (some last)
      return header :: (← addColumns header names)

/-- Makes the record of a 1 at the bottom of a column, to the right of the last record of its
row. -/
def addOne (header : Link) (last : Option Link) : LinkM Link := do
  let node ← Arena.append header (← Arena.newNode)
  match last with
  | none => return node
  | some neighbour => Arena.insert neighbour node

/-- Makes the records of a column. `lasts` holds the last record of each row, and the result holds
them afterwards. -/
def addColumn (header : Link) :
    List Bool → List (Option Link) → LinkM (List (Option Link))
  | one :: column, last :: lasts => do
      let last ← if one then some <$> addOne header last else pure last
      return last :: (← addColumn header column lasts)
  | _, _ => return []

/-- Makes the records of all columns. -/
def addOnes : List (Link × List Bool) → List (Option Link) → LinkM Unit
  | [], _ => return ()
  | (header, column) :: rest, lasts => do addOnes rest (← addColumn header column lasts)

/-- The columns of a matrix. -/
def columns (width : Nat) (rows : List (List Bool)) : List (List Bool) :=
  (List.range width).map fun column => rows.map (·.getD column false)

/-- The numbers of the rows in which a column has a 1. -/
def onesOf (column : List Bool) : List Nat :=
  (column.zip (List.range column.length)).filterMap fun entry =>
    if entry.1 then some entry.2 else none

/-- The problem of a matrix. -/
def ofRows (width : Nat) (rows : List (List Bool)) (names : List Value) (policy : Policy) :
    Except LinkError MatrixProblem :=
  let columns := columns width rows
  let build : ProblemM Unit := do
    let headers ← addColumns root names
    Problem.links (addOnes (headers.zip columns) (List.replicate rows.length none))
  match build (Problem.empty policy) with
  | .ok () problem => .ok ⟨problem, width, rows, (columns.flatMap onesOf).toArray⟩
  | .error error _ => .error error

/-- The problem of a grid, with the given names or default names for null. -/
def ofGrid (grid : Grid) (names : Value) (policy : Policy) : Except MatrixError MatrixProblem := do
  let (width, rows) ← check grid
  let names ← columnNames width names
  (ofRows width rows names policy).mapError .links

/-! ## Reading solutions -/

/-- The matrix row of a record. -/
def rowOf? (problem : MatrixProblem) (node : Int) : Option Nat :=
  let place := node - (problem.width + 1)
  if place < 0 then none else problem.rowOfRecord[place.toNat]?

/-- The matrix row that a link leads to. -/
def rowOf (problem : MatrixProblem) (node : Link) : Except Mismatch Nat := do
  let key ← Key.ofValue node.toValue
  match key.integer?.bind problem.rowOf? with
  | some row => .ok row
  | none => .error (.missingKey key)

/-- The matrix rows of decisions in increasing order. -/
def rowsOf (problem : MatrixProblem) (decisions : List Link) : Except Mismatch (List Nat) := do
  return (← decisions.mapM problem.rowOf).mergeSort

end MatrixProblem

end ExactCover
