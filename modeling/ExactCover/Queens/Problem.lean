import ExactCover.Solver.Search
import ExactCover.Value.Number

/-!
# Queens on a board

Placing queens on a board so that none attacks another, as an exact cover problem. Every rank and
every file is a primary column, since it holds exactly one queen. Every diagonal and every
antidiagonal is a secondary column, since it holds at most one; these stand on a ring of their own.
Every square is a row of four records: its rank, its file, its diagonal and its antidiagonal.

The records of the squares are made rank by rank and file by file after the root and the columns,
so the number of a record tells its square.
-/

set_option autoImplicit false

namespace ExactCover

/-- A square by its rank and file. -/
abbrev Square := Int × Int

/-- The problem of a board. `size` is the size as it was given, which is how it is printed. -/
structure QueensProblem where
  problem : Problem
  side : Nat
  size : Value

/-- What is wrong with a board or a square. -/
inductive BoardError where
  /-- A board has at least one square. -/
  | tooSmall (size : Value)
  /-- The size is not usable as one. -/
  | badSize (mismatch : Mismatch)
  | offBoard (rank file size : Value)
  /-- The rank or file is not usable as one. -/
  | badCoordinate (mismatch : Mismatch)
  /-- The rank or file is on the board but lies between two squares. -/
  | betweenSquares (rank file : Value)
  /-- A record that belongs to no square. -/
  | noSquare (mismatch : Mismatch)
  | links (error : LinkError)

/-- The wording of an error. -/
def BoardError.message : BoardError → String
  | .tooSmall size => "Board size must be >= 1, got " ++ size.display
  | .badSize mismatch => mismatch.message
  | .offBoard rank file size =>
      "Square (" ++ rank.display ++ ", " ++ file.display ++ ") is off a " ++ size.display ++ "x" ++
        size.display ++ " board"
  | .badCoordinate mismatch => mismatch.message
  | .betweenSquares rank file => Value.displayPair rank file
  | .noSquare mismatch => mismatch.message
  | .links error => error.message

namespace QueensProblem

/-! ## Building -/

/-- Makes columns on one ring, named by a letter and their number. The first one goes to the right of
`last`, or on a ring of its own. -/
def addColumns (letter : String) (last : Option Link) : List Nat → ProblemM (List Link)
  | [] => return []
  | index :: rest => do
      let header ← Problem.newColumn (.text (letter ++ toString index)) last
      return header :: (← addColumns letter (some header) rest)

/-- The columns of a board. -/
structure Lines where
  ranks : List Link
  files : List Link
  diagonals : List Link
  antidiagonals : List Link

/-- Makes the columns of a board. -/
def addLines (side : Nat) : ProblemM Lines := do
  let ranks ← addColumns "R" (some root) (List.range side)
  let files ← addColumns "F" (ranks.getLast?) (List.range side)
  let diagonals ← addColumns "A" none (List.range (2 * side - 1))
  let antidiagonals ← addColumns "B" (diagonals.getLast?) (List.range (2 * side - 1))
  return ⟨ranks, files, diagonals, antidiagonals⟩

/-- Makes a record at the bottom of a column. -/
def addRecord (header : Link) : LinkM Link := do Arena.append header (← Arena.newNode)

/-- Makes the row of a square. -/
def addSquare (side : Nat) (lines : Lines) (rank file : Nat) : LinkM Unit := do
  let onRank ← addRecord (lines.ranks.getD rank root)
  let onFile ← Arena.insert onRank (← addRecord (lines.files.getD file root))
  let onDiagonal ← Arena.insert onFile (← addRecord (lines.diagonals.getD (rank + file) root))
  let _ ← Arena.insert onDiagonal
    (← addRecord (lines.antidiagonals.getD (side - 1 - rank + file) root))

/-- All squares of a board, rank by rank. -/
def squares (side : Nat) : List (Nat × Nat) :=
  (List.range side).flatMap fun rank => (List.range side).map fun file => (rank, file)

/-- Makes the problem of a board. -/
def build (side : Nat) : ProblemM Unit := do
  let lines ← addLines side
  Problem.links ((squares side).forM fun square => addSquare side lines square.1 square.2)

/-- The problem of a board of some size. -/
def ofSize (size : Value) (policy : Policy) : Except BoardError QueensProblem := do
  if ← (size.isLess (.int 1)).mapError .badSize then .error (.tooSmall size)
  else
    let side := (← size.toCount.mapError .badSize).toNat
    match build side (Problem.empty policy) with
    | .ok () problem => return ⟨problem, side, size⟩
    | .error error _ => .error (.links error)

/-! ## Records and squares -/

/-- The first record of a square. -/
def firstRecord (side : Nat) : Nat := 6 * side - 1

/-- The record of a square that stands in its rank. -/
def recordOf (side rank file : Nat) : Nat := firstRecord side + 4 * (rank * side + file)

/-- The square that a record belongs to. -/
def squareOf? (side : Nat) (node : Int) : Option (Nat × Nat) :=
  let place := node - firstRecord side
  if 0 ≤ place ∧ place < 4 * side * side then
    some (place.toNat / 4 / side, place.toNat / 4 % side)
  else none

/-- Whether a coordinate is on the board. -/
def onBoard (board : QueensProblem) (coordinate : Value) : Except Mismatch Bool := do
  if ← (Value.int 0).isAtMost coordinate then coordinate.isLess board.size else return false

/-- The coordinate that a value equals. -/
def coordinate? (side : Nat) (value : Value) : Option Nat :=
  (List.range side).find? fun index => value.sameNumber (.int index)

/-- The record of the square at a rank and a file. -/
def cell (board : QueensProblem) (rank file : Value) : Except BoardError Link := do
  if !(← (board.onBoard rank).mapError .badCoordinate) then .error (.offBoard rank file board.size)
  else if !(← (board.onBoard file).mapError .badCoordinate) then .error (.offBoard rank file board.size)
  else
    match coordinate? board.side rank, coordinate? board.side file with
    | some rank, some file => return .record (recordOf board.side rank file)
    | _, _ => .error (.betweenSquares rank file)

/-- The square of a record. -/
def placement (board : QueensProblem) (node : Link) : Except BoardError (Nat × Nat) := do
  let key ← (Key.ofValue node.toValue).mapError .noSquare
  match key.integer?.bind (squareOf? board.side) with
  | some square => .ok square
  | none => .error (.noSquare (.missingKey key))

/-- The board of some decisions: the rank of the queen on each file, or -1 if there is none. -/
def board (queens : QueensProblem) (decisions : List Link) : Except BoardError (List Int) := do
  decisions.foldlM (fun (ranks : List Int) node => do
    let (rank, file) ← queens.placement node
    return ranks.set file rank) (List.replicate queens.side (-1))

end QueensProblem

end ExactCover
