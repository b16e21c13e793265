import ExactCover.Value.Access
import ExactCover.Value.Number

/-!
# Boards and attacks

A board gives the rank of the queen on each file. Two queens on different files attack each other if
they stand on one rank, on one diagonal (rank plus file) or on one antidiagonal (rank minus file).
Attacks are counted by counting the queens on every such line.

The same is done for boards of arbitrary values, whose ranks are compared as numbers. A rank that is
not a number equals itself as a rank, but what is computed from it equals nothing.
-/

set_option autoImplicit false

namespace ExactCover.Board

/-! ## Counting -/

/-- Counts one more occurrence of an item. -/
def countOne {α : Type} (same : α → α → Bool) (item : α) : List (α × Nat) → List (α × Nat)
  | [] => [(item, 1)]
  | (known, count) :: rest =>
      if same known item then (known, count + 1) :: rest
      else (known, count) :: countOne same item rest

/-- The different items of a list with the number of their occurrences, in order of first
appearance. -/
def tally {α : Type} (same : α → α → Bool) (items : List α) : List (α × Nat) :=
  items.foldl (fun counts item => countOne same item counts) []

/-- The number of pairs of equal items. -/
def equalPairs {α : Type} (same : α → α → Bool) (items : List α) : Nat :=
  (tally same items).foldl (fun pairs entry => pairs + entry.2 * (entry.2 - 1) / 2) 0

/-! ## Boards of integers -/

/-- The diagonal of every queen. -/
def diagonals (board : List Int) : List Int :=
  board.zipIdx.map fun (rank, file) => rank + file

/-- The antidiagonal of every queen. -/
def antidiagonals (board : List Int) : List Int :=
  board.zipIdx.map fun (rank, file) => rank - file

/-- The number of attacks on a board: pairs of queens are counted once for each line that they
share. -/
def conflicts (board : List Int) : Nat :=
  equalPairs (· == ·) board + equalPairs (· == ·) (diagonals board) +
    equalPairs (· == ·) (antidiagonals board)

/-- Whether the board holds a queen on each of its files and no attack. -/
def isValid (board : List Int) : Bool :=
  !board.isEmpty && board.all (fun rank => 0 ≤ rank && rank < board.length) &&
    conflicts board == 0

/-! ## Boards of any values -/

/-- The lines of a queen: its rank, its diagonal and its antidiagonal. -/
def linesOf (rank file : Value) : Except Mismatch (Value × Value × Value) := do
  match rank with
  | .list _ => throw (.notAKey rank.kind)
  | .object _ => throw (.notAKey rank.kind)
  | _ => return (rank, ← rank.add file, ← rank.subtract file)

/-- The number of attacks on a board of any values. -/
def valueConflicts (board : Value) : Except Mismatch Nat := do
  let ranks ← board.items
  let lines ← ranks.zipIdx.mapM fun (rank, file) => linesOf rank (.int file)
  return equalPairs Value.sameKey (lines.map (·.1)) +
    equalPairs Value.sameNumber (lines.map (·.2.1)) +
    equalPairs Value.sameNumber (lines.map (·.2.2))

/-- A whole number that is a rank of a board of some size. -/
def rank? (size : Nat) (value : Value) : Option Int :=
  match value.isWhole, value.toCount with
  | true, .ok rank => if 0 ≤ rank ∧ rank < size then some rank else none
  | _, _ => none

/-- Whether a board of any values is a valid board. -/
def isValidValue (board : Value) : Except Mismatch Bool := do
  let size ← board.length
  return match (← board.items).mapM (rank? size) with
    | some ranks => isValid ranks
    | none => false

/-! ## Squares -/

/-- The lines of a square: its rank, its file, its diagonal and its antidiagonal. -/
structure SquareLines where
  rank : Value
  file : Value
  diagonal : Value
  antidiagonal : Value

/-- The lines of the square at a rank and a file. -/
def squareLines (rank file : Value) : Except Mismatch SquareLines := do
  return ⟨rank, file, ← rank.add file, ← rank.subtract file⟩

/-- Whether two squares share a line. -/
def shareLine (lines others : SquareLines) : Bool :=
  lines.rank.sameKey others.rank || lines.file.sameKey others.file ||
    lines.diagonal.sameNumber others.diagonal ||
    lines.antidiagonal.sameNumber others.antidiagonal

/-- The first square that shares a line with one before it. `before` holds the lines of the squares
that come before. -/
def attackedFrom (before : List SquareLines) : List Value → Except Mismatch (Option (Value × Value))
  | [] => .ok none
  | square :: rest => do
      let (rank, file) ← square.parts
      let lines ← squareLines rank file
      if before.any (shareLine lines) then return some (rank, file)
      else attackedFrom (lines :: before) rest

/-- The first square that is attacked by one before it, if there is any. -/
def attacked? (squares : List Value) : Except Mismatch (Option (Value × Value)) :=
  attackedFrom [] squares

/-- Two queens on one diagonal attack each other, and no pair is counted twice for one line. -/
example : conflicts [1, 0] = 1 ∧ conflicts [0, 0, 0] = 3 ∧ isValid [1, 3, 0, 2] = true := by decide

end ExactCover.Board
