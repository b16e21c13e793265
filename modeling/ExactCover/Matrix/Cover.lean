import ExactCover.Matrix.Choice
import ExactCover.Statistics.Sum
import ExactCover.Value.Access

/-!
# Checking a cover

Whether chosen rows of a grid meet every column exactly once: every column of the chosen rows adds up
to one. How the entries are added depends on their kind. Flags are counted, integers wrap around at 64
bits, and doubles are rounded after each addition, in the order of the rows unless a row has one entry
only. Plain values are joined one after the other, and texts cannot be added at all.

Main statement: `isExactCover_nil` (no rows at all cover nothing).
-/

set_option autoImplicit false

namespace ExactCover

/-- Why a cover cannot be checked. -/
inductive CoverError where
  | choice (error : ChoiceError)
  /-- Plain values that cannot be added. -/
  | sum (mismatch : Mismatch)
  /-- Texts of some width are not added. -/
  | textSum (width : Nat)

/-- The wording of an error. -/
def CoverError.message : CoverError → String
  | .choice error => error.message
  | .sum mismatch => mismatch.message
  | .textSum width =>
      let kind := fun (count : Nat) => "dtype('<U" ++ toString count ++ "')"
      "the resolved dtypes are not compatible with add.reduce. Resolved (" ++ kind width ++ ", " ++
        kind width ++ ", " ++ kind (2 * width) ++ ")"

namespace Grid

/-- Adds rows column by column, the first row being the sum of those before. -/
def addRows {α : Type} (add : α → α → α) : List α → List α → List α
  | left :: lefts, right :: rights => add left right :: addRows add lefts rights
  | _, _ => []

/-- The sums of the columns of rows; `start` is the sum of no entries. -/
def columnSums {α : Type} (add : α → α → α) (start : α) (width : Nat) (rows : List (List α)) :
    List α :=
  rows.foldl (addRows add) (List.replicate width start)

/-- An integer as a word of 64 bits with a sign. -/
def wrapSigned (number : Int) : Int :=
  (number + wordBound) % EntryKind.wordCount - wordBound

/-- An integer as a word of 64 bits without a sign. -/
def wrapUnsigned (number : Int) : Int := number % EntryKind.wordCount

/-- The whole number of an entry. -/
def wholeOf (entry : Value) : Int := (entry.toCount.toOption).getD 0

/-- The double of an entry. -/
def doubleOf (entry : Value) : Float :=
  match entry.number? with
  | some (.int number) => Double.ofInt number
  | some (.float number) => number
  | none => 0

/-- Adds plain values column by column. -/
def addPlainRows : List Value → List Value → Except CoverError (List Value)
  | left :: lefts, right :: rights => do
      return (← (left.add right).mapError .sum) :: (← addPlainRows lefts rights)
  | _, _ => .ok []

/-- The sums of the columns of rows of plain values. -/
def plainSums (width : Nat) : List (List Value) → Except CoverError (List Value)
  | [] => .ok (List.replicate width (.int 0))
  | first :: rest => rest.foldlM addPlainRows first

/-- The sums of the columns of rows of doubles; a single column is added as a list of numbers. -/
def doubleSums (width : Nat) (rows : List (List Float)) : List Float :=
  if width = 1 then [Statistics.sum rows.flatten] else columnSums (· + ·) 0.0 width rows

/-- The sums of a grid along its first dimension, its entries being of some kind. -/
def sums (kind : EntryKind) (grid : Grid) : Except CoverError (List Value) :=
  let width := Value.volume grid.dimensions.tail
  let rows := grid.slices
  let integers := fun (wrap : Int → Int) =>
    (columnSums (fun left right => wrap (left + right)) 0 width (rows.map (·.map wholeOf))).map
      Value.int
  match kind with
  | .flag => .ok (integers id)
  | .signed => .ok (integers wrapSigned)
  | .unsigned => .ok (integers wrapUnsigned)
  | .double => .ok ((doubleSums width (rows.map (·.map doubleOf))).map .float)
  | .text characters => .error (.textSum (max 1 characters))
  | .plain => plainSums width rows

/-- Whether the chosen rows meet every column exactly once. No rows at all never do. -/
def isExactCover (grid : Grid) (rows : Value) : Except CoverError Bool := do
  let items ← rows.items.mapError fun mismatch => .choice (.notItems mismatch)
  if items.isEmpty then return false
  let choice ← (Choice.ofItems items).mapError .choice
  let chosen ← (choice.apply grid).mapError .choice
  return (← sums grid.kind chosen).all (·.sameNumber (.int 1))

/-- **No rows at all cover nothing.** -/
theorem isExactCover_nil (grid : Grid) : grid.isExactCover (.list []) = .ok false := rfl

end Grid

end ExactCover
