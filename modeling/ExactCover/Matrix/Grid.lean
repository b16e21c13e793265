import ExactCover.Value.Number
import ExactCover.Value.Shape

/-!
# Grids

A grid is a regular array of values: its dimensions and its entries in row-major order. Nested lists
are read as a grid if they are regular; a value that is no list is a grid without dimensions.

Main statement: `slices_length` (a grid is taken apart into as many slices as its first dimension
says).
-/

set_option autoImplicit false

namespace ExactCover

/-- A regular array of values. -/
structure Grid where
  dimensions : List Nat
  entries : List Value

/-- Why there is no grid of some dimensions. -/
inductive DimensionFault where
  /-- There are more dimensions than a grid can have. -/
  | tooMany (count : Nat)
  /-- A dimension is no whole number. -/
  | notWhole (mismatch : Mismatch)
  /-- A dimension is wider than any grid. -/
  | tooWide
  | negative
  /-- The entries would not fit into memory. -/
  | tooBig

/-- The wording of a fault. -/
def DimensionFault.message : DimensionFault → String
  | .tooMany count =>
      "maximum supported dimension for an ndarray is currently " ++ toString dimensionLimit ++
        ", found " ++ toString count
  | .notWhole mismatch => mismatch.message
  | .tooWide => "Maximum allowed dimension exceeded"
  | .negative => "negative dimensions are not allowed"
  | .tooBig =>
      "array is too big; \x60arr.size * arr.dtype.itemsize\x60 is larger than the maximum " ++
        "possible size."

namespace Grid

/-- Reads a value as a grid. -/
def ofValue (value : Value) : Except ShapeFault Grid := do
  return ⟨← value.shape, value.leaves⟩

/-! ## Grids of zeros -/

/-- Words of 64 bits are below this bound, and not below its negative. -/
def wordBound : Int := 9223372036854775808

/-- The dimension that a value is. -/
def dimensionOf (value : Value) : Except DimensionFault Int := do
  let size ← value.toCount.mapError .notWhole
  if -wordBound ≤ size ∧ size < wordBound then return size else throw .tooWide

/-- Checks dimensions from the first to the last; `bytes` is the room for one entry of those before,
where a dimension of zero is passed over. -/
def checkDimensions (bytes : Int) : List Int → Except DimensionFault (List Nat)
  | [] => .ok []
  | size :: rest =>
      if size < 0 then .error .negative
      else
        let room := if size = 0 then bytes else bytes * size
        if room < wordBound then do return size.toNat :: (← checkDimensions room rest)
        else .error .tooBig

/-- A grid of zeros. -/
def zeros (dimensions : List Value) : Except DimensionFault Grid := do
  if dimensions.length > dimensionLimit then throw (.tooMany dimensions.length)
  let dimensions ← checkDimensions 8 (← dimensions.mapM dimensionOf)
  return ⟨dimensions, List.replicate (Value.volume dimensions) (.int 0)⟩

/-! ## Slices -/

/-- Cuts a list into pieces of one length. -/
def pieces {α : Type} (length : Nat) : Nat → List α → List (List α)
  | 0, _ => []
  | count + 1, items => items.take length :: pieces length count (items.drop length)

theorem pieces_length {α : Type} (length count : Nat) (items : List α) :
    (pieces length count items).length = count := by
  induction count generalizing items with
  | zero => rfl
  | succ count ih => simp [pieces, ih]

/-- The slices of a grid along its first dimension. -/
def slices (grid : Grid) : List (List Value) :=
  match grid.dimensions with
  | [] => []
  | height :: rest => pieces (Value.volume rest) height grid.entries

/-- **A grid has as many slices as its first dimension says.** -/
theorem slices_length {height : Nat} {rest : List Nat} {entries : List Value} :
    (slices ⟨height :: rest, entries⟩).length = height := by
  simp [slices, pieces_length]

end Grid

end ExactCover
