import ExactCover.Matrix.Kind

/-!
# Choosing parts of a grid

Parts of a grid are chosen by their numbers along the first dimension, or by flags. Numbers may come
in an arrangement of any dimensions, which the chosen parts are then laid out in. Flags have the first
dimensions of the grid, and the parts that are flagged are laid out one after the other.

Main statement: `length_flagged` (as many parts are chosen as there are flags that are set).
-/

set_option autoImplicit false

namespace ExactCover

/-- A choice of parts. -/
inductive Choice where
  | byNumber (dimensions : List Nat) (numbers : List Int)
  | byFlag (dimensions : List Nat) (flags : List Bool)

/-- Why nothing is chosen. -/
inductive ChoiceError where
  /-- The choice cannot be gone through. -/
  | notItems (mismatch : Mismatch)
  | irregular (fault : ShapeFault)
  /-- Parts are chosen by whole numbers or by flags. -/
  | notNumbers
  /-- The grid has fewer dimensions than the choice is about. -/
  | tooManyIndices (dimensions indexed : Nat)
  /-- The chosen parts would have more dimensions than a grid can have. -/
  | tooManyDimensions (count : Nat)
  /-- There is no part of that number. -/
  | noPart (number : Int) (height : Nat)
  /-- The flags have another dimension than the grid. -/
  | flagCount (place size found : Nat)

/-- The wording of an error. -/
def ChoiceError.message : ChoiceError → String
  | .notItems mismatch => mismatch.message
  | .irregular fault => fault.message
  | .notNumbers =>
      "only integers, slices (\x60:\x60), ellipsis (\x60...\x60), numpy.newaxis (\x60None\x60) " ++
        "and integer or boolean arrays are valid indices"
  | .tooManyIndices dimensions indexed =>
      "too many indices for array: array is " ++ toString dimensions ++ "-dimensional, but " ++
        toString indexed ++ " were indexed"
  | .tooManyDimensions count =>
      "number of dimensions must be within [0, " ++ toString dimensionLimit ++
        "], indexing result would have " ++ toString count
  | .noPart number height =>
      "index " ++ toString number ++ " is out of bounds for axis 0 with size " ++ toString height
  | .flagCount place size found =>
      "boolean index did not match indexed array along axis " ++ toString place ++
        "; size of axis is " ++ toString size ++ " but size of corresponding boolean axis is " ++
        toString found

namespace Choice

/-- The flag that a value is. -/
def flag? : Value → Option Bool
  | .bool flag => some flag
  | _ => none

/-- A number as a word of 64 bits with a sign: the bits of a larger number are kept. -/
def word (number : Int) : Int :=
  if number < Grid.wordBound then number else number - EntryKind.wordCount

/-- Reads a list of values as a choice. -/
def ofItems (items : List Value) : Except ChoiceError Choice := do
  let grid ← (Grid.ofValue (.list items)).mapError .irregular
  if grid.entries.isEmpty then return .byNumber grid.dimensions []
  else
    match grid.kind with
    | .flag => return .byFlag grid.dimensions (grid.entries.filterMap flag?)
    | .signed => return .byNumber grid.dimensions (grid.entries.filterMap (·.toCount.toOption))
    | .unsigned =>
        return .byNumber grid.dimensions ((grid.entries.filterMap (·.toCount.toOption)).map word)
    | _ => throw .notNumbers

/-- The place of a part, a negative number counting from the end. -/
def place (height : Nat) (number : Int) : Except ChoiceError Nat :=
  let position := if number < 0 then number + height else number
  if 0 ≤ position ∧ position < height then .ok position.toNat else .error (.noPart number height)

/-- Checks that flags have the first dimensions of a grid, from the dimension at some place on. -/
def checkFlags (axis : Nat) : List Nat → List Nat → Except ChoiceError Unit
  | size :: sizes, found :: founds =>
      if size = found then checkFlags (axis + 1) sizes founds
      else .error (.flagCount axis size found)
  | _, _ => .ok ()

/-- The places of the flags that are set, the first flag standing at `start`. -/
def flagged (start : Nat) : List Bool → List Nat
  | [] => []
  | true :: rest => start :: flagged (start + 1) rest
  | false :: rest => flagged (start + 1) rest

/-- **As many parts are chosen as there are flags that are set.** -/
theorem length_flagged (start : Nat) (flags : List Bool) :
    (flagged start flags).length = flags.count true := by
  induction flags generalizing start with
  | nil => rfl
  | cons flag rest ih => cases flag <;> simp [flagged, ih]

/-- The parts of a grid at some places; the parts have some dimensions, and are laid out in others. -/
def gather (grid : Grid) (layout inside : List Nat) (places : List Nat) : Grid :=
  let entries := grid.entries.toArray
  let size := Value.volume inside
  ⟨layout ++ inside,
    places.flatMap fun place => (entries.extract (place * size) ((place + 1) * size)).toList⟩

/-- The chosen parts of a grid. -/
def apply (choice : Choice) (grid : Grid) : Except ChoiceError Grid := do
  match choice, grid.dimensions with
  | .byNumber _ _, [] => throw (.tooManyIndices 0 1)
  | .byNumber layout numbers, height :: inside =>
      let count := layout.length + inside.length
      if count > dimensionLimit then throw (.tooManyDimensions count)
      return gather grid layout inside (← numbers.mapM (place height))
  | .byFlag dimensions flags, sizes =>
      if dimensions.length > sizes.length then
        throw (.tooManyIndices sizes.length dimensions.length)
      checkFlags 0 sizes dimensions
      let places := flagged 0 flags
      return gather grid [places.length] (sizes.drop dimensions.length) places

end Choice

end ExactCover
