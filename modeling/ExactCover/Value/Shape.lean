import ExactCover.Value.Basic

/-!
# Shapes of nested lists

Nested lists are a regular array if all lists of one depth have one length. The shape of a value is
the list of these lengths, as far down as they agree; a value that is no list has no dimensions. An
array has at most 64 dimensions, so a list inside that many others is taken for an entry, and no array
holds it.

Main statement: `length_leaves` (a regular array has as many entries as the product of its dimensions
says).
-/

set_option autoImplicit false

namespace ExactCover

/-- The largest number of dimensions of an array. -/
def dimensionLimit : Nat := 64

/-- Why nested lists are no regular array. -/
inductive ShapeFault where
  /-- The nesting is regular down to these dimensions only. -/
  | ragged (dimensions : List Nat)
  /-- There are more dimensions than an array can have. -/
  | tooDeep
deriving DecidableEq

/-- Dimensions in parentheses. -/
def dimensionText : List Nat → String
  | [only] => "(" ++ toString only ++ ",)"
  | dimensions => "(" ++ ", ".intercalate (dimensions.map toString) ++ ")"

/-- The wording of a fault. -/
def ShapeFault.message : ShapeFault → String
  | .ragged dimensions =>
      "setting an array element with a sequence. The requested array has an inhomogeneous shape " ++
        "after " ++ toString dimensions.length ++ " dimensions. The detected shape was " ++
        dimensionText dimensions ++ " + inhomogeneous part."
  | .tooDeep =>
      "setting an array element with a sequence. The requested array would exceed the maximum " ++
        "number of dimension of " ++ toString dimensionLimit ++ "."

namespace Value

/-- The longest common beginning of two lists. -/
def commonStart : List Nat → List Nat → List Nat
  | left :: lefts, right :: rights => if left = right then left :: commonStart lefts rights else []
  | _, _ => []

mutual

/-- The dimensions that the nesting of a value has throughout, and whether it is regular. `room` is
the number of dimensions that there may be. -/
def dimensionsWithin (room : Nat) : Value → List Nat × Bool
  | .list items =>
      if room = 0 then ([], false)
      else
        let inside := commonDimensions (room - 1) items
        (items.length :: inside.1, inside.2)
  | _ => ([], true)

/-- The dimensions that all items have in common, and whether they have no others. -/
def commonDimensions (room : Nat) : List Value → List Nat × Bool
  | [] => ([], true)
  | [item] => dimensionsWithin room item
  | item :: next :: rest =>
      let (first, firstRegular) := dimensionsWithin room item
      let (others, othersRegular) := commonDimensions room (next :: rest)
      (commonStart first others, firstRegular && othersRegular && first == others)

end

/-- The dimensions of a regular array. -/
def shape (value : Value) : Except ShapeFault (List Nat) :=
  let (dimensions, regular) := dimensionsWithin dimensionLimit value
  if regular then .ok dimensions
  else if dimensions.length = dimensionLimit then .error .tooDeep
  else .error (.ragged dimensions)

mutual

/-- The entries of nested lists, from left to right. -/
def leaves : Value → List Value
  | .list items => leavesOf items
  | value => [value]

def leavesOf : List Value → List Value
  | [] => []
  | item :: rest => leaves item ++ leavesOf rest

end

/-- The number of entries of an array. -/
def volume (dimensions : List Nat) : Nat := dimensions.foldr (· * ·) 1

mutual

theorem length_leaves_within (room : Nat) (value : Value) :
    (dimensionsWithin room value).2 = true →
      (leaves value).length = volume (dimensionsWithin room value).1 := by
  cases value with
  | list items =>
      by_cases full : room = 0
      · simp [dimensionsWithin, full]
      · intro regular
        have inside := length_leavesOf_within (room - 1) items
          (by simpa [dimensionsWithin, full] using regular)
        simpa [dimensionsWithin, full, leaves, volume] using inside
  | _ => simp [dimensionsWithin, leaves, volume]

theorem length_leavesOf_within (room : Nat) (items : List Value) :
    (commonDimensions room items).2 = true →
      (leavesOf items).length = items.length * volume (commonDimensions room items).1 := by
  match items with
  | [] => simp [leavesOf]
  | [item] =>
      intro regular
      have only := length_leaves_within room item (by simpa [commonDimensions] using regular)
      simpa [commonDimensions, leavesOf] using only
  | item :: next :: rest =>
      intro regular
      simp only [commonDimensions, Bool.and_eq_true, beq_iff_eq] at regular
      obtain ⟨⟨firstRegular, othersRegular⟩, equal⟩ := regular
      have first := length_leaves_within room item firstRegular
      have others := length_leavesOf_within room (next :: rest) othersRegular
      have whole : ∀ dimensions : List Nat, commonStart dimensions dimensions = dimensions := by
        intro dimensions
        induction dimensions with
        | nil => rfl
        | cons dimension later ih => simp [commonStart, ih]
      simp only [commonDimensions, equal, whole]
      have count : (item :: next :: rest).length = (next :: rest).length + 1 := rfl
      rw [leavesOf, List.length_append, first, others, equal, count, Nat.add_mul, Nat.one_mul,
        Nat.add_comm]

end

/-- **A regular array has as many entries as the product of its dimensions says.** -/
theorem length_leaves {value : Value} {dimensions : List Nat}
    (regular : value.shape = .ok dimensions) : value.leaves.length = volume dimensions := by
  have counted := length_leaves_within dimensionLimit value
  unfold shape at regular
  cases found : dimensionsWithin dimensionLimit value with
  | mk dimensionsFound isRegular =>
      cases isRegular with
      | true =>
          simp only [found, if_true] at regular
          cases regular
          simpa [found] using counted (by simp [found])
      | false =>
          simp only [found, Bool.false_eq_true, if_false] at regular
          split at regular <;> cases regular

end Value

end ExactCover
