import ExactCover.Number.Double

/-!
# Numbers

A number is an integer or a double. Numbers are compared by their exact values, whichever of the two
they are, so no integer is rounded for a comparison.

Main statements: on integers the comparisons are those of `Int` (`same_int`, `isBelow_int`).
-/

set_option autoImplicit false

namespace ExactCover

/-- A number: an integer or a double. -/
inductive Number where
  | int (number : Int)
  | float (number : Float)

namespace Number

/-- The order of two numbers by their exact values; a double that is not a number has none. -/
def compare? : Number → Number → Option Ordering
  | .int left, .int right => some (compare left right)
  | .float left, .float right =>
      if left < right then some .lt
      else if left == right then some .eq
      else if right < left then some .gt
      else none
  | .int left, .float right => mixed left right
  | .float left, .int right => (mixed right left).map Ordering.swap
where
  mixed (left : Int) (right : Float) : Option Ordering :=
    match Double.decode right with
    | .notANumber => none
    | .infinite negative => some (if negative then .gt else .lt)
    | .finite negative significand exponent =>
        some (Double.compareInt left negative significand exponent)

/-- Whether two numbers have one value. -/
def same (left right : Number) : Bool := compare? left right == some .eq

def isBelow (left right : Number) : Bool := compare? left right == some .lt

def isAtMost (left right : Number) : Bool := isBelow left right || same left right

/-- Whether a number is the double that is not a number. -/
def isNotANumber : Number → Bool
  | .int _ => false
  | .float number => number.isNaN

@[simp] theorem same_int (left right : Int) :
    same (.int left) (.int right) = decide (left = right) := by
  by_cases equal : left = right
  · simp [same, compare?, equal]
  · have differ : compare left right ≠ .eq := fun h => equal (Int.compare_eq_eq.1 h)
    simp [same, compare?, equal, differ]

@[simp] theorem isBelow_int (left right : Int) :
    isBelow (.int left) (.int right) = decide (left < right) := by
  by_cases less : left < right
  · simp [isBelow, compare?, less, Int.compare_eq_lt.2 less]
  · have differ : compare left right ≠ .lt := fun h => less (Int.compare_eq_lt.1 h)
    simp [isBelow, compare?, less, differ]

end Number

end ExactCover
