import ExactCover.Number.Compare
import ExactCover.Value.Mismatch

/-!
# Numbers among values

Flags, integers and doubles are compared and combined as numbers: a flag counts as zero or one, an
integer and a double are compared by their exact values, and their sum is rounded to a double.

Main statements: on integers the operations are those of `Int` (`add_int`, `subtract_int`,
`sameNumber_int`).
-/

set_option autoImplicit false

namespace ExactCover

namespace Number

/-- The double of a number; an integer may be too large for one. -/
def toDouble : Number → Except Mismatch Float
  | .float number => .ok number
  | .int number =>
      let rounded := Double.ofInt number
      if Double.isInfinite rounded then .error .beyondDoubles else .ok rounded

/-- An operation on two numbers: exact on integers, rounded as soon as a double is involved. -/
def combine (onInts : Int → Int → Int) (onDoubles : Float → Float → Float) :
    Number → Number → Except Mismatch Number
  | .int left, .int right => .ok (.int (onInts left right))
  | left, right => do return .float (onDoubles (← left.toDouble) (← right.toDouble))

/-- The quotient of two numbers as a double; the divisor is not zero. Two integers are divided
exactly and rounded once. -/
def quotient : Number → Number → Except Mismatch Float
  | .int left, .int right =>
      let rounded := Double.nearest ((left < 0) != (right < 0)) left.natAbs right.natAbs
      if Double.isInfinite rounded then .error .quotientBeyondDoubles else .ok rounded
  | left, right => do return (← left.toDouble) / (← right.toDouble)

end Number

namespace Value

/-- The number that a value counts as. -/
def number? : Value → Option Number
  | .bool flag => some (.int (if flag then 1 else 0))
  | .int number => some (.int number)
  | .float number => some (.float number)
  | _ => none

def ofNumber : Number → Value
  | .int number => .int number
  | .float number => .float number

/-- The sum of two values: numbers are added, texts and lists are joined. -/
def add (left right : Value) : Except Mismatch Value :=
  match left.number?, right.number? with
  | some first, some second => do
      return ofNumber (← Number.combine (· + ·) (· + ·) first second)
  | _, _ =>
      match left, right with
      | .text first, .text second => .ok (.text (first ++ second))
      | .list first, .list second => .ok (.list (first ++ second))
      | .text _, other => .error (.notJoinable "str" other.kind)
      | .list _, other => .error (.notJoinable "list" other.kind)
      | _, _ => .error (.noOperation "+" left.kind right.kind)

/-- The difference of two numbers. -/
def subtract (left right : Value) : Except Mismatch Value :=
  match left.number?, right.number? with
  | some first, some second => do
      return ofNumber (← Number.combine (· - ·) (· - ·) first second)
  | _, _ => .error (.noOperation "-" left.kind right.kind)

/-- The quotient of two numbers, of which the divisor is not zero. -/
def divide (left right : Value) : Except Mismatch Float :=
  match left.number?, right.number? with
  | some first, some second => Number.quotient first second
  | _, _ => .error (.noOperation "/" left.kind right.kind)

/-- Whether two values are the same number. -/
def sameNumber (left right : Value) : Bool :=
  match left.number?, right.number? with
  | some first, some second => first.same second
  | _, _ => false

/-- Whether two values are the same number, or both the double that is not a number. -/
def sameKey (left right : Value) : Bool :=
  match left.number?, right.number? with
  | some first, some second => first.same second || (first.isNotANumber && second.isNotANumber)
  | _, _ => false

/-- Compares two numbers by `holds`; texts are in the order of their characters. `operator` is how
the comparison is written. -/
def ordered (operator : String) (holds : Ordering → Bool) (left right : Value) :
    Except Mismatch Bool :=
  match left.number?, right.number? with
  | some first, some second => .ok ((Number.compare? first second).any holds)
  | _, _ =>
      match left, right with
      | .text first, .text second =>
          .ok (holds (compareOfLessAndEq first second))
      | _, _ => .error (.noOrder operator left.kind right.kind)

def isLess (left right : Value) : Except Mismatch Bool := ordered "<" (· == .lt) left right

def isAtMost (left right : Value) : Except Mismatch Bool := ordered "<=" (· != .gt) left right

def isMore (left right : Value) : Except Mismatch Bool := ordered ">" (· == .gt) left right

def isAtLeast (left right : Value) : Except Mismatch Bool := ordered ">=" (· != .lt) left right

mutual

/-- Whether two values are equal: numbers by value, lists item by item, objects field by field
whatever their order. Inside a list the double that is not a number equals itself. -/
def equal : Value → Value → Bool
  | .list left, .list right => equalItems left right
  | .object left, .object right => left.length == right.length && equalFields left right
  | .text left, .text right => left == right
  | .null, .null => true
  | left, right => left.sameNumber right

def equalItems : List Value → List Value → Bool
  | [], [] => true
  | left :: lefts, right :: rights =>
      (equal left right || left.sameKey right) && equalItems lefts rights
  | _, _ => false

def equalFields : List (Key × Value) → List (Key × Value) → Bool
  | [], _ => true
  | (key, value) :: rest, right =>
      (match Entries.get? right key with
        | some other => equal value other
        | none => false) && equalFields rest right

end

/-! ## Conversions -/

/-- The integer of a value: a double loses what is behind its point, a text is read. -/
def toInteger : Value → Except Mismatch Int
  | .bool flag => .ok (if flag then 1 else 0)
  | .int number => .ok number
  | .float number =>
      match Double.truncate? number with
      | some whole => .ok whole
      | none => .error (if Double.isInfinite number then .wholePartOfInfinity
          else .wholePartOfNotANumber)
  | .text characters => (Text.readInteger characters).mapError .integer
  | other => .error (.notConvertible other.kind)

/-- A value that is used as a count must be a whole number already. -/
def toCount : Value → Except Mismatch Int
  | .bool flag => .ok (if flag then 1 else 0)
  | .int number => .ok number
  | other => .error (.notACount other.kind)

/-! ## Integers -/

@[simp] theorem add_int (left right : Int) : add (.int left) (.int right) = .ok (.int (left + right)) :=
  rfl

@[simp] theorem subtract_int (left right : Int) :
    subtract (.int left) (.int right) = .ok (.int (left - right)) := rfl

@[simp] theorem sameNumber_int (left right : Int) :
    sameNumber (.int left) (.int right) = decide (left = right) := by
  simp [sameNumber, number?]

@[simp] theorem sameKey_int (left right : Int) :
    sameKey (.int left) (.int right) = decide (left = right) := by
  simp [sameKey, number?, Number.isNotANumber]

@[simp] theorem isLess_int (left right : Int) :
    isLess (.int left) (.int right) = .ok (decide (left < right)) := by
  have less : (compare left right == .lt) = decide (left < right) := by
    rw [Bool.eq_iff_iff, beq_iff_eq, decide_eq_true_iff]
    exact Int.compare_eq_lt
  exact congrArg Except.ok less

@[simp] theorem isAtMost_int (left right : Int) :
    isAtMost (.int left) (.int right) = .ok (decide (left ≤ right)) := by
  have atMost : (compare left right != .gt) = decide (left ≤ right) := by
    rw [Bool.eq_iff_iff, bne_iff_ne, decide_eq_true_iff]
    exact Int.compare_ne_gt
  exact congrArg Except.ok atMost

@[simp] theorem toInteger_int (number : Int) : toInteger (.int number) = .ok number := rfl

end Value

/-- The key that a value is; lists and objects are none. -/
def Key.ofValue : Value → Except Mismatch Key
  | .null => .ok .null
  | .bool flag => .ok (.bool flag)
  | .int number => .ok (.int number)
  | .float number => .ok (.float number)
  | .text characters => .ok (.text characters)
  | other => .error (.notAKey other.kind)

/-- A key is read back from its value. -/
@[simp] theorem Key.ofValue_toValue (key : Key) : Key.ofValue key.toValue = .ok key := by
  cases key <;> rfl

end ExactCover
