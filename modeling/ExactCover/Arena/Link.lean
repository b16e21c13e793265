import ExactCover.Value.Number

/-!
# Links

A link leads to a record by its number. Whoever uses an arena may give any value as a link: a flag
counts as the number zero or one, and any other value leads nowhere, but it is kept where it was put
before that was noticed. Links are compared by their values and shown as they were given.

Main statements: `same_record` (numbers are compared as integers) and `position_record` (the number
of a record leads to it).
-/

set_option autoImplicit false

namespace ExactCover

/-- A link. -/
inductive Link where
  | record (number : Int)
  | flagged (flag : Bool)
  /-- A value that leads nowhere. -/
  | stray (value : Value)

/-- What can go wrong when links are followed. -/
inductive LinkError where
  /-- There is no record of that number. -/
  | outOfRange
  /-- No list is long enough for the number. -/
  | tooWide
  /-- The link is no number. -/
  | notANumber (kind : String)
  /-- A number is too wide for a table of all links. -/
  | notInTable
  /-- The record has no header, and so no size. -/
  | noSize
  /-- The record has no header, and so no name. -/
  | noName
  /-- A ring was followed for longer than a ring can be. -/
  | endless
deriving DecidableEq

/-- The wording of an error. -/
def LinkError.message : LinkError → String
  | .outOfRange => "list index out of range"
  | .tooWide => Mismatch.indexTooWide.message
  | .notANumber kind => (Mismatch.listIndexKind kind).message
  | .notInTable => "Python int too large to convert to C long"
  | .noSize => "'NoneType' object has no attribute 'size'"
  | .noName => "'NoneType' object has no attribute 'name'"
  | .endless => "a ring of links does not close"

namespace Link

instance : Inhabited Link := ⟨.record 0⟩

instance : Coe Int Link := ⟨.record⟩

/-- The link that a value is. -/
def ofValue : Value → Link
  | .int number => .record number
  | .bool flag => .flagged flag
  | other => .stray other

/-- A link as a value. -/
def toValue : Link → Value
  | .record number => .int number
  | .flagged flag => .bool flag
  | .stray value => value

/-- The number of a link. One that leads nowhere has the integer of its value, or else zero. -/
def toInt : Link → Int
  | .record number => number
  | .flagged flag => if flag then 1 else 0
  | .stray value => value.toInteger.toOption.getD 0

/-- Whether two links are one. -/
def same : Link → Link → Bool
  | .record left, .record right => left == right
  | left, right => left.toValue.equal right.toValue

/-- Numbers of records lie between this bound and its negative. -/
def widthBound : Int := 9223372036854775808

/-- The place in a list of `size` records that a number stands for, a negative one counting from the
end. -/
def place (size : Nat) (number : Int) : Except LinkError Nat :=
  let position := if number < 0 then number + size else number
  if 0 ≤ position ∧ position < size then .ok position.toNat
  else if number < -widthBound ∨ widthBound ≤ number then .error .tooWide
  else .error .outOfRange

/-- The place in a list of `size` records that a link leads to. -/
def position (size : Nat) : Link → Except LinkError Nat
  | .record number => place size number
  | .flagged flag => place size (if flag then 1 else 0)
  | .stray value => .error (.notANumber value.kind)

/-- A link shown as in printed lists. -/
def text (link : Link) : String := link.toValue.inner

/-- **Numbers are compared as integers.** -/
@[simp] theorem same_record (left right : Int) :
    same (.record left) (.record right) = decide (left = right) := by
  by_cases equal : left = right <;> simp [same, equal]

/-- **The number of a record leads to it.** -/
theorem position_record {size number : Nat} (inside : number < size) :
    position size (.record number) = .ok number := by
  have notNegative : ¬ ((number : Int) < 0) := by omega
  simp [position, place, notNegative, inside]

/-- A place that a link leads to is inside the list. -/
theorem position_lt {size found : Nat} {link : Link} (leads : position size link = .ok found) :
    found < size := by
  have ofPlace : ∀ number, place size number = .ok found → found < size := by
    intro number reached
    unfold place at reached
    generalize (if number < 0 then number + (size : Int) else number) = reach at reached
    dsimp only at reached
    split at reached
    · cases reached
      omega
    · split at reached <;> cases reached
  cases link with
  | record number => exact ofPlace number leads
  | flagged flag => exact ofPlace _ leads
  | stray value => cases leads

end Link

end ExactCover
