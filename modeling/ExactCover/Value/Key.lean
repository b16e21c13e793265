import ExactCover.Number.Compare

/-!
# Keys of objects

The fields of an object that is read from a document have names. An object that is changed
afterwards, and the results of a suite, may have any scalar as a key. Keys that are numbers are equal
if their values are, whether they are flags, integers or doubles; and a double that is not a number
is one key, although as a number it differs from itself.

Main statement: `text_beq` (names are equal as texts).
-/

set_option autoImplicit false

namespace ExactCover

/-- A key: a name, or another scalar. -/
inductive Key where
  | null
  | bool (flag : Bool)
  | int (number : Int)
  | float (number : Float)
  | text (characters : String)

namespace Key

instance : Coe String Key := ⟨.text⟩

instance : Inhabited Key := ⟨.null⟩

/-- The number that a key counts as. -/
def number? : Key → Option Number
  | .bool flag => some (.int (if flag then 1 else 0))
  | .int number => some (.int number)
  | .float number => some (.float number)
  | _ => none

/-- The integer that a key is equal to. -/
def integer? (key : Key) : Option Int :=
  match key.number? with
  | some (.int number) => some number
  | some (.float number) =>
      (Double.truncate? number).filter fun whole => Number.same (.int whole) (.float number)
  | none => none

/-- Whether two keys are one key. -/
def same : Key → Key → Bool
  | .text left, .text right => left == right
  | .null, .null => true
  | left, right =>
      match left.number?, right.number? with
      | some first, some second =>
          first.same second || (first.isNotANumber && second.isNotANumber)
      | _, _ => false

instance : BEq Key := ⟨same⟩

/-- **Names are equal as texts.** -/
@[simp] theorem text_beq (left right : String) :
    ((Key.text left == Key.text right) : Bool) = (left == right) := rfl

@[simp] theorem int_beq (left right : Int) :
    ((Key.int left == Key.int right) : Bool) = decide (left = right) := by
  show same (.int left) (.int right) = decide (left = right)
  simp [same, number?, Number.isNotANumber]

end Key

end ExactCover
