import ExactCover.Value.Display
import ExactCover.Text.Integer

/-!
# Values of the wrong kind

A document may hold anything anywhere, so each use of a value can meet one of the wrong kind. Every
such case is a constructor of `Mismatch`, and `Mismatch.message` is its wording. Kinds are given by
their names (`Value.kind`).
-/

set_option autoImplicit false

namespace ExactCover

/-- What is wrong with a value for the use made of it. -/
inductive Mismatch where
  /-- The value has no length. -/
  | noLength (kind : String)
  /-- The value has no items to go through. -/
  | noItems (kind : String)
  /-- The value cannot be taken apart into two. -/
  | noParts (kind : String)
  /-- A pair was expected, and there were fewer items. -/
  | tooFewParts (count : Nat)
  /-- A pair was expected, and there were more items. -/
  | tooManyParts
  /-- The value has no member of that name. -/
  | noMember (kind member : String)
  /-- The value cannot be asked for a field. -/
  | noSubscript (kind : String)
  /-- The value cannot have a field set. -/
  | noAssignment (kind : String)
  /-- A list is indexed by something that is not a whole number. -/
  | listIndexKind (kind : String)
  /-- A text is indexed by something that is not a whole number. -/
  | textIndexKind (kind : String)
  /-- A list has no item at the index that is to be set. -/
  | assignmentOutOfRange
  /-- No list is long enough for the index. -/
  | indexTooWide
  /-- A list or text has no item at the index that is read. -/
  | itemOutOfRange (container : String)
  /-- There is nothing under that key. -/
  | missingKey (key : Key)
  /-- A value cannot be a key. -/
  | notAKey (kind : String)
  /-- Only a value of the same kind can be joined to it. -/
  | notJoinable (left right : String)
  /-- An operation has no meaning for these kinds. -/
  | noOperation (operator left right : String)
  /-- These kinds have no order. -/
  | noOrder (operator left right : String)
  /-- The value is no number and no text of one. -/
  | notConvertible (kind : String)
  /-- The value is no double and no text of one. -/
  | notADouble (kind : String)
  /-- The text is no double. -/
  | malformedDouble (text : String)
  /-- A whole number is needed as a count. -/
  | notACount (kind : String)
  /-- A text is not read as an integer. -/
  | integer (fault : Text.IntegerFault)
  /-- A double that is not a number has no whole part. -/
  | wholePartOfNotANumber
  /-- An infinite double has no whole part. -/
  | wholePartOfInfinity
  /-- An integer is too large for a double. -/
  | beyondDoubles
  /-- The quotient of two integers is too large for a double. -/
  | quotientBeyondDoubles
  /-- A text is needed among the parts that are joined. -/
  | notText (position : Nat) (kind : String)
  /-- A path must be a text. -/
  | notAPath (kind : String)
  /-- A seed is a number, a text or nothing. -/
  | notASeed

/-- The wording of a mismatch. -/
def Mismatch.message : Mismatch → String
  | .noLength kind => s!"object of type '{kind}' has no len()"
  | .noItems kind => s!"'{kind}' object is not iterable"
  | .noParts kind => s!"cannot unpack non-iterable {kind} object"
  | .tooFewParts count => s!"not enough values to unpack (expected 2, got {count})"
  | .tooManyParts => "too many values to unpack (expected 2)"
  | .noMember kind member => s!"'{kind}' object has no attribute '{member}'"
  | .noSubscript kind => s!"'{kind}' object is not subscriptable"
  | .noAssignment kind => s!"'{kind}' object does not support item assignment"
  | .listIndexKind kind => s!"list indices must be integers or slices, not {kind}"
  | .textIndexKind kind => s!"string indices must be integers, not '{kind}'"
  | .assignmentOutOfRange => "list assignment index out of range"
  | .indexTooWide => "cannot fit 'int' into an index-sized integer"
  | .itemOutOfRange container => s!"{container} index out of range"
  | .missingKey key => Value.keyText key
  | .notAKey kind => s!"unhashable type: '{kind}'"
  | .notJoinable left right => s!"can only concatenate {left} (not \"{right}\") to {left}"
  | .noOperation operator left right =>
      s!"unsupported operand type(s) for {operator}: '{left}' and '{right}'"
  | .noOrder operator left right =>
      s!"'{operator}' not supported between instances of '{left}' and '{right}'"
  | .notConvertible kind =>
      s!"int() argument must be a string, a bytes-like object or a real number, not '{kind}'"
  | .notADouble kind => s!"float() argument must be a string or a real number, not '{kind}'"
  | .malformedDouble text => s!"could not convert string to float: {Text.quoted text}"
  | .notACount kind => s!"'{kind}' object cannot be interpreted as an integer"
  | .integer fault => fault.message
  | .wholePartOfNotANumber => "cannot convert float NaN to integer"
  | .wholePartOfInfinity => "cannot convert float infinity to integer"
  | .beyondDoubles => "int too large to convert to float"
  | .quotientBeyondDoubles => "integer division result too large for a float"
  | .notText position kind => s!"sequence item {position}: expected str instance, {kind} found"
  | .notAPath kind => s!"expected str, bytes or os.PathLike object, not {kind}"
  | .notASeed =>
      "The only supported seed types are: None,\nint, float, str, bytes, and bytearray."

end ExactCover
