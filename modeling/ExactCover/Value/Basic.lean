import ExactCover.Entries
import ExactCover.Value.Key

/-!
# Values

Column names, configuration entries and the cells of a report may be anything that a JSON document
can hold. `Value` is that type. Integers are unbounded and kept apart from doubles, and an object
keeps its fields in the order in which they first appeared, because both are shown when a value is
printed or saved. The keys of an object are names, but for an object that was changed by other keys.
-/

set_option autoImplicit false

namespace ExactCover

/-- A value of a document: a scalar, a list, or an object with its fields in order. -/
inductive Value where
  | null
  | bool (flag : Bool)
  | int (number : Int)
  | float (number : Float)
  | text (characters : String)
  | list (items : List Value)
  | object (fields : List (Key × Value))

/-- The fields of an object, in order of first appearance. -/
abbrev Fields := Entries Key Value

namespace Value

instance : Inhabited Value := ⟨.null⟩

/-- The kind of a value, as error messages name it. -/
def kind : Value → String
  | .null => "NoneType"
  | .bool _ => "bool"
  | .int _ => "int"
  | .float _ => "float"
  | .text _ => "str"
  | .list _ => "list"
  | .object _ => "dict"

/-- What counts as true: everything but null, false, zero and what is empty. -/
def isTrue : Value → Bool
  | .null => false
  | .bool flag => flag
  | .int number => number != 0
  | .float number => number != 0.0
  | .text characters => characters != ""
  | .list items => !items.isEmpty
  | .object fields => !fields.isEmpty

def isNull : Value → Bool
  | .null => true
  | _ => false

/-- Whether a value is a whole number for the program: an integer or a flag, never a double. -/
def isWhole : Value → Bool
  | .bool _ => true
  | .int _ => true
  | _ => false

/-- A list of integers. -/
def ofInts (numbers : List Int) : Value := .list (numbers.map .int)

end Value

/-- A key as a value. -/
def Key.toValue : Key → Value
  | .null => .null
  | .bool flag => .bool flag
  | .int number => .int number
  | .float number => .float number
  | .text characters => .text characters

end ExactCover
