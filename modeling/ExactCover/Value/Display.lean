import ExactCover.Value.Basic
import ExactCover.Number.Shortest
import ExactCover.Text.Quoted

/-!
# Printed values

The text of a value in printed output. Text itself is printed as it is, but quoted inside a list or
an object.
-/

set_option autoImplicit false

namespace ExactCover.Value

/-- The text of a key inside an object. -/
def keyText : Key → String
  | .null => "None"
  | .bool flag => if flag then "True" else "False"
  | .int number => toString number
  | .float number => Double.text number
  | .text characters => Text.quoted characters

mutual

/-- The text of a value inside a list or an object, where text is quoted. -/
def inner : Value → String
  | .null => "None"
  | .bool flag => if flag then "True" else "False"
  | .int number => toString number
  | .float number => Double.text number
  | .text characters => Text.quoted characters
  | .list items => "[" ++ innerItems items ++ "]"
  | .object fields => "\x7b" ++ innerFields fields ++ "\x7d"

/-- The texts of items, separated by commas. -/
def innerItems : List Value → String
  | [] => ""
  | [item] => inner item
  | item :: next :: rest => inner item ++ ", " ++ innerItems (next :: rest)

/-- The texts of fields, separated by commas. -/
def innerFields : List (Key × Value) → String
  | [] => ""
  | [(key, value)] => keyText key ++ ": " ++ inner value
  | (key, value) :: next :: rest =>
      keyText key ++ ": " ++ inner value ++ ", " ++ innerFields (next :: rest)

end

/-- The printed text of a value. -/
def display : Value → String
  | .text characters => characters
  | value => inner value

/-- The printed text of a key. -/
def displayKey (key : Key) : String := display key.toValue

/-- Two values as a pair in parentheses. -/
def displayPair (first second : Value) : String :=
  "(" ++ inner first ++ ", " ++ inner second ++ ")"

end ExactCover.Value
