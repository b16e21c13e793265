import ExactCover.Text.Integer

/-!
# Faults in a document

Why a text is not a JSON document, and where. A fault is found at an offset; its line and column are
counted from one. A document whose parts are nested too deeply is given up without a place.
-/

set_option autoImplicit false

namespace ExactCover.Json

/-- What is missing or wrong at some place of a document. -/
inductive Problem where
  | expectingValue
  | expectingName
  | expectingColon
  | expectingComma
  | extraData
  | unclosedText
  | controlCharacter
  | unknownEscape
  | badCodeEscape
  | byteOrderMark
deriving DecidableEq

/-- The wording of a problem. -/
def Problem.message : Problem → String
  | .expectingValue => "Expecting value"
  | .expectingName => "Expecting property name enclosed in double quotes"
  | .expectingColon => "Expecting ':' delimiter"
  | .expectingComma => "Expecting ',' delimiter"
  | .extraData => "Extra data"
  | .unclosedText => "Unterminated string starting at"
  | .controlCharacter => "Invalid control character at"
  | .unknownEscape => "Invalid \\escape"
  | .badCodeEscape => "Invalid \\uXXXX escape"
  | .byteOrderMark => "Unexpected UTF-8 BOM (decode using utf-8-sig)"

/-- What holds other values. -/
inductive Container where
  | list
  | object
deriving DecidableEq

/-- How a container is called in messages. -/
def Container.name : Container → String
  | .list => "array"
  | .object => "object"

/-- Why reading stops: a problem at an offset, an integer with too many digits, or a container inside
too many others. -/
inductive Stop where
  | problem (what : Problem) (offset : Nat)
  | tooLong (digits : Nat)
  | tooDeep (container : Container)
deriving DecidableEq

/-- A fault with its place in the document. -/
inductive Fault where
  | problem (what : Problem) (line column offset : Nat)
  | tooLong (digits : Nat)
  | tooDeep (container : Container)
deriving DecidableEq

/-- The line and the column of an offset, both counted from one. -/
def lineAndColumn (line column : Nat) : Nat → List Char → Nat × Nat
  | 0, _ => (line, column)
  | _ + 1, [] => (line, column)
  | offset + 1, character :: rest =>
      if character = '\n' then lineAndColumn (line + 1) 1 offset rest
      else lineAndColumn line (column + 1) offset rest

/-- Finds the line and the column of a fault. -/
def Stop.locate (document : List Char) : Stop → Fault
  | .problem what offset =>
      let (line, column) := lineAndColumn 1 1 offset document
      .problem what line column offset
  | .tooLong digits => .tooLong digits
  | .tooDeep container => .tooDeep container

/-- The message of a fault. -/
def Fault.message : Fault → String
  | .problem what line column offset =>
      what.message ++ ": line " ++ toString line ++ " column " ++ toString column ++ " (char " ++
        toString offset ++ ")"
  | .tooLong digits => (Text.IntegerFault.tooLong digits).message
  | .tooDeep container =>
      "maximum recursion depth exceeded while decoding a JSON " ++ container.name ++
        " from a unicode string"

end ExactCover.Json
