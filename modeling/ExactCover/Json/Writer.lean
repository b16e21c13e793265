import ExactCover.Number.Shortest
import ExactCover.Text.Quoted
import ExactCover.Value.Basic

/-!
# Writing JSON

Writes a value as a document of ASCII characters, either on one line or with one part a line and two
blanks for every level. A double keeps its shortest digits; the three that are no finite numbers
are written as the words that the reader knows. Every key is written as a name, so different keys of
one object may come out under the same name.
-/

set_option autoImplicit false

namespace ExactCover.Json

/-- The escape of a code unit. -/
def unitEscape (unit : Nat) : List Char := '\\' :: 'u' :: Text.hexDigits 4 unit

/-- A character inside a text. -/
def writeCharacter (character : Char) : List Char :=
  let code := character.toNat
  if character = '"' then ['\\', '"']
  else if character = '\\' then ['\\', '\\']
  else if character = '\n' then ['\\', 'n']
  else if character = '\r' then ['\\', 'r']
  else if character = '\t' then ['\\', 't']
  else if character = '\x08' then ['\\', 'b']
  else if character = '\x0c' then ['\\', 'f']
  else if 0x20 ≤ code && code < 0x7F then [character]
  else if code < 0x10000 then unitEscape code
  else
    match Text.half? character with
    | some unit => unitEscape unit
    | none =>
        let above := code - 0x10000
        unitEscape (0xD800 + above / 0x400) ++ unitEscape (0xDC00 + above % 0x400)

/-- A text in quotes. -/
def writeText (text : String) : String :=
  String.ofList ('"' :: text.toList.flatMap writeCharacter ++ ['"'])

/-- A double. -/
def writeDouble (number : Float) : String :=
  match Double.decode number with
  | .notANumber => "NaN"
  | .infinite negative => if negative then "-Infinity" else "Infinity"
  | .finite .. => Double.text number

/-- A key as a name: another scalar has the text that it has as a value. -/
def writeKey : Key → String
  | .null => writeText "null"
  | .bool flag => writeText (if flag then "true" else "false")
  | .int number => writeText (toString number)
  | .float number => writeText (writeDouble number)
  | .text characters => writeText characters

/-- How the parts of a document are set apart. -/
inductive Layout where
  /-- Everything on one line. -/
  | compact
  /-- One part a line, at some depth of nesting. -/
  | indented (depth : Nat)

/-- The layout inside a list or object. -/
def Layout.deeper : Layout → Layout
  | .compact => .compact
  | .indented depth => .indented (depth + 1)

/-- What stands in front of a part. -/
def Layout.margin : Layout → String
  | .compact => ""
  | .indented depth => "\n" ++ String.ofList (List.replicate (2 * depth) ' ')

/-- What stands between two parts. -/
def Layout.separator (inside : Layout) : String :=
  match inside with
  | .compact => ", "
  | .indented _ => "," ++ inside.margin

mutual

/-- Writes a value. -/
def write (layout : Layout) : Value → String
  | .null => "null"
  | .bool flag => if flag then "true" else "false"
  | .int number => toString number
  | .float number => writeDouble number
  | .text characters => writeText characters
  | .list items =>
      if items.isEmpty then "[]"
      else "[" ++ layout.deeper.margin ++ writeItems layout.deeper items ++ layout.margin ++ "]"
  | .object fields =>
      if fields.isEmpty then "\x7b\x7d"
      else
        "\x7b" ++ layout.deeper.margin ++ writeFields layout.deeper fields ++ layout.margin ++
          "\x7d"

/-- Writes the items of a list. -/
def writeItems (layout : Layout) : List Value → String
  | [] => ""
  | [item] => write layout item
  | item :: next :: rest =>
      write layout item ++ layout.separator ++ writeItems layout (next :: rest)

/-- Writes the fields of an object. -/
def writeFields (layout : Layout) : List (Key × Value) → String
  | [] => ""
  | [(key, value)] => writeKey key ++ ": " ++ write layout value
  | (key, value) :: next :: rest =>
      writeKey key ++ ": " ++ write layout value ++ layout.separator ++
        writeFields layout (next :: rest)

end

/-- The document of a value on one line. -/
def line (value : Value) : String := write .compact value

/-- The document of a value with one part a line. -/
def page (value : Value) : String := write (.indented 0) value

end ExactCover.Json
