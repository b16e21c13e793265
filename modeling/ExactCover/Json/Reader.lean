import ExactCover.Json.Fault
import ExactCover.Number.Reader
import ExactCover.Text.Half
import ExactCover.Value.Basic

/-!
# Reading JSON

Reads a document into a value. Beside the usual values the words `NaN`, `Infinity` and `-Infinity`
are read as doubles. A number without point and exponent is an integer of any size up to the limit
on digits. Of two fields with one name the later value counts, in the place of the earlier.

Each reader takes what remains of the document and returns what remains after it. The offset of the
remainder is carried along, because a fault is reported with its place.
-/

set_option autoImplicit false

namespace ExactCover.Json

/-- What remains of a document, and its offset. -/
structure Rest where
  offset : Nat
  characters : List Char

/-- The blanks that may stand between the parts of a document. -/
def isSpace (character : Char) : Bool :=
  character = ' ' || character = '\t' || character = '\n' || character = '\r'

/-- Drops the blanks in front. -/
def Rest.trimmed (rest : Rest) : Rest :=
  ⟨rest.offset + (rest.characters.takeWhile isSpace).length, rest.characters.dropWhile isSpace⟩

/-- Drops some characters. -/
def Rest.skip (rest : Rest) (count : Nat) : Rest :=
  ⟨rest.offset + count, rest.characters.drop count⟩

def Rest.stop {α : Type} (rest : Rest) (what : Problem) : Except Stop α :=
  .error (.problem what rest.offset)

/-! ## Text -/

/-- The value of a digit in base sixteen. -/
def hexValue? (character : Char) : Option Nat :=
  let code := character.toNat
  if 48 ≤ code && code ≤ 57 then some (code - 48)
  else if 65 ≤ code && code ≤ 70 then some (code - 55)
  else if 97 ≤ code && code ≤ 102 then some (code - 87)
  else none

/-- The value of four digits in base sixteen. -/
def hexValue4? (first second third fourth : Char) : Option Nat := do
  return (((← hexValue? first) * 16 + (← hexValue? second)) * 16 + (← hexValue? third)) * 16
    + (← hexValue? fourth)

/-- The character that a simple escape stands for. -/
def simpleEscape? : Char → Option Char
  | '"' => some '"'
  | '\\' => some '\\'
  | '/' => some '/'
  | 'b' => some '\x08'
  | 'f' => some '\x0c'
  | 'n' => some '\n'
  | 'r' => some '\r'
  | 't' => some '\t'
  | _ => none

/-- Reads the code points and code units of a text up to its closing quote. `opening` is the offset
of the opening quote. -/
def readUnits (opening : Nat) : Nat → List Char → Except Stop (List Nat × Rest)
  | _, [] => .error (.problem .unclosedText opening)
  | _, ['\\'] => .error (.problem .unclosedText opening)
  | offset, '\\' :: 'u' :: first :: second :: third :: fourth :: rest =>
      match hexValue4? first second third fourth with
      | none => .error (.problem .badCodeEscape (offset + 1))
      | some unit =>
          if rest.isEmpty then .error (.problem .badCodeEscape (offset + 1))
          else do
            let (units, after) ← readUnits opening (offset + 6) rest
            return (unit :: units, after)
  | offset, '\\' :: escaped :: rest =>
      if escaped = 'u' then .error (.problem .badCodeEscape (offset + 1))
      else
        match simpleEscape? escaped with
        | none => .error (.problem .unknownEscape offset)
        | some character => do
            let (units, after) ← readUnits opening (offset + 2) rest
            return (character.toNat :: units, after)
  | offset, character :: rest =>
      if character = '"' then .ok ([], ⟨offset + 1, rest⟩)
      else if character.toNat < 0x20 then .error (.problem .controlCharacter offset)
      else do
        let (units, after) ← readUnits opening (offset + 1) rest
        return (character.toNat :: units, after)

def isHighUnit (unit : Nat) : Bool := 0xD800 ≤ unit && unit < 0xDC00

def isLowUnit (unit : Nat) : Bool := 0xDC00 ≤ unit && unit < 0xE000

/-- Joins the pairs of code units that stand for one character. A half without the other is held as
such. -/
def joinUnits : List Nat → List Char
  | [] => []
  | [unit] => [Text.ofUnit unit]
  | high :: low :: rest =>
      if isHighUnit high && isLowUnit low then
        Char.ofNat (0x10000 + (high - 0xD800) * 0x400 + (low - 0xDC00)) :: joinUnits rest
      else Text.ofUnit high :: joinUnits (low :: rest)

/-- Reads a text whose opening quote has just been passed. -/
def readText (rest : Rest) : Except Stop (String × Rest) := do
  let (units, after) ← readUnits (rest.offset - 1) rest.offset rest.characters
  return (String.ofList (joinUnits units), after)

/-! ## Numbers -/

/-- The digits in front, and what follows them. -/
def takeDigits (characters : List Char) : List Char × List Char :=
  (characters.takeWhile Text.isPlainDigit, characters.dropWhile Text.isPlainDigit)

/-- The digits after a point. A point without digits does not belong to the number. -/
def takeFraction (characters : List Char) : List Char × List Char :=
  match characters with
  | '.' :: rest =>
      let (digits, after) := takeDigits rest
      if digits.isEmpty then ([], characters) else (digits, after)
  | _ => ([], characters)

/-- An exponent. A mark without digits does not belong to the number. -/
def takeExponent (characters : List Char) : Option Int × List Char :=
  match characters with
  | mark :: rest =>
      if mark = 'e' || mark = 'E' then
        let (negative, body) := Text.takeSign rest
        let (digits, after) := takeDigits body
        if digits.isEmpty then (none, characters)
        else
          let size : Int := Text.digitsValue digits
          (some (if negative then -size else size), after)
      else (none, characters)
  | [] => (none, [])

/-- The digits before the point: a zero alone, or digits that do not begin with a zero. -/
def takeWhole (characters : List Char) : List Char × List Char :=
  match characters with
  | '0' :: rest => (['0'], rest)
  | _ => takeDigits characters

/-- Reads a number. -/
def readNumber (rest : Rest) : Except Stop (Value × Rest) :=
  let (negative, body) :=
    match rest.characters with
    | '-' :: body => (true, body)
    | body => (false, body)
  let (whole, afterWhole) := takeWhole body
  let (fraction, afterFraction) := takeFraction afterWhole
  let (exponent, after) := takeExponent afterFraction
  let remaining : Rest := ⟨rest.offset + (rest.characters.length - after.length), after⟩
  if whole.isEmpty then rest.stop .expectingValue
  else if fraction.isEmpty && exponent.isNone then
    if whole.length > Text.digitLimit then .error (.tooLong whole.length)
    else
      let size : Int := Text.digitsValue whole
      .ok (.int (if negative then -size else size), remaining)
  else
    let significand := Text.digitsValue (whole ++ fraction)
    .ok (.float (Double.ofDecimal negative significand (exponent.getD 0 - fraction.length)), remaining)

/-! ## Values -/

/-- The words that stand for a value, longest first where one begins another. -/
def literals : List (String × Value) :=
  [("null", .null), ("true", .bool true), ("false", .bool false), ("NaN", .float Double.notANumber),
    ("Infinity", .float (Double.infinity false)), ("-Infinity", .float (Double.infinity true))]

/-- The literal that the text begins with, and its length. -/
def literal? (characters : List Char) : Option (Value × Nat) :=
  literals.findSome? fun entry =>
    if entry.1.toList.isPrefixOf characters then some (entry.2, entry.1.length) else none

mutual

/-- Reads a value. The fuel bounds the number of parts, so twice the length of the document is
enough; `room` is how many containers may still be entered. -/
def readValue : Nat → Nat → Rest → Except Stop (Value × Rest)
  | 0, _, rest => rest.stop .expectingValue
  | fuel + 1, room, rest =>
      match rest.characters with
      | '"' :: _ => do
          let (text, after) ← readText (rest.skip 1)
          return (.text text, after)
      | '[' :: _ =>
          let inside := (rest.skip 1).trimmed
          match room, inside.characters with
          | 0, _ => .error (.tooDeep .list)
          | _ + 1, ']' :: _ => .ok (.list [], inside.skip 1)
          | room + 1, _ => do
              let (items, after) ← readItems fuel room inside
              return (.list items, after)
      | '\x7b' :: _ =>
          let inside := (rest.skip 1).trimmed
          match room, inside.characters with
          | 0, _ => .error (.tooDeep .object)
          | _ + 1, '\x7d' :: _ => .ok (.object [], inside.skip 1)
          | room + 1, _ => do
              let (fields, after) ← readFields fuel room inside
              return (.object (Entries.ofList fields), after)
      | characters =>
          match literal? characters with
          | some (value, count) => .ok (value, rest.skip count)
          | none => readNumber rest

/-- Reads the items of a list up to the closing bracket. -/
def readItems : Nat → Nat → Rest → Except Stop (List Value × Rest)
  | 0, _, rest => rest.stop .expectingValue
  | fuel + 1, room, rest => do
      let (item, after) ← readValue fuel room rest
      let next := after.trimmed
      match next.characters with
      | ']' :: _ => return ([item], next.skip 1)
      | ',' :: _ =>
          let (items, last) ← readItems fuel room (next.skip 1).trimmed
          return (item :: items, last)
      | _ => next.stop .expectingComma

/-- Reads the fields of an object up to the closing brace. -/
def readFields : Nat → Nat → Rest → Except Stop (List (Key × Value) × Rest)
  | 0, _, rest => rest.stop .expectingName
  | fuel + 1, room, rest =>
      match rest.characters with
      | '"' :: _ => do
          let (name, afterName) ← readText (rest.skip 1)
          let colon := afterName.trimmed
          match colon.characters with
          | ':' :: _ =>
              let (value, afterValue) ← readValue fuel room (colon.skip 1).trimmed
              let next := afterValue.trimmed
              match next.characters with
              | '\x7d' :: _ => return ([(.text name, value)], next.skip 1)
              | ',' :: _ =>
                  let (fields, last) ← readFields fuel room (next.skip 1).trimmed
                  return ((.text name, value) :: fields, last)
              | _ => next.stop .expectingComma
          | _ => colon.stop .expectingColon
      | _ => rest.stop .expectingName

end

/-- Reads a document that must be one value and nothing else but blanks; `room` is the number of
containers that may be nested. -/
def readDocument (room : Nat) (characters : List Char) : Except Stop Value := do
  if characters.head? = some '\uFEFF' then .error (.problem .byteOrderMark 0)
  else
    let (value, after) ← readValue (2 * characters.length + 2) room (Rest.trimmed ⟨0, characters⟩)
    let left := after.trimmed
    if left.characters.isEmpty then return value else left.stop .extraData

/-- Reads a document in which at most `room` containers are nested; a fault comes with its place. -/
def read (room : Nat) (document : String) : Except Fault Value :=
  let characters := document.toList
  (readDocument room characters).mapError (Stop.locate characters)

end ExactCover.Json
