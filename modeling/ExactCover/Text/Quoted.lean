import ExactCover.Text.Half
import ExactCover.Text.Printable

/-!
# Quoted text

The quoted form of a text, as it appears inside printed lists and error messages: single quotes,
unless the text holds a single quote and no double one. The quote in use, the backslash and what is
not printable are escaped.
-/

set_option autoImplicit false

namespace ExactCover.Text

/-- The digits of a number in base sixteen, filled up with zeros. -/
def hexDigits (width number : Nat) : List Char :=
  let digits := Nat.toDigits 16 number
  List.replicate (width - digits.length) '0' ++ digits

/-- The escape of a character by its code point, in the least of three widths that holds it; half of
a pair by its unit. -/
def codeEscape (character : Char) : List Char :=
  let code := (half? character).getD character.toNat
  if code < 0x100 then '\\' :: 'x' :: hexDigits 2 code
  else if code < 0x10000 then '\\' :: 'u' :: hexDigits 4 code
  else '\\' :: 'U' :: hexDigits 8 code

/-- One character inside quotes. -/
def quotedCharacter (quote character : Char) : List Char :=
  if character = quote || character = '\\' then ['\\', character]
  else if character = '\n' then ['\\', 'n']
  else if character = '\r' then ['\\', 'r']
  else if character = '\t' then ['\\', 't']
  else if isPrintable character then [character]
  else codeEscape character

/-- The quote that a text is put in. -/
def quoteFor (characters : List Char) : Char :=
  if characters.contains '\'' && !characters.contains '"' then '"' else '\''

/-- A text in quotes. -/
def quoted (text : String) : String :=
  let characters := text.toList
  let quote := quoteFor characters
  String.ofList (quote :: characters.flatMap (quotedCharacter quote) ++ [quote])

/-- The beginning of a text. -/
def firstCharacters (count : Nat) (text : String) : String := String.ofList (text.toList.take count)

end ExactCover.Text
