import ExactCover.Text.Blank
import ExactCover.Text.Digit
import ExactCover.Text.Quoted

/-!
# Integers in text

Reading an integer: blanks around it are ignored, a sign may come first, single underscores may
stand between digits, and the digits may be those of any script. A number of more than
`digitLimit` digits is refused for its length before anything after it is looked at.
-/

set_option autoImplicit false

namespace ExactCover.Text

/-- The largest number of digits that is read. -/
def digitLimit : Nat := 4300

/-- Why a text is not read as an integer. -/
inductive IntegerFault where
  | malformed (text : String)
  | tooLong (digits : Nat)
deriving DecidableEq

/-- The message of a fault; a long text is cut off. -/
def IntegerFault.message : IntegerFault → String
  | .malformed text =>
      "invalid literal for int() with base 10: " ++ firstCharacters 200 (quoted text)
  | .tooLong digits =>
      "Exceeds the limit (4300 digits) for integer string conversion: value has " ++
        toString digits ++ " digits; use sys.set_int_max_str_digits() to increase the limit"

/-- The blanks that may surround a number: those of `isBlank` but the record separators. -/
def isMargin (character : Char) : Bool :=
  isBlank character && !(0x1C ≤ character.toNat && character.toNat ≤ 0x1F)

/-- Drops the blanks around a number. -/
def trimMargin (characters : List Char) : List Char :=
  ((characters.dropWhile isMargin).reverse.dropWhile isMargin).reverse

/-- Whether a run of digits and underscores is a number: every underscore has a digit on both
sides. `afterDigit` says whether a digit came just before. -/
def groupsDigits (afterDigit : Bool) : List Char → Bool
  | [] => afterDigit
  | character :: rest =>
      if character = '_' then afterDigit && groupsDigits false rest
      else groupsDigits true rest

/-- The sign in front of a number, and what follows it. -/
def takeSign : List Char → Bool × List Char
  | '+' :: rest => (false, rest)
  | '-' :: rest => (true, rest)
  | characters => (false, characters)

/-- Reads an integer. -/
def readInteger (text : String) : Except IntegerFault Int :=
  let (negative, body) := takeSign (text.toList.dropWhile isMargin)
  let run := body.takeWhile fun c => isDigit c || c = '_'
  let rest := body.dropWhile fun c => isDigit c || c = '_'
  let digits := run.filter isDigit
  if !groupsDigits false run then .error (.malformed text)
  else if digits.length > digitLimit then .error (.tooLong digits.length)
  else if !rest.all isMargin then .error (.malformed text)
  else
    let size : Int := digitsValue digits
    .ok (if negative then -size else size)

/-- A sign, an underscore and surrounding blanks are read. -/
example : (readInteger "  -1_0 ").toOption = some (-10) := by cbv

end ExactCover.Text
