import ExactCover.Number.Double
import ExactCover.Text.Integer

/-!
# Doubles in text

Reading a double: the blanks that may surround a number are ignored, a sign may come first, and what follows is a word for
an infinity or for no number, or digits with a point and an exponent, of which the digits before or
after the point may be missing. Single underscores may stand between digits.
-/

set_option autoImplicit false

namespace ExactCover.Double

/-- The double nearest to `significand * 10 ^ exponent`. Beyond a magnitude of 400 places the value
is infinite or zero whatever its digits are. -/
def ofDecimal (negative : Bool) (significand : Nat) (exponent : Int) : Float :=
  let places : Int := (Nat.toDigits 10 significand).length
  if significand = 0 then nearest negative 0 1
  else if places + exponent > 400 then infinity negative
  else if places + exponent < -400 then nearest negative 0 1
  else if 0 ≤ exponent then nearest negative (significand * Nat.pow 10 exponent.toNat) 1
  else nearest negative significand (Nat.pow 10 (-exponent).toNat)

/-- Whether a character belongs to a run of digits. -/
def inRun (character : Char) : Bool := Text.isDigit character || character = '_'

/-- The digits of a run in front, and what follows it; a run may be missing, but every underscore in
it has a digit on both sides. -/
def takeRun? (characters : List Char) : Option (List Char × List Char) :=
  let run := characters.takeWhile inRun
  if run.isEmpty || Text.groupsDigits false run then
    some (run.filter Text.isDigit, characters.dropWhile inRun)
  else none

/-- The exponent of a number, and nothing after it. -/
def exponent? : List Char → Option Int
  | [] => some 0
  | mark :: rest =>
      if mark = 'e' || mark = 'E' then
        let (negative, body) := Text.takeSign rest
        match takeRun? body with
        | some (digits, []) =>
            if digits.isEmpty then none
            else
              let size : Int := Text.digitsValue digits
              some (if negative then -size else size)
        | _ => none
      else none

/-- The double of an unsigned number. -/
def unsigned? (negative : Bool) (characters : List Char) : Option Float := do
  let (whole, afterWhole) ← takeRun? characters
  let (fraction, afterFraction) ←
    match afterWhole with
    | '.' :: rest => takeRun? rest
    | rest => some ([], rest)
  let exponent ← exponent? afterFraction
  if whole.isEmpty && fraction.isEmpty then none
  else
    return ofDecimal negative (Text.digitsValue (whole ++ fraction)) (exponent - fraction.length)

/-- Reads a double. -/
def read? (text : String) : Option Float :=
  let (negative, body) := Text.takeSign (Text.trimMargin text.toList)
  let word := String.ofList (body.map Char.toLower)
  if word = "inf" || word = "infinity" then some (infinity negative)
  else if word = "nan" then some notANumber
  else unsigned? negative body

end ExactCover.Double
