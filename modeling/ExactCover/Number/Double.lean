/-!
# Doubles as exact numbers

A finite double is a whole number of units of a power of two. Here doubles are taken apart into
that form and put together again: `nearest` gives the double closest to a quotient of two natural
numbers, a tie going to the even significand. Reading decimals, dividing integers of any size and
turning an integer into a double are all this one function.
-/

set_option autoImplicit false

namespace ExactCover.Double

/-- What a double stands for. A finite one is `significand * 2 ^ exponent`, signed. -/
inductive Decoded where
  | notANumber
  | infinite (negative : Bool)
  | finite (negative : Bool) (significand : Nat) (exponent : Int)

/-- The sign, exponent and significand of a double, read from its bits. -/
def decode (number : Float) : Decoded :=
  let bits := number.toBits.toNat
  let negative := bits / Nat.pow 2 63 == 1
  let field : Nat := bits / Nat.pow 2 52 % Nat.pow 2 11
  let fraction := bits % Nat.pow 2 52
  if field = 2047 then
    if fraction = 0 then .infinite negative else .notANumber
  else if field = 0 then .finite negative fraction (-1074)
  else .finite negative (Nat.pow 2 52 + fraction) ((field : Int) - 1075)

/-- The infinity of a sign. -/
def infinity (negative : Bool) : Float :=
  if negative then -(1.0 / 0.0) else 1.0 / 0.0

/-- The double that is not a number. -/
def notANumber : Float := 0.0 / 0.0

/-- The double with a given sign and `significand * 2 ^ exponent`, where the significand has at
most 53 binary digits, and all of them unless the exponent is the least one. -/
def encode (negative : Bool) (significand : Nat) (exponent : Int) : Float :=
  let signBit := if negative then Nat.pow 2 63 else 0
  if significand < Nat.pow 2 52 then Float.ofBits (UInt64.ofNat (signBit + significand))
  else
    let field := (exponent + 1075).toNat
    if field ≥ 2047 then infinity negative
    else Float.ofBits (UInt64.ofNat (signBit + field * Nat.pow 2 52 + (significand - Nat.pow 2 52)))

/-- A quotient rounded to a whole number, a tie going to the even neighbour. -/
def roundHalfEven (numerator denominator : Nat) : Nat :=
  let whole := numerator / denominator
  let twice := 2 * (numerator % denominator)
  if twice < denominator then whole
  else if twice = denominator then whole + whole % 2
  else whole + 1

/-- Scales a quotient by a power of two. -/
def scale (numerator denominator : Nat) (exponent : Int) : Nat × Nat :=
  if 0 ≤ exponent then (numerator * Nat.pow 2 exponent.toNat, denominator)
  else (numerator, denominator * Nat.pow 2 (-exponent).toNat)

/-- The double nearest to a quotient, a tie going to the even significand. -/
def nearest (negative : Bool) (numerator denominator : Nat) : Float :=
  if numerator = 0 then encode negative 0 (-1074)
  else
    let guess : Int := (numerator.log2 : Int) - denominator.log2 - 53
    let scaled := scale numerator denominator (-guess)
    let fine := if scaled.1 / scaled.2 < Nat.pow 2 53 then guess else guess + 1
    let exponent := if fine < -1074 then -1074 else fine
    let (top, bottom) := scale numerator denominator (-exponent)
    let significand := roundHalfEven top bottom
    if significand = Nat.pow 2 53 then encode negative (Nat.pow 2 52) (exponent + 1)
    else encode negative significand exponent

/-- The double nearest to an integer. -/
def ofInt (number : Int) : Float := nearest (number < 0) number.natAbs 1

/-- Whether a double has an infinite value. -/
def isInfinite (number : Float) : Bool :=
  match decode number with
  | .infinite _ => true
  | _ => false

/-- The whole part of a finite double, toward zero. -/
def truncate? (number : Float) : Option Int :=
  match decode number with
  | .finite negative significand exponent =>
      let (top, bottom) := scale significand 1 exponent
      let size : Int := (top / bottom : Nat)
      some (if negative then -size else size)
  | _ => none

/-- The least integer that is not below a finite double. -/
def ceiling? (number : Float) : Option Int :=
  match decode number with
  | .finite negative significand exponent =>
      let (top, bottom) := scale significand 1 exponent
      let signed : Int := if negative then -(top : Int) else top
      some (-((-signed).fdiv bottom))
  | _ => none

/-- The order of an integer and a finite double, compared exactly. -/
def compareInt (number : Int) (negative : Bool) (significand : Nat) (exponent : Int) : Ordering :=
  let (top, bottom) := scale significand 1 exponent
  let signed : Int := if negative then -(top : Int) else top
  compare (number * bottom) signed

/-- A quotient is rounded down or up. -/
theorem roundHalfEven_bounds (numerator denominator : Nat) :
    numerator / denominator ≤ roundHalfEven numerator denominator ∧
      roundHalfEven numerator denominator ≤ numerator / denominator + 1 := by
  unfold roundHalfEven
  have parity := Nat.mod_lt (numerator / denominator) (y := 2) (by omega)
  dsimp only
  split
  · omega
  · split <;> omega

end ExactCover.Double
