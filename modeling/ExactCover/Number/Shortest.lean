import ExactCover.Number.Double

/-!
# The shortest decimal of a double

A double is written with as few digits as read back to it. The decimals that read back are those of
an interval around the double, ends included when its significand is even. For each count of digits
the candidates are the two neighbours of the double on the grid of decimals with that many digits;
the first grid with a candidate inside the interval gives the digits, and of two candidates the
nearer one is taken.

How digits are laid out (where positional notation ends, how an exponent is written) is one record,
`Layout.shown`.
-/

set_option autoImplicit false

namespace ExactCover.Double

/-- The decimals that read back to a double, as quotients with one denominator. -/
structure Interval where
  low : Nat
  value : Nat
  high : Nat
  denominator : Nat
  closed : Bool

/-- The interval of a positive finite double. Its lower neighbour is closer when the significand is
the least one with all its binary digits. -/
def Interval.of (significand : Nat) (exponent : Int) : Interval :=
  let narrow := significand = Nat.pow 2 52 ∧ exponent > -1074
  let below := if narrow then 1 else 2
  let (value, denominator) := scale (4 * significand) 4 exponent
  let unit := (scale 1 1 exponent).1
  { low := value - below * unit
    value := value
    high := value + 2 * unit
    denominator := denominator
    closed := significand % 2 = 0 }

/-- Whether `numerator / scale` lies in the interval. -/
def Interval.holds (interval : Interval) (numerator scale : Nat) : Bool :=
  let point := numerator * interval.denominator
  if interval.closed then interval.low * scale ≤ point && point ≤ interval.high * scale
  else interval.low * scale < point && point < interval.high * scale

/-- The number of decimal digits of a positive number. -/
def digitCount (number : Nat) : Nat := (Nat.toDigits 10 number).length

/-- The place of the decimal point: the least `k` for which the value is below `10 ^ k`. -/
def pointPlace (numerator denominator : Nat) : Int :=
  let guess : Int := (digitCount numerator : Int) - digitCount denominator
  let below (k : Int) : Bool :=
    if 0 ≤ k then numerator < denominator * Nat.pow 10 k.toNat
    else numerator * Nat.pow 10 (-k).toNat < denominator
  if below guess then guess else guess + 1

/-- The candidate with `count` digits, if one of the two neighbours on that grid reads back. A grid
point is given by its number of units of `10 ^ (place - count)`. -/
def candidate? (interval : Interval) (place : Int) (count : Nat) : Option Nat :=
  let shift := place - count
  -- Units of the grid per one: `numerator / denominator * 10 ^ (-shift)`.
  let top := if 0 ≤ shift then interval.value else interval.value * Nat.pow 10 (-shift).toNat
  let bottom := if 0 ≤ shift then interval.denominator * Nat.pow 10 shift.toNat else interval.denominator
  let lower := top / bottom
  let inside (units : Nat) : Bool :=
    if 0 ≤ shift then interval.holds (units * Nat.pow 10 shift.toNat) 1
    else interval.holds units (Nat.pow 10 (-shift).toNat)
  let upper := lower + 1
  if inside lower then
    if inside upper then some (roundHalfEven top bottom) else some lower
  else if inside upper then some upper
  else none

/-- Searches the grids with `count`, `count + 1`, … digits. -/
def searchGrids (interval : Interval) (place : Int) : Nat → Nat → Nat × Nat
  | 0, count => ((candidate? interval place count).getD 0, count)
  | fuel + 1, count =>
      match candidate? interval place count with
      | some units => (units, count)
      | none => searchGrids interval place fuel (count + 1)

/-- The digits of a decimal and the place of its point: `0.d₁d₂… * 10 ^ place`. -/
structure Decimal where
  digits : List Char
  place : Int

/-- Drops the zeros at the end of a row of digits. -/
def dropFinalZeros (digits : List Char) : List Char :=
  (digits.reverse.dropWhile (· = '0')).reverse

/-- The shortest decimal of a positive finite double. Seventeen digits always suffice. -/
def shortest (significand : Nat) (exponent : Int) : Decimal :=
  let interval := Interval.of significand exponent
  let place := pointPlace interval.value interval.denominator
  let (units, count) := searchGrids interval place 16 1
  let digits := Nat.toDigits 10 units
  { digits := dropFinalZeros digits
    place := place + ((digits.length : Int) - count) }

/-! ## Layout -/

/-- How the digits of a double are laid out. -/
structure Layout where
  /-- The last place of the point that is written positionally. -/
  lastPlace : Int
  /-- The first place of the point that is written positionally. -/
  firstPlace : Int
  /-- The least number of digits of an exponent. -/
  exponentDigits : Nat
  infinity : String
  notANumber : String

/-- Doubles are shown positionally from `0.0001` up to below `10 ^ 16`, with at least one digit
after the point, and otherwise with an exponent of at least two digits. -/
def Layout.shown : Layout :=
  { lastPlace := 16, firstPlace := -3, exponentDigits := 2, infinity := "inf", notANumber := "nan" }

/-- Zeros, `count` of them. -/
def zeros (count : Nat) : List Char := List.replicate count '0'

/-- Digits in positional notation, with at least one digit on both sides of the point. -/
def positional (decimal : Decimal) : List Char :=
  let count : Int := decimal.digits.length
  if decimal.place ≤ 0 then '0' :: '.' :: zeros (-decimal.place).toNat ++ decimal.digits
  else if count ≤ decimal.place then
    decimal.digits ++ zeros (decimal.place - count).toNat ++ ['.', '0']
  else
    decimal.digits.take decimal.place.toNat ++ '.' :: decimal.digits.drop decimal.place.toNat

/-- Digits with an exponent: one digit, the others after a point, the power of ten. -/
def withExponent (layout : Layout) (decimal : Decimal) : List Char :=
  let power := decimal.place - 1
  let lead := decimal.digits.take 1
  let others := decimal.digits.drop 1
  let size := Nat.toDigits 10 power.natAbs
  lead ++ (if others.isEmpty then [] else '.' :: others) ++ 'e' ::
    (if power < 0 then '-' else '+') :: zeros (layout.exponentDigits - size.length) ++ size

/-- The text of a double in a layout. -/
def Layout.write (layout : Layout) (number : Float) : String :=
  match decode number with
  | .notANumber => layout.notANumber
  | .infinite negative => if negative then "-" ++ layout.infinity else layout.infinity
  | .finite negative significand exponent =>
      let unsigned :=
        if significand = 0 then ['0', '.', '0']
        else
          let decimal := shortest significand exponent
          if layout.firstPlace ≤ decimal.place && decimal.place ≤ layout.lastPlace then
            positional decimal
          else withExponent layout decimal
      String.ofList (if negative then '-' :: unsigned else unsigned)

/-- The shortest text that reads back to the double. -/
def text (number : Float) : String := Layout.shown.write number

end ExactCover.Double
