import ExactCover.Number.Double

/-!
# Fixed decimal places

A double with a fixed number of decimal places: its exact value is rounded on that grid, and a tie
goes to the even neighbour.
-/

set_option autoImplicit false

namespace ExactCover.Double

/-- Puts a point in front of the last `places` digits, with at least one digit before it. -/
def withPoint (digits : List Char) (places : Nat) : List Char :=
  if places = 0 then digits
  else
    let padded := List.replicate (places + 1 - digits.length) '0' ++ digits
    padded.take (padded.length - places) ++ '.' :: padded.drop (padded.length - places)

/-- The text of a double with a fixed number of decimal places. -/
def fixed (number : Float) (places : Nat) : String :=
  match decode number with
  | .notANumber => "nan"
  | .infinite negative => if negative then "-inf" else "inf"
  | .finite negative significand exponent =>
      let (top, bottom) := scale (significand * Nat.pow 10 places) 1 exponent
      let unsigned := withPoint (Nat.toDigits 10 (roundHalfEven top bottom)) places
      String.ofList (if negative then '-' :: unsigned else unsigned)

end ExactCover.Double
