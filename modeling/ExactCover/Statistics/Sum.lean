/-!
# Sums of doubles

A sum of doubles depends on the order of its additions. Long lists are added in halves, and lists
of medium length on eight lanes, which keeps the rounding error small.
-/

set_option autoImplicit false

namespace ExactCover.Statistics

/-- Eight partial sums. -/
structure Lanes where
  l0 : Float
  l1 : Float
  l2 : Float
  l3 : Float
  l4 : Float
  l5 : Float
  l6 : Float
  l7 : Float

/-- The sum of the lanes, added in pairs. -/
def Lanes.total (lanes : Lanes) : Float :=
  ((lanes.l0 + lanes.l1) + (lanes.l2 + lanes.l3)) + ((lanes.l4 + lanes.l5) + (lanes.l6 + lanes.l7))

/-- Adds eight numbers at a time to the lanes, then the lanes, then the numbers that are left. -/
def Lanes.add (lanes : Lanes) : List Float → Float
  | x0 :: x1 :: x2 :: x3 :: x4 :: x5 :: x6 :: x7 :: rest =>
      Lanes.add ⟨lanes.l0 + x0, lanes.l1 + x1, lanes.l2 + x2, lanes.l3 + x3, lanes.l4 + x4,
        lanes.l5 + x5, lanes.l6 + x6, lanes.l7 + x7⟩ rest
  | rest => rest.foldl (· + ·) lanes.total

/-- The sum of at most 128 numbers: from left to right if there are fewer than eight, and on lanes
otherwise. -/
def shortSum : List Float → Float
  | x0 :: x1 :: x2 :: x3 :: x4 :: x5 :: x6 :: x7 :: rest =>
      Lanes.add ⟨x0, x1, x2, x3, x4, x5, x6, x7⟩ rest
  | numbers => numbers.foldl (· + ·) (-0.0)

/-- Where a long list is divided: about its middle, after a multiple of eight numbers. -/
def division (count : Nat) : Nat := count / 2 - count / 2 % 8

/-- The sum of some numbers. -/
def sum (numbers : List Float) : Float :=
  if _ : numbers.length ≤ 128 then shortSum numbers
  else
    sum (numbers.take (division numbers.length)) + sum (numbers.drop (division numbers.length))
termination_by numbers.length
decreasing_by
  · simp only [List.length_take, division]
    omega
  · simp only [List.length_drop, division]
    omega

end ExactCover.Statistics
