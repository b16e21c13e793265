/-!
# Decimal digits

Every script with decimal digits holds them as ten consecutive code points, zero first. A table of
the zeros therefore gives the value of each digit.
-/

set_option autoImplicit false

namespace ExactCover.Text

/-- The code points of the digit zero, one for each run of ten decimal digits. -/
def digitZeros : List Nat :=
  [0x30, 0x660, 0x6F0, 0x7C0, 0x966, 0x9E6, 0xA66, 0xAE6, 0xB66, 0xBE6, 0xC66, 0xCE6, 0xD66, 0xDE6,
    0xE50, 0xED0, 0xF20, 0x1040, 0x1090, 0x17E0, 0x1810, 0x1946, 0x19D0, 0x1A80, 0x1A90, 0x1B50,
    0x1BB0, 0x1C40, 0x1C50, 0xA620, 0xA8D0, 0xA900, 0xA9D0, 0xA9F0, 0xAA50, 0xABF0, 0xFF10, 0x104A0,
    0x10D30, 0x11066, 0x110F0, 0x11136, 0x111D0, 0x112F0, 0x11450, 0x114D0, 0x11650, 0x116C0,
    0x11730, 0x118E0, 0x11950, 0x11C50, 0x11D50, 0x11DA0, 0x16A60, 0x16AC0, 0x16B50, 0x1D7CE,
    0x1D7D8, 0x1D7E2, 0x1D7EC, 0x1D7F6, 0x1E140, 0x1E2F0, 0x1E950, 0x1FBF0]

/-- The value of a decimal digit of any script. -/
def digitValue? (character : Char) : Option Nat :=
  let code := character.toNat
  (digitZeros.find? fun start => start ≤ code && code < start + 10).map (code - ·)

/-- Whether a character is a decimal digit of any script. -/
def isDigit (character : Char) : Bool := (digitValue? character).isSome

/-- Whether a character is one of the ten ASCII digits. -/
def isPlainDigit (character : Char) : Bool :=
  '0'.toNat ≤ character.toNat && character.toNat ≤ '9'.toNat

/-- The value of a row of digits, the most significant first; other characters count as zero. -/
def digitsValue (characters : List Char) : Nat :=
  characters.foldl (fun total character => 10 * total + (digitValue? character).getD 0) 0

/-- A digit is worth at most nine. -/
theorem digitValue?_lt {character : Char} {value : Nat} (read : digitValue? character = some value) :
    value < 10 := by
  simp only [digitValue?, Option.map_eq_some_iff] at read
  obtain ⟨start, found, same⟩ := read
  have inside := List.find?_some found
  simp only [Bool.and_eq_true, decide_eq_true_eq] at inside
  omega

end ExactCover.Text
