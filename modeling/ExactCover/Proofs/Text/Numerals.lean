import Mathlib.Algebra.Group.Nat.Defs
import Mathlib.Data.List.Basic
import Mathlib.Data.List.TakeWhile
import ExactCover.Text.Integer

/-!
# Plain numbers

Integers may be written in the digits of any script, with underscores between them. Those that the
program writes itself are written in the ten ASCII digits only, with a minus sign in front of them or
none (`readInteger_plain`, `readInteger_minus`). So an integer is read back from its printed form, unless
it has more digits than are read at all.

Main statement: `readInteger_toString`.
-/

set_option autoImplicit false

namespace ExactCover.Text

/-! ## Characters -/

/-- An ASCII digit is worth its distance from zero. -/
theorem digitValue?_of_isDigit {character : Char} (plain : character.isDigit = true) :
    digitValue? character = some (character.toNat - '0'.toNat) := by
  obtain ⟨atLeast, atMost⟩ := Char.isDigit_iff_toNat.1 plain
  have inside : (decide (48 ≤ character.toNat) && decide (character.toNat < 48 + 10)) = true := by
    change 48 ≤ character.toNat at atLeast
    change character.toNat ≤ 57 at atMost
    rw [Bool.and_eq_true, decide_eq_true_iff, decide_eq_true_iff]
    omega
  have first : digitZeros.find? (fun start => start ≤ character.toNat && character.toNat < start + 10) =
      some 48 := List.find?_cons_of_pos inside
  simp only [digitValue?, first]
  rfl

theorem isDigit_of_plain {character : Char} (plain : character.isDigit = true) :
    isDigit character = true := by
  rw [isDigit, digitValue?_of_isDigit plain]
  rfl

/-- Among the ASCII characters the ten digits are the only ones. -/
theorem isDigit_ascii {character : Char} (ascii : character.toNat < 128) :
    isDigit character = character.isDigit := by
  cases plain : character.isDigit with
  | true => exact isDigit_of_plain plain
  | false =>
      have outside : ¬ (48 ≤ character.toNat ∧ character.toNat ≤ 57) := fun inside => by
        rw [Char.isDigit_iff_toNat.2 inside] at plain
        cases plain
      have none' : digitZeros.find? (fun start => start ≤ character.toNat && character.toNat < start + 10) =
          none := by
        rw [List.find?_eq_none]
        intro start isStart
        simp only [digitZeros, List.mem_cons, List.not_mem_nil, or_false] at isStart
        rw [Bool.and_eq_true, decide_eq_true_iff, decide_eq_true_iff]
        omega
      rw [isDigit, digitValue?]
      simp only [none']
      rfl

/-- No blank is a digit. -/
theorem not_isDigit_of_isBlank {character : Char} (blank : isBlank character = true) :
    isDigit character = false := by
  have none' : ∀ code ∈ List.range' 0x2000 11 ++ blankCodePoints,
      digitZeros.find? (fun start => start ≤ code && code < start + 10) = none := by decide
  have inside : character.toNat ∈ List.range' 0x2000 11 ++ blankCodePoints := by
    rw [isBlank, Bool.or_eq_true, Bool.and_eq_true, decide_eq_true_iff, decide_eq_true_iff,
      List.contains_iff_mem] at blank
    rw [List.mem_append, List.mem_range'_1]
    exact blank.imp_left fun between => by omega
  rw [isDigit, digitValue?]
  simp only [none' _ inside]
  rfl

theorem not_isBlank_of_isDigit {character : Char} (plain : character.isDigit = true) :
    isBlank character = false := by
  cases blank : isBlank character with
  | false => rfl
  | true =>
      have isDigit := isDigit_of_plain plain
      rw [not_isDigit_of_isBlank blank] at isDigit
      cases isDigit

theorem not_isMargin_of_not_isBlank {character : Char} (printed : isBlank character = false) :
    isMargin character = false := by
  rw [isMargin, printed, Bool.false_and]

/-! ## Rows of digits -/

/-- The value of a row of ASCII digits. -/
theorem digitsValue_plain {digits : List Char} (plain : ∀ digit ∈ digits, digit.isDigit = true) :
    digitsValue digits = Nat.ofDigitChars 10 digits 0 := by
  rw [digitsValue, Nat.ofDigitChars_eq_foldl]
  refine List.foldl_ext _ _ _ fun total digit inside => ?_
  rw [digitValue?_of_isDigit (plain digit inside)]
  rfl

/-- A row of digits is no underscore, and ends with a digit. -/
theorem groupsDigits_plain {digits : List Char} (plain : ∀ digit ∈ digits, digit.isDigit = true)
    {afterDigit : Bool} (some' : afterDigit = true ∨ digits ≠ []) :
    groupsDigits afterDigit digits = true := by
  induction digits generalizing afterDigit with
  | nil => exact some'.resolve_right (fun nonempty => nonempty rfl)
  | cons digit digits ih =>
      obtain ⟨first, rest⟩ := List.forall_mem_cons.1 plain
      have different : digit ≠ '_' := by
        rintro rfl
        cases first
      rw [groupsDigits, if_neg different]
      exact ih rest (.inl rfl)

/-! ## Integers -/

/-- What is read after a sign. -/
theorem readInteger_of_takeSign {text : String} {negative : Bool} {digits : List Char}
    (taken : takeSign (text.toList.dropWhile isMargin) = (negative, digits)) (nonempty : digits ≠ [])
    (plain : ∀ digit ∈ digits, digit.isDigit = true) (short : digits.length ≤ digitLimit) :
    readInteger text =
      .ok (if negative then -(Nat.ofDigitChars 10 digits 0 : Int) else Nat.ofDigitChars 10 digits 0) := by
  have inRun : ∀ digit ∈ digits, (isDigit digit || decide (digit = '_')) = true :=
    fun digit inside => by rw [isDigit_of_plain (plain digit inside), Bool.true_or]
  have run : digits.takeWhile (fun c => isDigit c || c = '_') = digits := List.takeWhile_eq_self_iff.2 inRun
  have rest : digits.dropWhile (fun c => isDigit c || c = '_') = [] := List.dropWhile_eq_nil_iff.2 inRun
  have all : digits.filter isDigit = digits :=
    List.filter_eq_self.2 fun digit inside => isDigit_of_plain (plain digit inside)
  simp only [readInteger, taken, run, rest, all, groupsDigits_plain plain (.inr nonempty),
    digitsValue_plain plain]
  rw [if_neg (by simp), if_neg (by omega), if_neg (by simp)]

/-- **A row of ASCII digits is read as its value.** -/
theorem readInteger_plain {digits : List Char} (nonempty : digits ≠ [])
    (plain : ∀ digit ∈ digits, digit.isDigit = true) (short : digits.length ≤ digitLimit) :
    readInteger (String.ofList digits) = .ok (Nat.ofDigitChars 10 digits 0 : Int) := by
  have taken : takeSign ((String.ofList digits).toList.dropWhile isMargin) = (false, digits) := by
    cases digits with
    | nil => exact absurd rfl nonempty
    | cons digit digits =>
        have first := plain digit List.mem_cons_self
        have printed := not_isMargin_of_not_isBlank (not_isBlank_of_isDigit first)
        rw [String.toList_ofList, List.dropWhile_cons_of_neg (by simp [printed])]
        unfold takeSign
        split
        next same =>
          cases same
          exact absurd first (by decide)
        next same =>
          cases same
          exact absurd first (by decide)
        next => rfl
  exact readInteger_of_takeSign taken nonempty plain short

/-- **A minus sign in front is read as well.** -/
theorem readInteger_minus {digits : List Char} (nonempty : digits ≠ [])
    (plain : ∀ digit ∈ digits, digit.isDigit = true) (short : digits.length ≤ digitLimit) :
    readInteger (String.ofList ('-' :: digits)) = .ok (-(Nat.ofDigitChars 10 digits 0 : Int)) := by
  have printed : isMargin '-' = false := rfl
  have taken : takeSign ((String.ofList ('-' :: digits)).toList.dropWhile isMargin) =
      (true, digits) := by
    rw [String.toList_ofList, List.dropWhile_cons_of_neg (by simp [printed])]
    rfl
  exact readInteger_of_takeSign taken nonempty plain short

/-- The digits of a number that has not too many of them. -/
theorem length_toDigits_le {number : Nat} (short : number < 10 ^ digitLimit) :
    (Nat.toDigits 10 number).length ≤ digitLimit :=
  (Nat.length_toDigits_le_iff (by omega) (by decide)).2 short

theorem isDigit_toDigits (number : Nat) :
    ∀ digit ∈ Nat.toDigits 10 number, digit.isDigit = true := fun _ inside =>
  Nat.isDigit_of_mem_toDigits (by omega) (by omega) inside

/-- **An integer is read back from its printed form.** -/
theorem readInteger_toString {number : Int} (short : number.natAbs < 10 ^ digitLimit) :
    readInteger (toString number) = .ok number := by
  have plain := isDigit_toDigits number.natAbs
  have fits := length_toDigits_le short
  rw [Int.toString_eq_repr, Int.repr_eq_if]
  by_cases atLeast : 0 ≤ number
  · have same : number.toNat = number.natAbs := by omega
    rw [if_pos atLeast, same, Nat.repr_eq_ofList_toDigits,
      readInteger_plain Nat.toDigits_ne_nil plain fits, Nat.ofDigitChars_ten_toDigits]
    congr 1
    omega
  · have same : (-number).toNat = number.natAbs := by omega
    have minus : "-" ++ String.ofList (Nat.toDigits 10 number.natAbs) =
        String.ofList ('-' :: Nat.toDigits 10 number.natAbs) := by
      rw [← String.toList_inj]
      simp only [String.toList_append, String.toList_ofList]
      rfl
    rw [if_neg atLeast, same, Nat.repr_eq_ofList_toDigits, minus,
      readInteger_minus Nat.toDigits_ne_nil plain fits, Nat.ofDigitChars_ten_toDigits]
    congr 1
    omega

end ExactCover.Text
