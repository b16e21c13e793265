import Mathlib.Data.List.Forall2
import ExactCover.Proofs.Text.Numerals
import ExactCover.Proofs.Text.Parts
import ExactCover.Queens.Square

/-!
# Texts of squares

A square is spelled with letters of either case, as in `R0F2`, or with a comma, as in `0, 2`
(`Bare`); blanks may stand around it (`Spells`). The reader accepts these spellings
(`digits?_of_bare`) and, among the texts of ASCII characters, no others (`bare_of_digits?`).

Texts are cut at their semicolons, and what is left without the blank parts (`tokens`) is read from left
to right. So it does not matter how squares are grouped into texts, and the first token that is no square
is the one that is named when reading fails.

Main statement: `squares_are_read_as_spelled`.
-/

set_option autoImplicit false

namespace ExactCover.Square

open Text (IsGap isBlank trim digitLimit)

/-! ## Spellings -/

/-- A row of ASCII digits. -/
def IsNumeral (digits : List Char) : Prop := digits ≠ [] ∧ ∀ digit ∈ digits, digit.isDigit = true

/-- A spelling without blanks around it, and the digits of its rank and its file. -/
inductive Bare : List Char → List Char → List Char → Prop
  /-- With letters of either case. -/
  | lettered {rank file : List Char} {first second : Char} (isRank : first = 'R' ∨ first = 'r')
      (isFile : second = 'F' ∨ second = 'f') (rankDigits : IsNumeral rank) (fileDigits : IsNumeral file) :
      Bare (first :: (rank ++ second :: file)) rank file
  /-- With a comma, around which blanks may stand. -/
  | separated {rank left right file : List Char} (isLeft : IsGap left) (isRight : IsGap right)
      (rankDigits : IsNumeral rank) (fileDigits : IsNumeral file) :
      Bare (rank ++ (left ++ ',' :: (right ++ file))) rank file

/-- Whether a text spells a square, by the digits of its rank and its file. -/
def Spells (text rank file : List Char) : Prop :=
  ∃ before bare after, IsGap before ∧ IsGap after ∧ text = before ++ bare ++ after ∧ Bare bare rank file

/-- Whether a text spells a square in numbers of at most `digitLimit` digits. -/
def Tells (text : List Char) (square : Square) : Prop :=
  ∃ rank file, Spells text rank file ∧ rank.length ≤ digitLimit ∧ file.length ≤ digitLimit ∧
    square = ((Nat.ofDigitChars 10 rank 0 : Int), (Nat.ofDigitChars 10 file 0 : Int))

section

variable {bare rank file : List Char}

theorem IsNumeral.exists_cons {digits : List Char} (isNumeral : IsNumeral digits) :
    ∃ digit rest, digits = digit :: rest ∧ digit.isDigit = true := by
  obtain ⟨nonempty, plain⟩ := isNumeral
  cases digits with
  | nil => exact absurd rfl nonempty
  | cons digit rest => exact ⟨digit, rest, rfl, plain digit List.mem_cons_self⟩

/-- A numeral has a last digit. -/
theorem IsNumeral.isDigit_getLast? {digits : List Char} (isNumeral : IsNumeral digits) :
    ∀ digit ∈ digits.getLast?, digit.isDigit = true := fun digit isLast =>
  isNumeral.2 digit (List.mem_of_getLast? isLast)

/-- A bare spelling begins with no blank. -/
theorem Bare.not_isBlank_head? (spelled : Bare bare rank file) :
    ∀ character ∈ bare.head?, isBlank character = false := by
  intro character isFirst
  cases spelled with
  | lettered isRank =>
      cases isFirst
      rcases isRank with rfl | rfl <;> rfl
  | separated _ _ rankDigits =>
      obtain ⟨digit, rest, rfl, plain⟩ := rankDigits.exists_cons
      cases isFirst
      exact Text.not_isBlank_of_isDigit plain

/-- A bare spelling ends with a digit. -/
theorem Bare.getLast?_eq (spelled : Bare bare rank file) : bare.getLast? = file.getLast? := by
  cases spelled with
  | lettered _ _ _ fileDigits =>
      obtain ⟨digit, rest, rfl, -⟩ := fileDigits.exists_cons
      simp [List.getLast?_cons, List.getLast?_append]
  | separated _ _ _ fileDigits =>
      obtain ⟨digit, rest, rfl, -⟩ := fileDigits.exists_cons
      simp [List.getLast?_cons, List.getLast?_append]

theorem Bare.ne_nil (spelled : Bare bare rank file) : bare ≠ [] := by
  cases spelled <;> simp

theorem Bare.fileDigits (spelled : Bare bare rank file) : IsNumeral file := by
  cases spelled <;> assumption

theorem Bare.rankDigits (spelled : Bare bare rank file) : IsNumeral rank := by
  cases spelled <;> assumption

end

/-! ## Reading digits -/

/-- A row of digits is taken off as far as it reaches. -/
theorem takeDigits_append {digits rest : List Char} (plain : ∀ digit ∈ digits, digit.isDigit = true)
    (stops : ∀ character ∈ rest.head?, Text.isDigit character = false) :
    takeDigits (digits ++ rest) = (digits, rest) := by
  have inside : ∀ digit ∈ digits, Text.isDigit digit = true := fun digit isDigit =>
    Text.isDigit_of_plain (plain digit isDigit)
  have none' : rest.takeWhile Text.isDigit = [] := by
    cases rest with
    | nil => rfl
    | cons character rest => exact List.takeWhile_cons_of_neg (by simp [stops character rfl])
  rw [takeDigits, List.takeWhile_append_of_pos inside, List.dropWhile_append_of_pos inside, none',
    List.append_nil, Text.dropWhile_eq_self stops]

theorem takeDigits_numeral {digits : List Char} (isNumeral : IsNumeral digits) :
    takeDigits digits = (digits, []) := by
  have taken : takeDigits (digits ++ []) = (digits, []) := takeDigits_append isNumeral.2 (by simp)
  rwa [List.append_nil] at taken

/-- What is taken off are digits, and the text is what is taken off with the rest behind it. -/
theorem of_takeDigits {characters digits rest : List Char} (taken : takeDigits characters = (digits, rest)) :
    characters = digits ++ rest ∧ ∀ digit ∈ digits, Text.isDigit digit = true := by
  cases taken
  exact ⟨List.takeWhile_append_dropWhile.symm, fun digit inside => List.mem_takeWhile_imp inside⟩

section

variable {rank file : List Char} (rankDigits : IsNumeral rank) (fileDigits : IsNumeral file)
include rankDigits fileDigits

theorem lettered?_append {second : Char} (isFile : second = 'F' ∨ second = 'f') :
    lettered? (rank ++ second :: file) = some (rank, file) := by
  have stops : ∀ character ∈ (second :: file).head?, Text.isDigit character = false := by
    intro character isFirst
    cases isFirst
    rcases isFile with rfl | rfl <;> rfl
  simp only [lettered?, takeDigits_append rankDigits.2 stops, takeDigits_numeral fileDigits]
  rw [if_pos]
  simp [isFile, rankDigits.1, fileDigits.1]

theorem separated?_append {left right : List Char} (isLeft : IsGap left) (isRight : IsGap right) :
    separated? (rank ++ (left ++ ',' :: (right ++ file))) = some (rank, file) := by
  have stops : ∀ character ∈ (left ++ ',' :: (right ++ file)).head?, Text.isDigit character = false := by
    intro character isFirst
    cases left with
    | nil =>
        cases isFirst
        rfl
    | cons first left =>
        cases isFirst
        exact Text.not_isDigit_of_isBlank (isLeft character List.mem_cons_self)
  have toComma : (left ++ ',' :: (right ++ file)).dropWhile isBlank = ',' :: (right ++ file) := by
    rw [List.dropWhile_append_of_pos isLeft]
    rfl
  have toFile : (right ++ file).dropWhile isBlank = file := by
    rw [List.dropWhile_append_of_pos isRight]
    obtain ⟨digit, rest, rfl, plain⟩ := fileDigits.exists_cons
    exact List.dropWhile_cons_of_neg (by simp [Text.not_isBlank_of_isDigit plain])
  simp only [separated?, takeDigits_append rankDigits.2 stops, toComma, toFile,
    takeDigits_numeral fileDigits]
  rw [if_pos]
  simp [rankDigits.1, fileDigits.1]

end

/-- **A bare spelling is accepted.** -/
theorem digits?_of_bare {bare rank file : List Char} (spelled : Bare bare rank file) :
    digits? bare = some (rank, file) := by
  cases spelled with
  | lettered isRank isFile rankDigits fileDigits =>
      rcases isRank with rfl | rfl
      · exact lettered?_append rankDigits fileDigits isFile
      · exact lettered?_append rankDigits fileDigits isFile
  | separated isLeft isRight rankDigits fileDigits =>
      obtain ⟨digit, rest, rfl, plain⟩ := rankDigits.exists_cons
      rw [← separated?_append rankDigits fileDigits isLeft isRight]
      unfold digits?
      split
      next same =>
        cases same
        cases plain
      next same =>
        cases same
        cases plain
      next => rfl

/-- What is accepted after the first letter. -/
theorem of_lettered? {characters rank file : List Char}
    (accepted : lettered? characters = some (rank, file)) :
    ∃ second, (second = 'F' ∨ second = 'f') ∧ characters = rank ++ second :: file ∧
      (rank ≠ [] ∧ ∀ digit ∈ rank, Text.isDigit digit = true) ∧
      file ≠ [] ∧ ∀ digit ∈ file, Text.isDigit digit = true := by
  cases taken : takeDigits characters with
  | mk front rest =>
      obtain ⟨rfl, frontDigits⟩ := of_takeDigits taken
      simp only [lettered?, taken] at accepted
      cases rest with
      | nil => cases accepted
      | cons second rest =>
          cases takenAgain : takeDigits rest with
          | mk back left =>
              obtain ⟨rfl, backDigits⟩ := of_takeDigits takenAgain
              simp only [takenAgain, Option.ite_none_right_eq_some, Bool.and_eq_true, Bool.or_eq_true,
                decide_eq_true_eq, Bool.not_eq_true', List.isEmpty_eq_false_iff,
                List.isEmpty_iff] at accepted
              obtain ⟨⟨⟨⟨isFile, someRank⟩, someFile⟩, rfl⟩, same⟩ := accepted
              cases same
              exact ⟨second, isFile, by rw [List.append_nil], ⟨someRank, frontDigits⟩, someFile,
                backDigits⟩

theorem of_separated? {characters rank file : List Char}
    (accepted : separated? characters = some (rank, file)) :
    ∃ left right, IsGap left ∧ IsGap right ∧
      characters = rank ++ (left ++ ',' :: (right ++ file)) ∧
      (rank ≠ [] ∧ ∀ digit ∈ rank, Text.isDigit digit = true) ∧
      file ≠ [] ∧ ∀ digit ∈ file, Text.isDigit digit = true := by
  cases taken : takeDigits characters with
  | mk front rest =>
      obtain ⟨rfl, frontDigits⟩ := of_takeDigits taken
      simp only [separated?, taken] at accepted
      split at accepted
      next behind isComma =>
        cases takenAgain : takeDigits (behind.dropWhile isBlank) with
        | mk back left =>
            obtain ⟨toFile, backDigits⟩ := of_takeDigits takenAgain
            simp only [takenAgain, Option.ite_none_right_eq_some, Bool.and_eq_true,
              Bool.not_eq_true', List.isEmpty_eq_false_iff, List.isEmpty_iff] at accepted
            obtain ⟨⟨⟨someRank, someFile⟩, rfl⟩, same⟩ := accepted
            cases same
            rw [List.append_nil] at toFile
            refine ⟨rest.takeWhile isBlank, behind.takeWhile isBlank,
              fun c inside => List.mem_takeWhile_imp inside, fun c inside => List.mem_takeWhile_imp inside,
              ?_, ⟨someRank, frontDigits⟩, someFile, backDigits⟩
            rw [← toFile, List.takeWhile_append_dropWhile, ← isComma, List.takeWhile_append_dropWhile]
      next => cases accepted

/-- Among the ASCII characters a digit is one of the ten plain ones. -/
theorem isNumeral_of_ascii {digits : List Char} (ascii : ∀ character ∈ digits, character.toNat < 128)
    (isRow : digits ≠ [] ∧ ∀ digit ∈ digits, Text.isDigit digit = true) : IsNumeral digits :=
  ⟨isRow.1, fun digit inside => by
    rw [← Text.isDigit_ascii (ascii digit inside)]
    exact isRow.2 digit inside⟩

/-- **Nothing but bare spellings is accepted**, among the texts of ASCII characters. -/
theorem bare_of_digits? {bare rank file : List Char} (ascii : ∀ character ∈ bare, character.toNat < 128)
    (accepted : digits? bare = some (rank, file)) : Bare bare rank file := by
  have letters : ∀ {first : Char} {rest : List Char}, first = 'R' ∨ first = 'r' →
      (∀ character ∈ first :: rest, character.toNat < 128) → lettered? rest = some (rank, file) →
      Bare (first :: rest) rank file := by
    intro first rest isRank ascii accepted
    obtain ⟨second, isFile, rfl, rankRow, fileRow⟩ := of_lettered? accepted
    refine .lettered isRank isFile (isNumeral_of_ascii (fun c inside => ?_) rankRow)
      (isNumeral_of_ascii (fun c inside => ?_) fileRow)
    · exact ascii c (by simp [inside])
    · exact ascii c (by simp [inside])
  unfold digits? at accepted
  split at accepted
  next rest => exact letters (.inl rfl) ascii accepted
  next rest => exact letters (.inr rfl) ascii accepted
  next =>
    obtain ⟨left, right, isLeft, isRight, rfl, rankRow, fileRow⟩ := of_separated? accepted
    refine .separated isLeft isRight (isNumeral_of_ascii (fun c inside => ?_) rankRow)
      (isNumeral_of_ascii (fun c inside => ?_) fileRow)
    · exact ascii c (by simp [inside])
    · exact ascii c (by simp [inside])

/-! ## Reading a square -/

/-- Trimming leaves the bare spelling. -/
theorem Spells.trim {text rank file : List Char} (spelled : Spells text rank file) :
    Bare (trim text) rank file := by
  obtain ⟨before, bare, after, isBefore, isAfter, rfl, isBare⟩ := spelled
  have last : ∀ character ∈ bare.getLast?, isBlank character = false := by
    rw [isBare.getLast?_eq]
    exact fun character isLast =>
      Text.not_isBlank_of_isDigit (isBare.fileDigits.isDigit_getLast? character isLast)
  rwa [Text.trim_of_bare isBefore isAfter isBare.not_isBlank_head? last isBare.ne_nil]

/-- A spelling is not blank. -/
theorem Spells.not_blank {text rank file : List Char} (spelled : Spells text rank file) :
    text.all isBlank = false := by
  obtain ⟨before, bare, after, -, -, rfl, isBare⟩ := spelled
  obtain ⟨digit, rest, rfl, plain⟩ := isBare.fileDigits.exists_cons
  have inside : digit ∈ bare := by cases isBare <;> simp
  rw [List.all_eq_false]
  exact ⟨digit, by simp [inside], by simp [Text.not_isBlank_of_isDigit plain]⟩

/-- No spelling holds a semicolon. -/
theorem Spells.notMem_semicolon {text rank file : List Char} (spelled : Spells text rank file) :
    ';' ∉ text := by
  have noGap : ∀ {characters : List Char}, IsGap characters → ';' ∉ characters := fun isGap inside =>
    absurd (isGap ';' inside) (by decide)
  have noNumeral : ∀ {digits : List Char}, IsNumeral digits → ';' ∉ digits := fun isNumeral inside =>
    absurd (isNumeral.2 ';' inside) (by decide)
  obtain ⟨before, bare, after, isBefore, isAfter, rfl, isBare⟩ := spelled
  have noBare : ';' ∉ bare := by
    cases isBare with
    | lettered isRank isFile rankDigits fileDigits =>
        rcases isRank with rfl | rfl <;> rcases isFile with rfl | rfl <;>
          simp [noNumeral rankDigits, noNumeral fileDigits]
    | separated isLeft isRight rankDigits fileDigits =>
        simp [noNumeral rankDigits, noNumeral fileDigits, noGap isLeft, noGap isRight]
  simp [noGap isBefore, noGap isAfter, noBare]

/-- **What spells a square is read as the square.** -/
theorem readSquare_of_tells {text : List Char} {square : Square} (tells : Tells text square) :
    readSquare text = .ok square := by
  obtain ⟨rank, file, spelled, shortRank, shortFile, rfl⟩ := tells
  have isBare := spelled.trim
  simp only [readSquare, digits?_of_bare isBare,
    Text.readInteger_plain isBare.rankDigits.1 isBare.rankDigits.2 shortRank,
    Text.readInteger_plain isBare.fileDigits.1 isBare.fileDigits.2 shortFile]
  rfl

/-- **What spells none is refused**, and named without the blanks around it. -/
theorem readSquare_of_not_spells {text : List Char} (ascii : ∀ character ∈ text, character.toNat < 128)
    (unspelled : ∀ rank file, ¬ Spells text rank file) :
    readSquare text = .error (.unreadable (String.ofList (trim text))) := by
  obtain ⟨before, after, isBefore, isAfter, same⟩ := Text.exists_trim text
  have refused : digits? (trim text) = none := by
    cases accepted : digits? (trim text) with
    | none => rfl
    | some digits =>
        obtain ⟨rank, file⟩ := digits
        have inside : ∀ character ∈ trim text, character.toNat < 128 := fun character isInside =>
          ascii character (by rw [same]; simp [isInside])
        exact absurd ⟨before, trim text, after, isBefore, isAfter, same, bare_of_digits? inside accepted⟩
          (unspelled rank file)
  simp only [readSquare, refused]
  rfl

/-! ## Tokens -/

/-- What stands between the semicolons of some texts and is not blank, from left to right. -/
def tokens (texts : List String) : List (List Char) :=
  (texts.flatMap fun text => text.toList.splitOn ';').filter fun part => !part.all isBlank

theorem flatMap_parts (texts : List String) : texts.flatMap parts = tokens texts := by
  have same : parts = fun text => (text.toList.splitOn ';').filter fun part => !part.all isBlank :=
    funext fun text => by rw [parts, Text.split_eq_splitOn]
  rw [tokens, List.filter_flatMap, same]

/-- Reading parts of parts is reading all of them. -/
theorem mapM_flatMap {ε α β γ : Type} (parts : α → List β) (read : β → Except ε γ) (items : List α) :
    (items.mapM fun item => (parts item).mapM read).map List.flatten =
      (items.flatMap parts).mapM read := by
  induction items with
  | nil => rfl
  | cons item items ih =>
      rw [List.flatMap_cons, List.mapM_append, ← ih, List.mapM_cons]
      cases (parts item).mapM read with
      | error problem => rfl
      | ok found =>
          cases items.mapM fun item => (parts item).mapM read with
          | error problem => rfl
          | ok others => rfl

/-- **The tokens are read**, from left to right. -/
theorem readSquares_texts (texts : List String) :
    readSquares (.list (texts.map .text)) =
      ((tokens texts).mapM readSquare).map fun squares =>
        if squares.isEmpty then none else some squares := by
  rw [← flatMap_parts, ← mapM_flatMap]
  cases texts with
  | nil => rfl
  | cons text texts =>
      have each : ((text :: texts).map Value.text).mapM readText =
          (text :: texts).mapM fun text => (parts text).mapM readSquare := List.mapM_map ..
      rw [readSquares, if_neg (by simp [Value.isTrue])]
      simp only [Value.items, Except.mapError, bind, Except.bind, each]
      cases (text :: texts).mapM fun text => (parts text).mapM readSquare with
      | error problem => rfl
      | ok found => rfl

/-- **Joining texts does not change their tokens.** -/
theorem tokens_join (texts : List String) : tokens [";".intercalate texts] = tokens texts := by
  cases texts with
  | nil => rfl
  | cons text texts =>
      have joined : (";".intercalate (text :: texts)).toList.splitOn ';' =
          (text :: texts).flatMap fun text => text.toList.splitOn ';' := by
        rw [String.toList_intercalate, show ";".toList = [';'] from rfl, Text.splitOn_join (by simp),
          List.flatMap_map]
      rw [tokens, List.flatMap_singleton, joined, tokens]

/-- The characters of a token are characters of a text. -/
theorem exists_mem_of_mem_tokens {texts : List String} {token : List Char} (isToken : token ∈ tokens texts)
    {character : Char} (inside : character ∈ token) : ∃ text ∈ texts, character ∈ text.toList := by
  obtain ⟨text, isText, isPart⟩ := List.mem_flatMap.1 (List.mem_filter.1 isToken).1
  exact ⟨text, isText, Text.mem_of_mem_splitOn isPart inside⟩

theorem tokens_cons (text : String) (texts : List String) :
    tokens (text :: texts) = tokens [text] ++ tokens texts := by
  rw [tokens, tokens, tokens, List.flatMap_cons, List.flatMap_singleton, List.filter_append]

/-- **It does not matter how texts are grouped.** -/
theorem tokens_grouped (groups : List (List String)) :
    tokens (groups.map fun group => ";".intercalate group) = tokens groups.flatten := by
  have append : ∀ texts others, tokens (texts ++ others) = tokens texts ++ tokens others := fun texts
      others => by rw [tokens, tokens, tokens, List.flatMap_append, List.filter_append]
  induction groups with
  | nil => rfl
  | cons group groups ih =>
      rw [List.map_cons, tokens_cons, tokens_join, ih, List.flatten_cons, append]

/-- Spellings are tokens. -/
theorem tokens_spelled {texts : List String}
    (spelled : ∀ text ∈ texts, ∃ rank file, Spells text.toList rank file) :
    tokens texts = texts.map String.toList := by
  induction texts with
  | nil => rfl
  | cons text texts ih =>
      obtain ⟨⟨rank, file, first⟩, rest⟩ := List.forall_mem_cons.1 spelled
      have whole : text.toList.splitOn ';' = [text.toList] :=
        List.splitOn_eq_singleton first.notMem_semicolon
      rw [tokens_cons, ih rest, tokens, List.flatMap_singleton, whole, List.filter_singleton,
        first.not_blank]
      rfl

/-! ## Reading texts -/

/-- Tokens that spell squares are read as these. -/
theorem mapM_readSquare_of_tells {tokens : List (List Char)} {squares : List Square}
    (tells : List.Forall₂ Tells tokens squares) : tokens.mapM readSquare = .ok squares := by
  induction tells with
  | nil => rfl
  | cons tells _ ih =>
      rw [List.mapM_cons, readSquare_of_tells tells, ih]
      rfl

theorem readSquares_of_tells {texts : List String} {squares : List Square}
    (tells : List.Forall₂ Tells (tokens texts) squares) :
    readSquares (.list (texts.map .text)) = .ok (if squares.isEmpty then none else some squares) := by
  rw [readSquares_texts, mapM_readSquare_of_tells tells]
  rfl

/-- The first token that spells no square is named. -/
theorem readSquares_of_not_spells {texts : List String} {front back : List (List Char)} {bad : List Char}
    {squares : List Square} (isCut : tokens texts = front ++ bad :: back)
    (tells : List.Forall₂ Tells front squares) (ascii : ∀ character ∈ bad, character.toNat < 128)
    (unspelled : ∀ rank file, ¬ Spells bad rank file) :
    readSquares (.list (texts.map .text)) = .error (.unreadable (String.ofList (trim bad))) := by
  rw [readSquares_texts, isCut, List.mapM_append, mapM_readSquare_of_tells tells, List.mapM_cons,
    readSquare_of_not_spells ascii unspelled]
  rfl

/-- The printed forms of whole numbers spell a square, with letters and with a comma. -/
theorem tells_printed {rank file : Nat} (shortRank : rank < 10 ^ digitLimit)
    (shortFile : file < 10 ^ digitLimit) :
    Tells ("R" ++ toString rank ++ "F" ++ toString file).toList (rank, file) ∧
      Tells (toString rank ++ "," ++ toString file).toList (rank, file) := by
  have isNumeral : ∀ number : Nat, IsNumeral (Nat.toDigits 10 number) := fun number =>
    ⟨Nat.toDigits_ne_nil, Text.isDigit_toDigits number⟩
  have noGap : IsGap [] := by simp [IsGap]
  have value : ((rank : Int), (file : Int)) = ((Nat.ofDigitChars 10 (Nat.toDigits 10 rank) 0 : Int),
      (Nat.ofDigitChars 10 (Nat.toDigits 10 file) 0 : Int)) := by
    rw [Nat.ofDigitChars_ten_toDigits, Nat.ofDigitChars_ten_toDigits]
  have fromBare : ∀ {text : String}, Bare text.toList (Nat.toDigits 10 rank) (Nat.toDigits 10 file) →
      Tells text.toList (rank, file) := fun {text} isBare =>
    ⟨_, _, ⟨[], text.toList, [], noGap, noGap, by simp, isBare⟩, Text.length_toDigits_le shortRank,
      Text.length_toDigits_le shortFile, value⟩
  constructor
  · refine fromBare ?_
    have isText : ("R" ++ toString rank ++ "F" ++ toString file).toList =
        'R' :: (Nat.toDigits 10 rank ++ 'F' :: Nat.toDigits 10 file) := by
      simp [String.toList_append]
    rw [isText]
    exact .lettered (.inl rfl) (.inl rfl) (isNumeral rank) (isNumeral file)
  · refine fromBare ?_
    have isText : (toString rank ++ "," ++ toString file).toList =
        Nat.toDigits 10 rank ++ ([] ++ ',' :: ([] ++ Nat.toDigits 10 file)) := by
      simp [String.toList_append]
    rw [isText]
    exact .separated noGap noGap (isNumeral rank) (isNumeral file)

/-- **Spelled squares are read**, however they are grouped into texts. -/
theorem readSquares_grouped {groups : List (List (String × Square))}
    (tells : ∀ group ∈ groups, ∀ entry ∈ group, Tells entry.1.toList entry.2) :
    readSquares (.list (groups.map fun group => .text (";".intercalate (group.map Prod.fst)))) =
      .ok (if groups.flatten.isEmpty then none else some (groups.flatten.map Prod.snd)) := by
  let texts := (groups.map (List.map Prod.fst)).map fun group => ";".intercalate group
  have each : ∀ entry ∈ groups.flatten, Tells entry.1.toList entry.2 := fun entry inside => by
    obtain ⟨group, isGroup, isEntry⟩ := List.mem_flatten.1 inside
    exact tells group isGroup entry isEntry
  have areTokens : tokens texts = (groups.flatten.map Prod.fst).map String.toList := by
    rw [tokens_grouped, ← List.map_flatten]
    refine tokens_spelled fun text isText => ?_
    obtain ⟨entry, inside, rfl⟩ := List.mem_map.1 isText
    obtain ⟨rank, file, spelled, -⟩ := each entry inside
    exact ⟨rank, file, spelled⟩
  have told : List.Forall₂ Tells (tokens texts) (groups.flatten.map Prod.snd) := by
    rw [areTokens, List.map_map, List.forall₂_map_left_iff, List.forall₂_map_right_iff,
      List.forall₂_same]
    exact each
  have read := readSquares_of_tells told
  rwa [List.map_map, List.map_map, List.isEmpty_map] at read

/-- **Squares are read as they are spelled**, whichever texts they are grouped into. Nothing is found if
there is no token. If a token spells no square, the first one is named, without the blanks around it.
Otherwise the squares are found in the order of their tokens. -/
theorem squares_are_read_as_spelled (texts : List String)
    (ascii : ∀ text ∈ texts, ∀ character ∈ text.toList, character.toNat < 128) :
    (tokens texts = [] → readSquares (.list (texts.map .text)) = .ok none) ∧
    (∀ front bad back squares, tokens texts = front ++ bad :: back → List.Forall₂ Tells front squares →
      (∀ rank file, ¬ Spells bad rank file) →
      readSquares (.list (texts.map .text)) = .error (.unreadable (String.ofList (trim bad)))) ∧
    (∀ squares, tokens texts ≠ [] → List.Forall₂ Tells (tokens texts) squares →
      readSquares (.list (texts.map .text)) = .ok (some squares)) ∧
    readSquares (.list [.text (";".intercalate texts)]) = readSquares (.list (texts.map .text)) ∧
    (∀ groups : List (List (String × Square)),
      (∀ group ∈ groups, ∀ entry ∈ group, Tells entry.1.toList entry.2) →
      readSquares (.list (groups.map fun group => .text (";".intercalate (group.map Prod.fst)))) =
        .ok (if groups.flatten.isEmpty then none else some (groups.flatten.map Prod.snd))) ∧
    (∀ rank file : Nat, rank < 10 ^ digitLimit → file < 10 ^ digitLimit →
      Tells ("R" ++ toString rank ++ "F" ++ toString file).toList (rank, file) ∧
      Tells (toString rank ++ "," ++ toString file).toList (rank, file)) := by
  refine ⟨fun none' => ?_, ?_, ?_, ?_, fun _ => readSquares_grouped, fun _ _ => tells_printed⟩
  · rw [readSquares_texts, none']
    rfl
  · intro front bad back squares isCut tells unspelled
    have inside : bad ∈ tokens texts := by simp [isCut]
    refine readSquares_of_not_spells isCut tells (fun character isInside => ?_) unspelled
    obtain ⟨text, isText, isCharacter⟩ := exists_mem_of_mem_tokens inside isInside
    exact ascii text isText character isCharacter
  · intro squares some' tells
    have nonempty : squares ≠ [] := by
      rintro rfl
      exact some' (List.forall₂_nil_right_iff.1 tells)
    rw [readSquares_of_tells tells, if_neg (by simpa using nonempty)]
  · have joined := readSquares_texts [";".intercalate texts]
    rw [tokens_join, ← readSquares_texts] at joined
    exact joined

/-- Two texts that are read, and one that is not. -/
theorem squares_are_read_as_spelled_small :
    readSquares (.list (["r0f2; 3 ,3 ", " "].map .text)) = .ok (some [(0, 2), (3, 3)]) ∧
      readSquares (.list (["r0f2; no ;1"].map .text)) = .error (.unreadable "no") := by
  have isNumeral : ∀ digit : Char, digit.isDigit = true → IsNumeral [digit] := fun digit plain =>
    ⟨List.cons_ne_nil _ _, List.forall_mem_singleton.2 plain⟩
  have noGap : IsGap [] := by simp [IsGap]
  have gap : IsGap [' '] := List.forall_mem_singleton.2 rfl
  have first : Tells ['r', '0', 'f', '2'] (0, 2) :=
    ⟨['0'], ['2'], ⟨[], _, [], noGap, noGap, rfl,
      .lettered (.inr rfl) (.inr rfl) (isNumeral '0' rfl) (isNumeral '2' rfl)⟩, by decide, by decide, rfl⟩
  have second : Tells [' ', '3', ' ', ',', '3', ' '] (3, 3) :=
    ⟨['3'], ['3'], ⟨[' '], _, [' '], gap, gap, rfl,
      .separated gap noGap (isNumeral '3' rfl) (isNumeral '3' rfl)⟩, by decide, by decide, rfl⟩
  have tokensRead : tokens ["r0f2; 3 ,3 ", " "] =
      [['r', '0', 'f', '2'], [' ', '3', ' ', ',', '3', ' ']] := by cbv
  have tokensRefused : tokens ["r0f2; no ;1"] =
      [['r', '0', 'f', '2']] ++ [' ', 'n', 'o', ' '] :: [['1']] := by cbv
  have unspelled : ∀ rank file, ¬ Spells [' ', 'n', 'o', ' '] rank file := fun rank file spelled => by
    cases digits?_of_bare spelled.trim
  have tells : List.Forall₂ Tells (tokens ["r0f2; 3 ,3 ", " "]) [(0, 2), (3, 3)] := by
    rw [tokensRead]
    exact .cons first (.cons second .nil)
  exact ⟨(squares_are_read_as_spelled ["r0f2; 3 ,3 ", " "] (by simp)).2.2.1 _ (by simp [tokensRead]) tells,
    (squares_are_read_as_spelled ["r0f2; no ;1"] (by simp)).2.1 _ _ _ _ tokensRefused
      (.cons first .nil) unspelled⟩

end ExactCover.Square
