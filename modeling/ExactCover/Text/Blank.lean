/-!
# Blank characters

Which characters are blank, and what follows from it: trimming a text and splitting it into words.
The class holds the separators of Unicode and the control characters that end a line, a page or a
record, so it is wider than the class of blanks that `Char.isWhitespace` knows.
-/

set_option autoImplicit false

namespace ExactCover.Text

/-- The code points of blank characters outside the range U+2000 to U+200A. -/
def blankCodePoints : List Nat :=
  [0x09, 0x0A, 0x0B, 0x0C, 0x0D, 0x1C, 0x1D, 0x1E, 0x1F, 0x20, 0x85, 0xA0, 0x1680, 0x2028, 0x2029,
    0x202F, 0x205F, 0x3000]

/-- Whether a character is blank. -/
def isBlank (character : Char) : Bool :=
  (0x2000 ≤ character.toNat && character.toNat ≤ 0x200A) ||
    blankCodePoints.contains character.toNat

/-- Drops the blanks in front and at the end. -/
def trim (characters : List Char) : List Char :=
  ((characters.dropWhile isBlank).reverse.dropWhile isBlank).reverse

/-- Reads words from left to right; `word` holds the word being read, last character first. -/
def wordsFrom (word : List Char) : List Char → List (List Char)
  | [] => if word.isEmpty then [] else [word.reverse]
  | character :: rest =>
      if isBlank character then
        if word.isEmpty then wordsFrom [] rest else word.reverse :: wordsFrom [] rest
      else wordsFrom (character :: word) rest

/-- The words of a text: its longest stretches without a blank. -/
def words (characters : List Char) : List (List Char) := wordsFrom [] characters

/-- Reads the parts between separators; `part` holds the part being read, last character first. -/
def splitFrom (separator : Char) (part : List Char) : List Char → List (List Char)
  | [] => [part.reverse]
  | character :: rest =>
      if character = separator then part.reverse :: splitFrom separator [] rest
      else splitFrom separator (character :: part) rest

/-- The parts of a text between separators, empty ones included; there is always at least one. -/
def split (separator : Char) (characters : List Char) : List (List Char) :=
  splitFrom separator [] characters

/-- **Trimming twice is trimming once.** -/
theorem trim_trim (characters : List Char) : trim (trim characters) = trim characters := by
  have front : ∀ items : List Char,
      (((items.dropWhile isBlank).reverse.dropWhile isBlank).reverse).dropWhile isBlank =
        ((items.dropWhile isBlank).reverse.dropWhile isBlank).reverse := by
    intro items
    generalize inner : items.dropWhile isBlank = rest
    cases rest with
    | nil => simp
    | cons first others =>
        have plain : isBlank first = false := by
          have := List.head?_dropWhile_not isBlank items
          simpa [inner] using this
        have kept : ∃ more, ((first :: others).reverse.dropWhile isBlank).reverse = first :: more := by
          rw [List.reverse_cons, List.dropWhile_append]
          split
          · exact ⟨[], by simp [plain]⟩
          · exact ⟨((others.reverse).dropWhile isBlank).reverse, by simp⟩
        obtain ⟨more, same⟩ := kept
        rw [same]
        simp [plain]
  have again : ∀ items : List Char,
      (items.dropWhile isBlank).dropWhile isBlank = items.dropWhile isBlank := by
    intro items
    induction items with
    | nil => rfl
    | cons first rest ih =>
        by_cases blank : isBlank first
        · simpa [blank] using ih
        · simp [blank]
  simp only [trim, front, List.reverse_reverse, again]

/-- **A word holds no blank.** -/
theorem not_isBlank_of_mem_wordsFrom {word characters : List Char}
    (plain : ∀ c ∈ word, isBlank c = false) :
    ∀ found ∈ wordsFrom word characters, ∀ c ∈ found, isBlank c = false := by
  induction characters generalizing word with
  | nil =>
      intro found member
      by_cases empty : word.isEmpty
      · simp [wordsFrom, empty] at member
      · simp only [wordsFrom, empty] at member
        simp only [Bool.false_eq_true, if_false, List.mem_singleton] at member
        subst member
        simpa using plain
  | cons character rest ih =>
      intro found member
      by_cases blank : isBlank character
      · by_cases empty : word.isEmpty
        · simp only [wordsFrom, blank, empty, if_true] at member
          exact ih (by simp) found member
        · simp only [wordsFrom, blank, empty] at member
          simp only [if_true, Bool.false_eq_true, if_false, List.mem_cons] at member
          rcases member with same | member
          · subst same
            simpa using plain
          · exact ih (by simp) found member
      · simp only [wordsFrom, blank] at member
        simp only [Bool.false_eq_true, if_false] at member
        refine ih ?_ found member
        intro c inside
        rcases List.mem_cons.1 inside with same | inside
        · subst same
          simpa using blank
        · exact plain c inside

end ExactCover.Text
