import Mathlib.Data.List.Basic
import Mathlib.Data.List.TakeWhile
import ExactCover.Text.Blank

/-!
# Parts of texts

Splitting at a separator is the splitting of lists (`split_eq_splitOn`). So the parts of texts that were
joined are the parts of each of them, one after the other (`splitOn_join`), whatever separators the texts
hold themselves.

Trimming takes blanks off both ends, and nothing else (`exists_trim`, `trim_of_bare`).
-/

set_option autoImplicit false

namespace ExactCover.Text

/-! ## Splitting -/

section

variable (separator : Char)

theorem splitFrom_eq (part characters : List Char) :
    splitFrom separator part characters = characters.splitOnPPrepend (· == separator) part := by
  induction characters generalizing part with
  | nil => rw [splitFrom, List.splitOnPPrepend_nil]
  | cons character rest ih =>
      rw [splitFrom, List.splitOnPPrepend_cons_eq_if, ih, ih]
      by_cases same : character = separator
      · rw [if_pos same, if_pos (beq_iff_eq.2 same)]
        rfl
      · rw [if_neg same, if_neg fun equal => same (beq_iff_eq.1 equal)]

/-- **Splitting is the splitting of lists.** -/
theorem split_eq_splitOn (characters : List Char) :
    split separator characters = characters.splitOn separator :=
  splitFrom_eq separator [] characters

variable {separator}

/-- **The parts of joined texts** are those of each text, one after the other. -/
theorem splitOn_join {texts : List (List Char)} (nonempty : texts ≠ []) :
    ([separator].intercalate texts).splitOn separator = texts.flatMap fun text => text.splitOn separator := by
  induction texts with
  | nil => exact absurd rfl nonempty
  | cons text rest ih =>
      cases rest with
      | nil => simp
      | cons next rest =>
          rw [List.intercalate_cons_cons, List.append_assoc, List.singleton_append,
            List.splitOn_append_cons_self, ih (List.cons_ne_nil _ _), ← List.flatMap_cons]

/-- The characters of joined texts are among those of the whole. -/
theorem mem_join {texts : List (List Char)} {text : List Char} (isText : text ∈ texts) {character : Char}
    (inside : character ∈ text) : character ∈ [separator].intercalate texts := by
  induction texts with
  | nil => cases isText
  | cons first rest ih =>
      cases rest with
      | nil =>
          rw [List.intercalate_singleton, ← List.mem_singleton.1 isText]
          exact inside
      | cons next rest =>
          rw [List.intercalate_cons_cons, List.append_assoc, List.mem_append]
          rcases List.mem_cons.1 isText with rfl | isLater
          · exact .inl inside
          · exact .inr (List.mem_append_right _ (ih isLater))

/-- The characters of a part are characters of the text. -/
theorem mem_of_mem_splitOn {characters part : List Char} (isPart : part ∈ characters.splitOn separator)
    {character : Char} (inside : character ∈ part) : character ∈ characters := by
  have joined : character ∈ [separator].intercalate (characters.splitOn separator) :=
    mem_join isPart inside
  rwa [List.intercalate_splitOn] at joined

end

/-! ## Trimming -/

/-- Whether there are only blanks. -/
def IsGap (characters : List Char) : Prop := ∀ character ∈ characters, isBlank character = true

/-- What begins with another character is not dropped. -/
theorem dropWhile_eq_self {α : Type} {drops : α → Bool} {items : List α}
    (stops : ∀ item ∈ items.head?, drops item = false) : items.dropWhile drops = items := by
  cases items with
  | nil => rfl
  | cons item rest => exact List.dropWhile_cons_of_neg (by simp [stops item rfl])

/-- **Blanks around a text are taken off**, if the text begins and ends with something else. -/
theorem trim_of_bare {before bare after : List Char} (isBefore : IsGap before) (isAfter : IsGap after)
    (first : ∀ character ∈ bare.head?, isBlank character = false)
    (last : ∀ character ∈ bare.getLast?, isBlank character = false) (nonempty : bare ≠ []) :
    trim (before ++ bare ++ after) = bare := by
  have front : ∀ character ∈ (bare ++ after).head?, isBlank character = false := by
    intro character isFirst
    rw [List.head?_append_of_ne_nil _ nonempty] at isFirst
    exact first character isFirst
  have back : ∀ character ∈ bare.reverse.head?, isBlank character = false := by
    rw [List.head?_reverse]
    exact last
  have behind : ∀ character ∈ after.reverse, isBlank character = true := fun character inside =>
    isAfter character (List.mem_reverse.1 inside)
  rw [trim, List.append_assoc, List.dropWhile_append_of_pos isBefore, dropWhile_eq_self front,
    List.reverse_append, List.dropWhile_append_of_pos behind, dropWhile_eq_self back,
    List.reverse_reverse]

/-- **Nothing but blanks is taken off.** -/
theorem exists_trim (characters : List Char) : ∃ before after, IsGap before ∧ IsGap after ∧
    characters = before ++ trim characters ++ after := by
  let inner := characters.dropWhile isBlank
  refine ⟨characters.takeWhile isBlank, (inner.reverse.takeWhile isBlank).reverse,
    fun character inside => List.mem_takeWhile_imp inside,
    fun character inside => List.mem_takeWhile_imp (List.mem_reverse.1 inside), ?_⟩
  rw [trim, List.append_assoc, ← List.reverse_append, List.takeWhile_append_dropWhile,
    List.reverse_reverse, List.takeWhile_append_dropWhile]

end ExactCover.Text
