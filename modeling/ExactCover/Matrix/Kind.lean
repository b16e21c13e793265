import ExactCover.Matrix.Grid

/-!
# Kinds of entries

The entries of a grid have one kind in common, which decides how they are added. A flag gives way to
any number, and an integer to a double; an integer beyond 64 bits, and anything that is neither a
number nor a text, makes all entries plain values. Beside a text, a number becomes a text that is wide
enough for any number of its kind.

Main statement: `join_self` (entries of one kind have that kind in common).
-/

set_option autoImplicit false

namespace ExactCover

/-- The kind of the entries of a grid. -/
inductive EntryKind where
  | flag
  /-- Integers of 64 bits with a sign. -/
  | signed
  /-- Integers of 64 bits without a sign. -/
  | unsigned
  | double
  /-- Texts of at most some number of characters. -/
  | text (width : Nat)
  /-- Values of any kind. -/
  | plain
deriving DecidableEq

namespace EntryKind

/-- The number of words of 64 bits. -/
def wordCount : Int := 18446744073709551616

/-- The kind of an entry on its own. -/
def ofValue : Value → EntryKind
  | .bool _ => .flag
  | .int number =>
      if -Grid.wordBound ≤ number ∧ number < Grid.wordBound then .signed
      else if Grid.wordBound ≤ number ∧ number < wordCount then .unsigned
      else .plain
  | .float _ => .double
  | .text characters => .text characters.length
  | _ => .plain

/-- The number of characters that every value of a kind fits into. -/
def textWidth : EntryKind → Nat
  | .flag => 5
  | .signed => 21
  | .unsigned => 20
  | .double => 32
  | .text width => width
  | .plain => 0

/-- The kind that two kinds have in common. -/
def join : EntryKind → EntryKind → EntryKind
  | .plain, _ => .plain
  | _, .plain => .plain
  | .text left, right => .text (max left right.textWidth)
  | left, .text right => .text (max left.textWidth right)
  | .double, _ => .double
  | _, .double => .double
  | .flag, right => right
  | left, .flag => left
  | .signed, .signed => .signed
  | .unsigned, .unsigned => .unsigned
  | _, _ => .double

/-- **Entries of one kind have that kind in common.** -/
@[simp] theorem join_self (kind : EntryKind) : join kind kind = kind := by
  cases kind <;> simp [join, textWidth]

end EntryKind

/-- The kind that all entries of a grid have in common; a grid without entries holds doubles. -/
def Grid.kind (grid : Grid) : EntryKind :=
  match grid.entries with
  | [] => .double
  | first :: rest =>
      rest.foldl (fun kind entry => kind.join (.ofValue entry)) (.ofValue first)

end ExactCover
