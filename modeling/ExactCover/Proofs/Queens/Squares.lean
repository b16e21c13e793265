import ExactCover.Experiment.Runs
import ExactCover.Proofs.Queens.Boards

/-!
# Squares that are given

Squares are given as values, and the queens on them must not attack each other. That is checked one
square after the other, each against the lines of those before it, and it holds of whole numbers if and
only if no two squares share a line (`checkAttacks_eq_ok_iff`). If it does not hold, it tells a square that
is attacked (`exists_checkAttacks_eq_error`).

On the board a square has a number and a record that stands in its rank. The record is found from the
rank and the file (`cell_eq`), its row is the square (`rowAt_recordAt`), and the rows of squares that
share no line share no column (`columnsOf_disjoint`). A square off the board has no record
(`cell_offBoard`).
-/

set_option autoImplicit false

namespace ExactCover

namespace Board

/-- Two squares share no line. -/
structure Apart (one other : Square) : Prop where
  rank : one.1 ≠ other.1
  file : one.2 ≠ other.2
  diagonal : one.1 + one.2 ≠ other.1 + other.2
  antidiagonal : one.1 - one.2 ≠ other.1 - other.2

instance (one other : Square) : Decidable (Apart one other) :=
  decidable_of_iff (one.1 ≠ other.1 ∧ one.2 ≠ other.2 ∧ one.1 + one.2 ≠ other.1 + other.2 ∧
      one.1 - one.2 ≠ other.1 - other.2)
    ⟨fun ⟨rank, file, diagonal, antidiagonal⟩ => ⟨rank, file, diagonal, antidiagonal⟩,
      fun ⟨rank, file, diagonal, antidiagonal⟩ => ⟨rank, file, diagonal, antidiagonal⟩⟩

theorem Apart.symm {one other : Square} (apart : Apart one other) : Apart other one :=
  ⟨apart.rank.symm, apart.file.symm, apart.diagonal.symm, apart.antidiagonal.symm⟩

/-! ## Attacks among squares -/

/-- The lines of a square of whole numbers. -/
def linesAt (square : Square) : SquareLines :=
  ⟨.int square.1, .int square.2, .int (square.1 + square.2), .int (square.1 - square.2)⟩

theorem shareLine_linesAt {one other : Square} :
    shareLine (linesAt one) (linesAt other) = false ↔ Apart one other := by
  simp only [shareLine, linesAt, Value.sameKey_int, Value.sameNumber_int, Bool.or_eq_false_iff,
    decide_eq_false_iff_not, and_assoc]
  constructor
  · rintro ⟨rank, file, diagonal, antidiagonal⟩
    exact ⟨rank, file, diagonal, antidiagonal⟩
  · rintro ⟨rank, file, diagonal, antidiagonal⟩
    exact ⟨rank, file, diagonal, antidiagonal⟩

/-- Checking one square. -/
theorem attackedFrom_cons (before : List SquareLines) (square : Square) (rest : List Value) :
    attackedFrom before (Runs.squareValue square :: rest) =
      if before.any (shareLine (linesAt square)) then
        .ok (some (.int square.1, .int square.2))
      else attackedFrom (linesAt square :: before) rest := rfl

/-- **No square is attacked** if no two of them share a line, and none shares one with those before. -/
theorem attackedFrom_eq_none_iff {before squares : List Square} :
    attackedFrom (before.map linesAt) (squares.map Runs.squareValue) = .ok none ↔
      squares.Pairwise Apart ∧ ∀ square ∈ squares, ∀ earlier ∈ before, Apart square earlier := by
  induction squares generalizing before with
  | nil => simp [attackedFrom]
  | cons square squares ih =>
      have free : (before.map linesAt).any (shareLine (linesAt square)) = false ↔
          ∀ earlier ∈ before, Apart square earlier := by
        simp only [List.any_eq_false, List.forall_mem_map, Bool.not_eq_true, shareLine_linesAt]
      rw [List.map_cons, attackedFrom_cons, List.pairwise_cons, List.forall_mem_cons]
      by_cases shares : (before.map linesAt).any (shareLine (linesAt square)) = true
      · rw [if_pos shares]
        constructor
        · intro none'
          cases none'
        · rintro ⟨-, apart, -⟩
          exact absurd (free.2 apart) (by rw [shares]; exact Bool.noConfusion)
      · have apart := free.1 (by simpa using shares)
        have next := @ih (square :: before)
        rw [List.map_cons] at next
        rw [if_neg shares, next]
        simp only [List.forall_mem_cons]
        constructor
        · rintro ⟨pairwise, others⟩
          exact ⟨⟨fun other isOther => (others other isOther).1.symm, pairwise⟩, apart,
            fun other isOther => (others other isOther).2⟩
        · rintro ⟨⟨first, pairwise⟩, -, others⟩
          exact ⟨pairwise, fun other isOther => ⟨(first other isOther).symm, others other isOther⟩⟩

/-- A check of whole numbers ends, and an attack that it finds is on one of the squares. -/
theorem attackedFrom_cases (before squares : List Square) :
    attackedFrom (before.map linesAt) (squares.map Runs.squareValue) = .ok none ∨
      ∃ square ∈ squares, attackedFrom (before.map linesAt) (squares.map Runs.squareValue) =
        .ok (some (.int square.1, .int square.2)) := by
  induction squares generalizing before with
  | nil => exact .inl rfl
  | cons square squares ih =>
      rw [List.map_cons, attackedFrom_cons]
      split
      · exact .inr ⟨square, List.mem_cons_self, rfl⟩
      · refine (ih (square :: before)).imp_right ?_
        rintro ⟨other, isOther, found⟩
        exact ⟨other, List.mem_cons_of_mem _ isOther, found⟩

end Board

namespace Runs

open Board

/-- **A run goes on if no two squares share a line.** -/
theorem checkAttacks_eq_ok_iff {squares : List Square} :
    checkAttacks (squares.map squareValue) = .ok () ↔ squares.Pairwise Apart := by
  have none' := @attackedFrom_eq_none_iff [] squares
  rw [List.map_nil] at none'
  simp only [List.not_mem_nil, false_imp_iff, implies_true, and_true] at none'
  rw [← none', checkAttacks, attacked?]
  cases attackedFrom [] (squares.map squareValue) with
  | error mismatch => simp [Except.mapError, bind, Except.bind]
  | ok attack =>
      cases attack with
      | none => simp [Except.mapError, bind, Except.bind, pure, Except.pure]
      | some square => simp [Except.mapError, bind, Except.bind, throw, throwThe, MonadExceptOf.throw]

/-- **A run stops at a square** if two squares share a line. -/
theorem exists_checkAttacks_eq_error {squares : List Square} (attacked : ¬ squares.Pairwise Apart) :
    ∃ square ∈ squares, checkAttacks (squares.map squareValue) =
      .error (.attack (.int square.1) (.int square.2)) := by
  rcases attackedFrom_cases [] squares with none' | ⟨square, isSquare, found⟩
  · exact absurd (attackedFrom_eq_none_iff.1 none').1 attacked
  · rw [List.map_nil] at found
    refine ⟨square, isSquare, ?_⟩
    rw [checkAttacks, attacked?, found]
    rfl

/-- Squares are read back from their values. -/
theorem squaresOf_squareValue (squares : List Square) :
    squaresOf (.list (squares.map squareValue)) = .ok squares := by
  rw [squaresOf]
  refine (List.mapM_map : List.mapM _ (squares.map squareValue) = _).trans ?_
  refine (@mapM_of_ok _ _ _ _ id squares fun _ _ => rfl).trans ?_
  rw [List.map_id]

end Runs

namespace QueensProblem

open Board

/-! ## Squares on a board -/

/-- A square is on the board of a side. -/
structure OnBoard (side : Nat) (square : Square) : Prop where
  rank : 0 ≤ square.1 ∧ square.1 < side
  file : 0 ≤ square.2 ∧ square.2 < side

instance (side : Nat) (square : Square) : Decidable (OnBoard side square) :=
  decidable_of_iff ((0 ≤ square.1 ∧ square.1 < side) ∧ 0 ≤ square.2 ∧ square.2 < side)
    ⟨fun ⟨rank, file⟩ => ⟨rank, file⟩, fun ⟨rank, file⟩ => ⟨rank, file⟩⟩

/-- The number of a square. -/
def numberOf (side : Nat) (square : Square) : Nat := square.1.toNat * side + square.2.toNat

/-- The record of a square that stands in its rank. -/
def recordAt (side : Nat) (square : Square) : Nat := recordOf side square.1.toNat square.2.toNat

section

variable {side : Nat} {square : Square} (onBoard : OnBoard side square)
include onBoard

theorem OnBoard.toNat_lt : square.1.toNat < side ∧ square.2.toNat < side := by
  obtain ⟨rank, file⟩ := onBoard
  omega

/-- The coordinates of a square on the board are natural numbers. -/
theorem OnBoard.exists_coordinates :
    ∃ rank file : Nat, rank < side ∧ file < side ∧ square = ((rank : Int), (file : Int)) := by
  obtain ⟨rank, file⟩ := onBoard
  refine ⟨square.1.toNat, square.2.toNat, by omega, by omega, ?_⟩
  rw [Int.toNat_of_nonneg rank.1, Int.toNat_of_nonneg file.1]

theorem OnBoard.numberOf_lt : numberOf side square < side * side :=
  square_lt onBoard.toNat_lt.1 onBoard.toNat_lt.2

omit onBoard in
/-- The coordinate that a whole number on the board equals. -/
theorem coordinate?_int {number : Int} (inside : 0 ≤ number ∧ number < side) :
    coordinate? side (.int number) = some number.toNat := by
  rw [coordinate?, List.find?_range_eq_some]
  refine ⟨?_, ?_, ?_⟩
  · rw [Value.sameNumber_int]
    exact decide_eq_true (Int.toNat_of_nonneg inside.1).symm
  · exact List.mem_range.2 (by omega)
  · intro earlier early
    rw [Value.sameNumber_int]
    simp only [Bool.not_eq_true', decide_eq_false_iff_not]
    omega

omit onBoard in
/-- Whether a whole number is on the board. -/
theorem onBoard_int (problem : Problem) (number : Int) :
    (⟨problem, side, .int side⟩ : QueensProblem).onBoard (.int number) =
      .ok (decide (0 ≤ number ∧ number < side)) := by
  simp only [QueensProblem.onBoard, Value.isAtMost_int, Value.isLess_int, bind, Except.bind]
  by_cases low : 0 ≤ number
  · simp [low]
  · simp [low, pure, Except.pure]

/-- **The record of a square** is found from its rank and its file. -/
theorem cell_eq (problem : Problem) :
    (⟨problem, side, .int side⟩ : QueensProblem).cell (.int square.1) (.int square.2) =
      .ok (.record (recordAt side square)) := by
  simp only [cell, onBoard_int, onBoard.rank, onBoard.file, coordinate?_int onBoard.rank,
    coordinate?_int onBoard.file, Except.mapError, bind, Except.bind, and_self, decide_true,
    Bool.not_true, Bool.false_eq_true, if_false]
  rfl

omit onBoard in
/-- No record is found for a square that is off the board. -/
theorem cell_offBoard (offBoard : ¬ OnBoard side square) (problem : Problem) :
    (⟨problem, side, .int side⟩ : QueensProblem).cell (.int square.1) (.int square.2) =
      .error (.offBoard (.int square.1) (.int square.2) (.int side)) := by
  simp only [cell, onBoard_int, Except.mapError, bind, Except.bind]
  by_cases rank : 0 ≤ square.1 ∧ square.1 < side
  · have file : ¬ (0 ≤ square.2 ∧ square.2 < side) := fun file => offBoard ⟨rank, file⟩
    simp [rank, file]
  · simp [rank]

/-- The record is made by the first step of the square. -/
theorem step_recordAt : (plan side).base ≤ recordAt side square ∧
    (plan side).steps[recordAt side square - (plan side).base]? =
      some (numberOf side square, 1 + square.1.toNat) := by
  have place : recordAt side square - (plan side).base = 4 * numberOf side square :=
    Nat.add_sub_cancel_left _ _
  refine ⟨Nat.le_add_right _ _, ?_⟩
  have found := @getElem?_flatMap_stepsOf side (side * side) (4 * numberOf side square)
    (by have := onBoard.numberOf_lt; omega)
  rw [Nat.mul_div_cancel_left _ (by omega : 0 < 4), Nat.mul_mod_right] at found
  rw [place]
  refine found.trans ?_
  rw [stepsOf, numberOf, (coordinates_eq onBoard.toNat_lt.2).1]
  rfl

/-- The row of the record is the square. -/
theorem rowAt_recordAt : (plan side).rowAt (recordAt side square) = numberOf side square := by
  obtain ⟨late, isStep⟩ := step_recordAt onBoard
  exact Plan.rowAt_of_mem (Plan.mem_strand.2 ⟨_, late, isStep⟩)

theorem recordAt_mem_nodes : recordAt side square ∈ (plan side).layout.nodes := by
  obtain ⟨late, isStep⟩ := step_recordAt onBoard
  exact Plan.node_of_step late isStep

variable {web : Web} (follows : web.Follows (plan side))
include follows

/-- The record stands in a rank. -/
theorem column_recordAt : (plan side).layout.column (recordAt side square) ∈ (plan side).primary := by
  obtain ⟨late, isStep⟩ := step_recordAt onBoard
  have onRank := onBoard.toNat_lt.1
  rw [Plan.column_of_step follows late isStep]
  exact List.mem_range'_1.2 ⟨by omega, by omega⟩

/-- The columns of a square are its rank, its file, its diagonal and its antidiagonal. -/
theorem mem_columnsOf_recordAt {column : Nat} :
    column ∈ (plan side).layout.columnsOf (recordAt side square) ↔
      column = 1 + square.1.toNat ∨ column = side + 1 + square.2.toNat ∨
        column = 2 * side + 1 + (square.1.toNat + square.2.toNat) ∨
        column = 4 * side + (side - 1 - square.1.toNat + square.2.toNat) := by
  obtain ⟨rank, file⟩ := @coordinates_eq side square.1.toNat square.2.toNat onBoard.toNat_lt.2
  rw [Plan.mem_columnsOf_iff follows (recordAt_mem_nodes onBoard), rowAt_recordAt onBoard,
    mem_steps_iff, Crosses, and_iff_right onBoard.numberOf_lt, numberOf, rank, file]

/-- **Squares that share no line** share no column. -/
theorem columnsOf_disjoint {other : Square} (otherOnBoard : OnBoard side other)
    (apart : Apart square other) :
    ((plan side).layout.columnsOf (recordAt side square)).Disjoint
      ((plan side).layout.columnsOf (recordAt side other)) := by
  refine List.disjoint_left.2 fun column inOne inOther => ?_
  rw [mem_columnsOf_recordAt onBoard follows] at inOne
  rw [mem_columnsOf_recordAt otherOnBoard follows] at inOther
  obtain ⟨rank, file, onRank, onFile, rfl⟩ := onBoard.exists_coordinates
  obtain ⟨rank', file', onRank', onFile', rfl⟩ := otherOnBoard.exists_coordinates
  obtain ⟨ranks, files, diagonals, antidiagonals⟩ := apart
  simp only [Int.toNat_natCast] at *
  rcases inOne with rfl | rfl | rfl | rfl
  · exact ranks (by omega)
  · exact files (by omega)
  · exact diagonals (by omega)
  · exact antidiagonals (by omega)

end

end QueensProblem

end ExactCover
