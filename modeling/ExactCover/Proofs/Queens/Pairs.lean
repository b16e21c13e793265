import Mathlib.Algebra.BigOperators.Fin
import Mathlib.Algebra.Order.Group.Abs
import Mathlib.Algebra.Order.Group.Int
import ExactCover.Proofs.Arena.Web
import ExactCover.Proofs.Queens.Attacks

/-!
# Pairs of queens that attack each other

Attacks are counted line by line, in one pass over the board: the queens on every rank, on every diagonal
and on every antidiagonal are counted, and a line with so many queens has so many pairs. That is a fast way
of counting pairs of queens. Counting equal items yields the pairs of places with equal items
(`equalPairs_ofFn`), and two queens on different files share at most one line, so no pair is counted twice
(`conflicts_ofFn`).

Main statement: `conflicts_counts_pairs` (the attacks are the pairs of files whose queens stand on one rank
or as many ranks apart as files). It holds of all lists of whole numbers, on the board or not, and of these
as values.
-/

set_option autoImplicit false

namespace ExactCover.Board

variable {α : Type} {side : Nat}

/-! ## Pairs of equal items -/

/-- The pairs of places that are related, the first place before the second. -/
def pairsOf (related : Fin side → Fin side → Prop) [DecidableRel related] :
    Finset (Fin side × Fin side) :=
  Finset.univ.filter fun pair => pair.1 < pair.2 ∧ related pair.1 pair.2

/-- One place more is in a pair with every place before it that is related to it. -/
theorem card_pairsOf_succ (related : Fin (side + 1) → Fin (side + 1) → Prop) [DecidableRel related] :
    (pairsOf related).card =
      (pairsOf fun one other : Fin side => related one.castSucc other.castSucc).card +
        ∑ one : Fin side, if related one.castSucc (Fin.last side) then 1 else 0 := by
  have none' : ∀ one : Fin (side + 1), ¬ Fin.last side < one := fun one =>
    Fin.not_lt.2 (Fin.le_last one)
  simp only [pairsOf, Finset.card_filter, Fintype.sum_prod_type, Fin.sum_univ_castSucc,
    Fin.castSucc_lt_castSucc_iff, Fin.castSucc_lt_last, none', false_and, true_and, if_false,
    Finset.sum_const_zero, add_zero, Finset.sum_add_distrib]

/-- Pairs related in one way or in another are counted apart, if no pair is related in both. -/
theorem card_pairsOf_or {related linked : Fin side → Fin side → Prop} [DecidableRel related]
    [DecidableRel linked]
    (apart : ∀ one other, one < other → related one other → ¬ linked one other) :
    (pairsOf fun one other => related one other ∨ linked one other).card =
      (pairsOf related).card + (pairsOf linked).card := by
  have disjoint : Disjoint (pairsOf related) (pairsOf linked) := by
    refine Finset.disjoint_filter.2 fun pair _ isRelated isLinked => ?_
    exact apart pair.1 pair.2 isRelated.1 isRelated.2 isLinked.2
  rw [← Finset.card_union_of_disjoint disjoint]
  congr 1
  ext pair
  simp only [pairsOf, Finset.mem_filter, Finset.mem_union, ← and_or_left]

variable [DecidableEq α]

/-- How often an item occurs, place by place. -/
theorem count_ofFn (items : Fin side → α) (item : α) :
    (List.ofFn items).count item = ∑ place, if items place = item then 1 else 0 := by
  induction side with
  | zero => simp
  | succ side ih =>
      rw [List.ofFn_succ_last, List.count_append, List.count_singleton, ih, Fin.sum_univ_castSucc]
      simp only [beq_iff_eq]

/-- **Counting equal items yields the pairs of places with equal items.** -/
theorem equalPairs_ofFn (items : Fin side → α) :
    equalPairs (· == ·) (List.ofFn items) =
      (pairsOf fun one other => items one = items other).card := by
  induction side with
  | zero => rfl
  | succ side ih =>
      rw [List.ofFn_succ_last, equalPairs_concat, ih, count_ofFn, card_pairsOf_succ]

/-! ## Boards -/

/-- The diagonals of a board that is told by a function. -/
theorem diagonals_ofFn (ranks : Fin side → Int) :
    diagonals (List.ofFn ranks) = List.ofFn fun file => ranks file + (file : Int) := by
  refine List.ext_getElem (by simp [diagonals]) fun file _ _ => ?_
  simp [diagonals]

theorem antidiagonals_ofFn (ranks : Fin side → Int) :
    antidiagonals (List.ofFn ranks) = List.ofFn fun file => ranks file - (file : Int) := by
  refine List.ext_getElem (by simp [antidiagonals]) fun file _ _ => ?_
  simp [antidiagonals]

/-- Two queens attack each other if they stand on one rank, or as many ranks apart as files. -/
def Attack (ranks : Fin side → Int) (one other : Fin side) : Prop :=
  ranks one = ranks other ∨ |ranks one - ranks other| = (other : Int) - one

instance (ranks : Fin side → Int) : DecidableRel (Attack ranks) := fun _ _ =>
  inferInstanceAs (Decidable (_ ∨ _))

/-- A queen attacks another one on a later file along a rank, a diagonal or an antidiagonal. -/
theorem attack_iff {ranks : Fin side → Int} {one other : Fin side} (later : one < other) :
    Attack ranks one other ↔ (ranks one = ranks other ∨ ranks one + one = ranks other + other) ∨
      ranks one - one = ranks other - other := by
  have distance : (0 : Int) ≤ (other : Int) - one := by omega
  rw [Attack, abs_eq distance]
  omega

/-- **Two queens on different files share at most one line**, so their attack is counted once. -/
theorem conflicts_ofFn (ranks : Fin side → Int) :
    conflicts (List.ofFn ranks) = (pairsOf (Attack ranks)).card := by
  have lines : pairsOf (Attack ranks) = pairsOf fun one other =>
      (ranks one = ranks other ∨ ranks one + one = ranks other + other) ∨
        ranks one - one = ranks other - other :=
    Finset.filter_congr fun pair _ => and_congr_right attack_iff
  rw [conflicts, diagonals_ofFn, antidiagonals_ofFn, equalPairs_ofFn, equalPairs_ofFn,
    equalPairs_ofFn, lines, card_pairsOf_or, card_pairsOf_or]
  · intro one other later rank diagonal
    omega
  · intro one other later before antidiagonal
    omega

/-- The pairs of files, the smaller one first, whose queens attack each other. -/
def attackPairs (board : List Int) : Finset (Fin board.length × Fin board.length) :=
  pairsOf (Attack board.get)

theorem conflicts_eq_card (board : List Int) : conflicts board = (attackPairs board).card := by
  conv_lhs => rw [← List.ofFn_get board]
  exact conflicts_ofFn board.get

/-- **A board is valid** if it has queens, all of them on its ranks, and no two attack each other. -/
theorem isValid_iff (board : List Int) :
    isValid board = true ↔
      board ≠ [] ∧ (∀ rank ∈ board, 0 ≤ rank ∧ rank < board.length) ∧ attackPairs board = ∅ := by
  rw [isValid, Bool.and_eq_true, Bool.and_eq_true, beq_iff_eq, conflicts_eq_card,
    Finset.card_eq_zero, List.all_eq_true, and_assoc]
  simp

/-! ## Boards as values -/

/-- Items are counted alike under other names. -/
theorem tally_map {β : Type} {same : β → β → Bool} {name : α → β}
    (named : ∀ one other, same (name one) (name other) = (one == other)) (items : List α) :
    tally same (items.map name) =
      (tally (· == ·) items).map fun entry => (name entry.1, entry.2) := by
  have countOne_map : ∀ (item : α) (counts : List (α × Nat)),
      countOne same (name item) (counts.map fun entry => (name entry.1, entry.2)) =
        (countOne (· == ·) item counts).map fun entry => (name entry.1, entry.2) := by
    intro item counts
    induction counts with
    | nil => rfl
    | cons entry counts ih =>
        simp only [List.map_cons, countOne, named]
        split
        · rfl
        · rw [ih, List.map_cons]
  induction items using List.reverseRecOn with
  | nil => rfl
  | append_singleton items last ih =>
      rw [List.map_append, List.map_singleton, tally, List.foldl_append, ← tally, ih, tally_concat]
      exact countOne_map last _

theorem equalPairs_map {β : Type} {same : β → β → Bool} {name : α → β}
    (named : ∀ one other, same (name one) (name other) = (one == other)) (items : List α) :
    equalPairs same (items.map name) = equalPairs (· == ·) items := by
  rw [equalPairs, tally_map named, List.foldl_map, equalPairs]

/-- The lines of the queens of a board of whole numbers. -/
theorem mapM_linesOf (board : List Int) :
    (board.map Value.int).zipIdx.mapM (fun (rank, file) => linesOf rank (.int (file : Nat))) =
      .ok (board.zipIdx.map fun (rank, file) =>
        (Value.int rank, Value.int (rank + file), Value.int (rank - file))) := by
  rw [List.zipIdx_map, List.mapM_map]
  exact mapM_of_ok fun _ _ => rfl

/-- The attacks on a board of whole numbers are counted as on any other board. -/
theorem valueConflicts_ofInts (board : List Int) :
    valueConflicts (.ofInts board) = .ok (conflicts board) := by
  have ranks : (board.zipIdx.map fun entry => Value.int entry.1) = board.map Value.int := by
    have whole := congrArg (List.map Value.int) (List.zipIdx_map_fst 0 board)
    rwa [List.map_map] at whole
  have diagonals : (board.zipIdx.map fun entry => Value.int (entry.1 + entry.2)) =
      (diagonals board).map Value.int := List.map_map.symm
  have antidiagonals : (board.zipIdx.map fun entry => Value.int (entry.1 - entry.2)) =
      (antidiagonals board).map Value.int := List.map_map.symm
  simp only [valueConflicts, Value.ofInts, Value.items, mapM_linesOf, bind, Except.bind, pure,
    Except.pure, List.map_map, Function.comp_def]
  rw [ranks, diagonals, antidiagonals, equalPairs_map Value.sameKey_int,
    equalPairs_map Value.sameNumber_int, equalPairs_map Value.sameNumber_int, conflicts]

/-- Whole numbers are ranks of a board if they are all on it. -/
theorem mapM_rank? (size : Nat) (board : List Int) :
    (board.map Value.int).mapM (rank? size) =
      if ∀ rank ∈ board, 0 ≤ rank ∧ rank < size then some board else none := by
  induction board with
  | nil => rfl
  | cons rank board ih =>
      have first : rank? size (.int rank) = if 0 ≤ rank ∧ rank < size then some rank else none := rfl
      have both : (∀ item ∈ rank :: board, 0 ≤ item ∧ item < (size : Int)) ↔
          (0 ≤ rank ∧ rank < size) ∧ ∀ item ∈ board, 0 ≤ item ∧ item < (size : Int) :=
        List.forall_mem_cons
      rw [List.map_cons, List.mapM_cons, ih, first]
      by_cases onBoard : 0 ≤ rank ∧ rank < size
      · by_cases others : ∀ rank ∈ board, 0 ≤ rank ∧ rank < size
        · rw [if_pos onBoard, if_pos others, if_pos (both.2 ⟨onBoard, others⟩)]
          rfl
        · rw [if_pos onBoard, if_neg others, if_neg fun all => others (both.1 all).2]
          rfl
      · rw [if_neg onBoard, if_neg fun all => onBoard (both.1 all).1]
        rfl

/-- A board of whole numbers is as valid as a value. -/
theorem isValidValue_ofInts (board : List Int) :
    isValidValue (.ofInts board) = .ok (isValid board) := by
  simp only [isValidValue, Value.ofInts, Value.length, Value.items, List.length_map, mapM_rank?, bind,
    Except.bind, pure, Except.pure]
  by_cases onBoard : ∀ rank ∈ board, 0 ≤ rank ∧ rank < (board.length : Int)
  · rw [if_pos onBoard]
  · have invalid : isValid board = false := by
      rw [← Bool.not_eq_true, isValid_iff]
      exact fun valid => onBoard valid.2.1
    rw [if_neg onBoard, invalid]

/-- **The attacks on a board are the pairs of queens that attack each other.** -/
theorem conflicts_counts_pairs (board : List Int) :
    conflicts board = (attackPairs board).card ∧
      valueConflicts (.ofInts board) = .ok (attackPairs board).card ∧
      (isValid board = true ↔
        board ≠ [] ∧ (∀ rank ∈ board, 0 ≤ rank ∧ rank < board.length) ∧ attackPairs board = ∅) ∧
      isValidValue (.ofInts board) = .ok (isValid board) := by
  refine ⟨conflicts_eq_card board, ?_, isValid_iff board, isValidValue_ofInts board⟩
  rw [valueConflicts_ofInts, conflicts_eq_card]

end ExactCover.Board
