import Mathlib.Data.Finset.Card
import Mathlib.Data.List.Induction
import Mathlib.Data.List.Nodup
import Mathlib.Tactic.Ring
import ExactCover.Queens.Board

/-!
# Attacks on a board

Attacks are counted by counting the queens on every line. An item that comes last forms as many pairs
as there are equal items before it (`Board.equalPairs_concat`), so there is no pair if and only if no
item occurs twice, and no attack if and only if no two queens share a rank, a diagonal or an
antidiagonal (`Board.conflicts_eq_zero_iff`).
-/

set_option autoImplicit false

namespace ExactCover.Board

variable {α : Type} [BEq α]

/-- How often an item has been counted. -/
def counted (item : α) : List (α × Nat) → Nat
  | [] => 0
  | (known, count) :: rest => if known == item then count else counted item rest

/-- The pairs of equal items among those that have been counted. -/
def pairsIn (counts : List (α × Nat)) : Nat :=
  (counts.map fun entry => entry.2 * (entry.2 - 1) / 2).sum

theorem equalPairs_eq (items : List α) :
    equalPairs (· == ·) items = pairsIn (tally (· == ·) items) := by
  have onward : ∀ (counts : List (α × Nat)) (start : Nat),
      counts.foldl (fun pairs entry => pairs + entry.2 * (entry.2 - 1) / 2) start =
        start + pairsIn counts := by
    intro counts
    induction counts with
    | nil => exact fun _ => rfl
    | cons entry counts ih =>
        intro start
        rw [List.foldl_cons, ih, pairsIn, pairsIn, List.map_cons, List.sum_cons, Nat.add_assoc]
  rw [equalPairs, onward, Nat.zero_add]

theorem tally_concat (items : List α) (item : α) :
    tally (· == ·) (items ++ [item]) = countOne (· == ·) item (tally (· == ·) items) := by
  rw [tally, List.foldl_append]
  rfl

variable [LawfulBEq α]

theorem counted_countOne (item other : α) (counts : List (α × Nat)) :
    counted other (countOne (· == ·) item counts) =
      counted other counts + if item == other then 1 else 0 := by
  induction counts with
  | nil => simp [countOne, counted]
  | cons entry counts ih =>
      obtain ⟨known, count⟩ := entry
      rw [countOne]
      by_cases here : known = item
      · subst here
        by_cases same : known = other
        · simp [counted, same]
        · simp [counted, same]
      · rw [if_neg (by simpa using here)]
        by_cases same : known = other
        · have different : ¬ item = other := fun equal => here (same.trans equal.symm)
          simp [counted, same, different]
        · simp [counted, same, ih]

/-- An item is counted as often as it occurs. -/
theorem counted_tally (item : α) (items : List α) :
    counted item (tally (· == ·) items) = items.count item := by
  induction items using List.reverseRecOn with
  | nil => rfl
  | append_singleton items last ih =>
      rw [tally_concat, counted_countOne, ih, List.count_append, List.count_singleton]

/-- One more item forms a pair with each equal one. -/
theorem pairsIn_countOne (item : α) (counts : List (α × Nat)) :
    pairsIn (countOne (· == ·) item counts) = pairsIn counts + counted item counts := by
  have onePair : ∀ count : Nat, (count + 1) * count / 2 = count * (count - 1) / 2 + count := by
    intro count
    cases count with
    | zero => rfl
    | succ below =>
        have more : (below + 1 + 1) * (below + 1) = (below + 1) * below + 2 * (below + 1) := by
          ring
        rw [more, Nat.add_mul_div_left _ _ Nat.two_pos, Nat.add_sub_cancel]
  induction counts with
  | nil => simp [countOne, pairsIn, counted]
  | cons entry counts ih =>
      obtain ⟨known, count⟩ := entry
      rw [countOne, counted]
      by_cases here : known = item
      · subst here
        simp only [beq_self_eq_true, if_true, pairsIn, List.map_cons, List.sum_cons,
          Nat.add_sub_cancel, onePair]
        omega
      · simp only [beq_iff_eq, here, if_false, pairsIn, List.map_cons, List.sum_cons] at ih ⊢
        omega

/-- **An item forms as many pairs as there are equal items before it.** -/
theorem equalPairs_concat (items : List α) (item : α) :
    equalPairs (· == ·) (items ++ [item]) = equalPairs (· == ·) items + items.count item := by
  rw [equalPairs_eq, equalPairs_eq, tally_concat, pairsIn_countOne, counted_tally]

/-- There is no pair if no item occurs twice. -/
theorem equalPairs_eq_zero_iff (items : List α) :
    equalPairs (· == ·) items = 0 ↔ items.Nodup := by
  induction items using List.reverseRecOn with
  | nil => exact ⟨fun _ => List.nodup_nil, fun _ => rfl⟩
  | append_singleton items last ih =>
      rw [equalPairs_concat, Nat.add_eq_zero_iff, ih, List.count_eq_zero, ← List.concat_eq_append,
        List.nodup_concat, and_comm]

/-- **There is no attack if no two queens share a line.** -/
theorem conflicts_eq_zero_iff (board : List Int) :
    conflicts board = 0 ↔
      board.Nodup ∧ (diagonals board).Nodup ∧ (antidiagonals board).Nodup := by
  rw [conflicts, Nat.add_eq_zero_iff, Nat.add_eq_zero_iff, equalPairs_eq_zero_iff,
    equalPairs_eq_zero_iff, equalPairs_eq_zero_iff, and_assoc]

/-! ## Boards told by functions -/

/-- The board with the rank of each file told by a function. -/
def ofRanks (side : Nat) (rankOn : Nat → Nat) : List Int :=
  (List.range side).map fun file => (rankOn file : Int)

theorem length_ofRanks (side : Nat) (rankOn : Nat → Nat) : (ofRanks side rankOn).length = side := by
  rw [ofRanks, List.length_map, List.length_range]

/-- A list of ranks is told by a function. -/
theorem exists_ofRanks {board : List Int} (onBoard : ∀ rank ∈ board, 0 ≤ rank) :
    ∃ rankOn : Nat → Nat, board = ofRanks board.length rankOn := by
  refine ⟨fun file => (board.getD file 0).toNat, ?_⟩
  refine List.ext_getElem (by simp [ofRanks]) ?_
  intro file inside _
  have := onBoard board[file] (List.getElem_mem inside)
  simp [ofRanks, inside]
  omega

/-- Queens of which no two attack each other. -/
structure Peaceful (side : Nat) (rankOn : Nat → Nat) : Prop where
  ranks : ∀ one < side, ∀ other < side, rankOn one = rankOn other → one = other
  diagonals : ∀ one < side, ∀ other < side, rankOn one + one = rankOn other + other → one = other
  antidiagonals : ∀ one < side, ∀ other < side,
    rankOn one + other = rankOn other + one → one = other

/-- Peaceful queens on all files stand on all ranks. -/
theorem Peaceful.exists_file {side : Nat} {rankOn : Nat → Nat} (peaceful : Peaceful side rankOn)
    (onBoard : ∀ file < side, rankOn file < side) {rank : Nat} (onRank : rank < side) :
    ∃ file < side, rankOn file = rank := by
  have maps : Set.MapsTo rankOn (Finset.range side) (Finset.range side) := by
    intro file onFile
    simpa using onBoard file (by simpa using onFile)
  have injective : Set.InjOn rankOn (Finset.range side) := by
    intro one onOne other onOther same
    exact peaceful.ranks one (by simpa using onOne) other (by simpa using onOther) same
  have onto := Finset.surjOn_of_injOn_of_card_le rankOn maps injective le_rfl
  obtain ⟨file, onFile, same⟩ := onto (by simpa using onRank)
  exact ⟨file, by simpa using onFile, same⟩

theorem conflicts_ofRanks_eq_zero_iff {side : Nat} {rankOn : Nat → Nat} :
    conflicts (ofRanks side rankOn) = 0 ↔ Peaceful side rankOn := by
  have placed : (ofRanks side rankOn).zipIdx =
      (List.range side).map fun file => ((rankOn file : Int), file) := by
    refine List.ext_getElem (by simp [ofRanks]) ?_
    intro file _ _
    simp [ofRanks]
  have nodup : ∀ line : Nat → Int, ((List.range side).map line).Nodup ↔
      ∀ one < side, ∀ other < side, line one = line other → one = other := by
    intro line
    rw [List.nodup_map_iff_inj_on List.nodup_range]
    simp only [List.mem_range]
  rw [conflicts_eq_zero_iff, diagonals, antidiagonals, placed, List.map_map, List.map_map, ofRanks,
    nodup, nodup, nodup]
  constructor
  · rintro ⟨ranks, diagonals, antidiagonals⟩
    constructor
    · intro one isOne other isOther same
      exact ranks one isOne other isOther (by omega)
    · intro one isOne other isOther same
      exact diagonals one isOne other isOther (by simp only [Function.comp_apply]; omega)
    · intro one isOne other isOther same
      exact antidiagonals one isOne other isOther (by simp only [Function.comp_apply]; omega)
  · rintro ⟨ranks, diagonals, antidiagonals⟩
    refine ⟨?_, ?_, ?_⟩
    · intro one isOne other isOther same
      exact ranks one isOne other isOther (by omega)
    · intro one isOne other isOther same
      simp only [Function.comp_apply] at same
      exact diagonals one isOne other isOther (by omega)
    · intro one isOne other isOther same
      simp only [Function.comp_apply] at same
      exact antidiagonals one isOne other isOther (by omega)

/-- **A board is valid if it holds peaceful queens on its own ranks.** -/
theorem isValid_ofRanks_iff {side : Nat} {rankOn : Nat → Nat} :
    isValid (ofRanks side rankOn) = true ↔
      0 < side ∧ (∀ file < side, rankOn file < side) ∧ Peaceful side rankOn := by
  rw [isValid, Bool.and_eq_true, Bool.and_eq_true, beq_iff_eq, conflicts_ofRanks_eq_zero_iff,
    and_assoc, length_ofRanks]
  refine and_congr ?_ (and_congr ?_ Iff.rfl)
  · cases side with
    | zero => simp [ofRanks]
    | succ side => simp [ofRanks, List.range_succ]
  · simp [ofRanks]

/-- A valid board is told by a function. -/
theorem exists_ofRanks_of_isValid {board : List Int} (valid : isValid board = true) :
    ∃ rankOn : Nat → Nat, board = ofRanks board.length rankOn := by
  rw [isValid, Bool.and_eq_true, Bool.and_eq_true, List.all_eq_true] at valid
  apply exists_ofRanks
  intro rank inside
  have onBoard := valid.1.2 rank inside
  simp only [Bool.and_eq_true, decide_eq_true_eq] at onBoard
  exact onBoard.1

end ExactCover.Board
