import ExactCover.Proofs.Cover.Nesting
import ExactCover.Proofs.Queens.Forced
import ExactCover.Proofs.Search.Histories

/-!
# What an attack is

Three parts of the program tell attacks apart, each in its own way. The check of squares compares ranks,
files, sums and differences; the problem of a board gives each square a row, and rows are apart if they
share no column; and the attacks on a board are counted by lines with several queens. They agree:

* squares pass the check exactly if their rows are apart (`apart_iff_disjoint`),
* a board has no attacks exactly if the squares of its queens pass (`conflicts_eq_zero_iff_apart`).

Committing a row checks nothing, so the check is all that guards the links. It is enough: when the queens
of squares that pass are forced one after the other, the columns that are covered by then are those of the
rows before, and none of them is a column of the next row (`forces_apart`).
-/

set_option autoImplicit false

namespace ExactCover

namespace Board

/-! ## Attacks on a board -/

/-- Squares share no line pairwise if they are told apart by each of the four kinds of lines. -/
theorem pairwise_apart_iff {squares : List Square} :
    squares.Pairwise Apart ↔
      (squares.map fun square => square.1).Nodup ∧ (squares.map fun square => square.2).Nodup ∧
        (squares.map fun square => square.1 + square.2).Nodup ∧
        (squares.map fun square => square.1 - square.2).Nodup := by
  simp only [List.nodup_iff_pairwise_ne, List.pairwise_map, ← List.pairwise_and_iff]
  refine List.Pairwise.iff fun {one other} => ?_
  constructor
  · rintro ⟨rank, file, diagonal, antidiagonal⟩
    exact ⟨rank, file, diagonal, antidiagonal⟩
  · rintro ⟨rank, file, diagonal, antidiagonal⟩
    exact ⟨rank, file, diagonal, antidiagonal⟩

/-- The squares of the queens of a board. -/
def queensOn (board : List Int) : List Square :=
  board.zipIdx.map fun entry => (entry.1, (entry.2 : Int))

/-- **A board has no attacks** if its queens share no line. -/
theorem conflicts_eq_zero_iff_apart (board : List Int) :
    conflicts board = 0 ↔ (queensOn board).Pairwise Apart := by
  have ranks : (queensOn board).map (fun square => square.1) = board := by
    rw [queensOn, List.map_map]
    exact List.zipIdx_map_fst 0 board
  have files : ((queensOn board).map fun square => square.2).Nodup := by
    have numbers : (board.zipIdx.map Prod.snd).map (Nat.cast : Nat → Int) =
        (queensOn board).map fun square => square.2 := by
      rw [queensOn, List.map_map, List.map_map]
      rfl
    rw [← numbers, List.zipIdx_map_snd]
    exact List.Nodup.map Nat.cast_injective List.nodup_range'
  have diagonals : (queensOn board).map (fun square => square.1 + square.2) = diagonals board :=
    List.map_map
  have antidiagonals : (queensOn board).map (fun square => square.1 - square.2) =
      antidiagonals board := List.map_map
  rw [pairwise_apart_iff, ranks, and_iff_right files, diagonals, antidiagonals, conflicts_eq_zero_iff]

end Board

namespace QueensProblem

open Board

variable {side : Nat}

/-! ## Rows that are apart -/

section

variable {web : Web} (follows : web.Follows (plan side)) {square other : Square}
  (onBoard : OnBoard side square) (otherOnBoard : OnBoard side other)
include follows onBoard otherOnBoard

/-- **Squares share no line exactly if their rows share no column.** -/
theorem apart_iff_disjoint :
    Apart square other ↔ ((plan side).layout.columnsOf (recordAt side square)).Disjoint
      ((plan side).layout.columnsOf (recordAt side other)) := by
  refine ⟨columnsOf_disjoint onBoard follows otherOnBoard, fun disjoint => ?_⟩
  have shared : ∀ column, column ∈ (plan side).layout.columnsOf (recordAt side square) →
      column ∉ (plan side).layout.columnsOf (recordAt side other) := fun _ isOwn isOther =>
    disjoint isOwn isOther
  simp only [mem_columnsOf_recordAt onBoard follows, mem_columnsOf_recordAt otherOnBoard follows] at shared
  obtain ⟨rank, file, onRank, onFile, rfl⟩ := onBoard.exists_coordinates
  obtain ⟨rank', file', onRank', onFile', rfl⟩ := otherOnBoard.exists_coordinates
  simp only [Int.toNat_natCast] at shared
  constructor
  · intro same
    exact shared _ (.inl rfl) (.inl (by omega))
  · intro same
    exact shared _ (.inr (.inl rfl)) (.inr (.inl (by omega)))
  · intro same
    exact shared _ (.inr (.inr (.inl rfl))) (.inr (.inr (.inl (by omega))))
  · intro same
    exact shared _ (.inr (.inr (.inr rfl))) (.inr (.inr (.inr (by omega))))

end

/-- The rows of some squares are apart exactly if the squares share no line. -/
theorem pairwise_rowsApart_iff {web : Web} (follows : web.Follows (plan side)) {squares : List Square}
    (onBoard : ∀ square ∈ squares, OnBoard side square) (updates : Nat) :
    (linksTo (recordsOf side squares)).Pairwise (web.arena updates).RowsApart ↔
      squares.Pairwise Apart := by
  rw [linksTo, recordsOf, List.map_map, List.pairwise_map]
  refine List.Pairwise.iff_of_mem fun {one other} isOne isOther => ?_
  rw [apart_iff_disjoint follows (onBoard one isOne) (onBoard other isOther)]
  exact Layout.rowsApart_iff ((plan side).proper follows (steps_nodup side)) follows.shows
    (recordAt_mem_nodes (onBoard one isOne)) (recordAt_mem_nodes (onBoard other isOther))

/-! ## Forcing queens -/

/-- The places of squares, as they are given to a run. -/
def placesOf (squares : List Square) : List (Value × Value) :=
  squares.map fun (rank, file) => (.int rank, .int file)

/-- The places are read off the values of the squares. -/
theorem mapM_parts (squares : List Square) :
    (squares.map Runs.squareValue).mapM Value.parts = .ok (placesOf squares) := by
  rw [List.mapM_map]
  exact mapM_of_ok fun _ _ => rfl

/-- When a run comes to a square after others, none of the columns that are covered by then is a column of
its row. -/
structure ComesFree (queens : QueensProblem) (before : List Square) (square : Square)
    (later : List Square) (decisions : List Link) (reached : Problem) (covered : List Nat) : Prop where
  /-- This is what the squares before have led to. -/
  forced : Runs.force queens (placesOf before) [] queens.problem = .ok (decisions, reached)
  /-- The run goes on from there. -/
  onward : Runs.force queens (placesOf (before ++ square :: later)) [] queens.problem =
    Runs.force queens (placesOf (square :: later)) decisions reached
  /-- These are the columns of the rows that were decided for. -/
  own : ∀ column : Nat, column ∈ covered ↔ ∃ decision ∈ decisions, ∃ columns,
    queens.problem.arena.rowColumns decision = .ok columns ∧ Link.record column ∈ columns
  /-- All that has been done to the arena is that they were covered. -/
  played : ∃ after, Arena.play (covered.map .cover) queens.problem.arena = .ok () after ∧
    reached.arena.nodes = after.nodes
  /-- The row of the square is as it was, and none of them is a column of it. -/
  free : ∃ node columns, queens.cell (.int square.1) (.int square.2) = .ok node ∧
    queens.problem.arena.rowColumns node = .ok columns ∧
    reached.arena.rowColumns node = .ok columns ∧ ∀ column ∈ covered, Link.record column ∉ columns

/-- **Forcing a queen covers no column twice**, if no two squares share a line. -/
theorem forces_apart {web : Web} (follows : web.Follows (plan side)) {before later : List Square}
    {square : Square} (onBoard : ∀ other ∈ before ++ square :: later, OnBoard side other)
    (apart : (before ++ square :: later).Pairwise Apart) (policy : Policy) :
    ∃ decisions reached covered,
      ComesFree ⟨⟨web.arena 0, policy, 2 * side⟩, side, .int side⟩ before square later decisions reached
        covered := by
  have proper := (plan side).proper follows (steps_nodup side)
  have shown := follows.shows
  have earlyOnBoard : ∀ other ∈ before, OnBoard side other := fun other isEarly =>
    onBoard other (List.mem_append_left _ isEarly)
  have ownOnBoard : OnBoard side square := onBoard square (List.mem_append_right _ List.mem_cons_self)
  obtain ⟨earlyApart, -, across⟩ := List.pairwise_append.1 apart
  obtain ⟨trail, between, commits⟩ := commits_squares earlyOnBoard earlyApart follows policy 0
  have forced := (force_eq earlyOnBoard ⟨web.arena 0, policy, 2 * side⟩
    ⟨web.arena 0, policy, 2 * side⟩ []).trans (Runs.onProblem_of_ok commits)
  have isNode := recordAt_mem_nodes ownOnBoard
  have isCovered : ∀ column, column ∈ (plan side).layout.withRows [] (recordsOf side before) ↔
      ∃ other ∈ before, column ∈ (plan side).layout.columnsOf (recordAt side other) := by
    intro column
    rw [Layout.mem_withRows_nil, recordsOf, List.flatMap_map, List.mem_flatMap]
  refine ⟨_, _, ((plan side).layout.withRows [] (recordsOf side before)).reverse, forced, ?_,
    fun column => ?_, ?_, ?_⟩
  · rw [placesOf, List.map_append, force_append]
    exact congrArg (fun outcome => Except.bind outcome _) forced
  · rw [List.mem_reverse, isCovered, linksTo, recordsOf]
    simp only [List.mem_map, exists_exists_and_eq_and]
    refine exists_congr fun other => and_congr_right fun isEarly => ?_
    have read := @Layout.rowColumns_web _ web [] proper shown Layout.isTrail_nil _
      (recordAt_mem_nodes (earlyOnBoard other isEarly)) 0
    constructor
    · intro isOwn
      exact ⟨_, read, List.mem_map.2 ⟨column, isOwn, rfl⟩⟩
    · rintro ⟨_, same, inside⟩
      cases read.symm.trans same
      obtain ⟨column', isOwn, equal⟩ := List.mem_map.1 inside
      exact Int.ofNat.inj (Link.record.inj equal) ▸ isOwn
  · have headers := trail.areHeaders
    rw [← List.reverse_reverse ((plan side).layout.withRows [] (recordsOf side before))] at headers
    obtain ⟨more, played⟩ := Layout.covers_web proper shown headers 0
    rw [List.reverse_reverse] at played
    exact ⟨_, played, rfl⟩
  · refine ⟨_, _, cell_eq ownOnBoard _, @Layout.rowColumns_web _ web [] proper shown
      Layout.isTrail_nil _ isNode 0, Layout.rowColumns_web proper shown trail isNode between, ?_⟩
    intro column inside isOwn
    obtain ⟨other, isEarly, isOther⟩ := (isCovered column).1 (List.mem_reverse.1 inside)
    obtain ⟨column', isColumn, equal⟩ := List.mem_map.1 isOwn
    obtain rfl := Int.ofNat.inj (Link.record.inj equal)
    exact columnsOf_disjoint (earlyOnBoard other isEarly) follows ownOnBoard
      (across other isEarly square List.mem_cons_self) isOther isColumn

/-- **The three ways to tell attacks agree.** Squares on a board of any side pass the check exactly if
their rows share no column, pairwise; and otherwise a run is stopped at one of them. If they pass, forcing
their queens one after the other never comes to a row with a column that is covered. And a board of any
ranks has no attacks exactly if the squares of its queens pass. -/
theorem attacks_agree (inhabited : 1 ≤ side) (policy : Policy) {squares : List Square}
    (onBoard : ∀ square ∈ squares, OnBoard side square) :
    (∃ (queens : QueensProblem) (nodes : List Link),
      ofSize (.int side) policy = .ok queens ∧
        squares.mapM (fun square => queens.cell (.int square.1) (.int square.2)) = .ok nodes ∧
        (∀ node ∈ nodes, ∃ columns, queens.problem.arena.rowColumns node = .ok columns) ∧
        (Runs.checkAttacks (squares.map Runs.squareValue) = .ok () ↔
          nodes.Pairwise queens.problem.arena.RowsApart) ∧
        (¬ nodes.Pairwise queens.problem.arena.RowsApart →
          ∃ square ∈ squares, Runs.checkAttacks (squares.map Runs.squareValue) =
            .error (.attack (.int square.1) (.int square.2))) ∧
        (squares.map Runs.squareValue).mapM Value.parts = .ok (placesOf squares) ∧
        (Runs.checkAttacks (squares.map Runs.squareValue) = .ok () →
          ∀ before square later, squares = before ++ square :: later →
            ∃ decisions reached covered,
              ComesFree queens before square later decisions reached covered)) ∧
    ∀ board : List Int, conflicts board = 0 ↔
      Runs.checkAttacks ((queensOn board).map Runs.squareValue) = .ok () := by
  constructor
  · obtain ⟨web, follows, made⟩ := ofSize_follows inhabited policy
    have rows := pairwise_rowsApart_iff follows onBoard 0
    refine ⟨_, linksTo (recordsOf side squares), made, ?_, ?_, ?_, ?_, mapM_parts squares, ?_⟩
    · rw [linksTo, recordsOf, List.map_map]
      exact mapM_of_ok fun square isSquare => cell_eq (onBoard square isSquare) _
    · intro _ isNode
      obtain ⟨node, isRecord, rfl⟩ := List.mem_map.1 isNode
      exact ⟨_, @Layout.rowColumns_web _ web [] ((plan side).proper follows (steps_nodup side))
        follows.shows Layout.isTrail_nil node (recordsOf_nodes onBoard node isRecord) 0⟩
    · rw [Runs.checkAttacks_eq_ok_iff, rows]
    · rw [rows]
      exact Runs.exists_checkAttacks_eq_error
    · rintro passes before square later rfl
      exact forces_apart follows onBoard (Runs.checkAttacks_eq_ok_iff.1 passes) policy
  · intro board
    rw [conflicts_eq_zero_iff_apart, Runs.checkAttacks_eq_ok_iff]

/-- On the board of side 4, two queens a knight's move apart have rows that are apart, so the second one
comes to a row that is free; two queens on a diagonal have not. A board with two queens on a rank has
attacks. -/
theorem attacks_agree_four :
    (∃ (queens : QueensProblem) (nodes : List Link),
      ofSize (.int (4 : Nat)) .smallest = .ok queens ∧
        [((1, 0) : Square), (3, 1)].mapM (fun square => queens.cell (.int square.1) (.int square.2)) =
          .ok nodes ∧
        nodes.Pairwise queens.problem.arena.RowsApart ∧
        ∃ decisions reached covered,
          ComesFree queens [(1, 0)] (3, 1) [] decisions reached covered) ∧
    (∃ (queens : QueensProblem) (nodes : List Link),
      ofSize (.int (4 : Nat)) .smallest = .ok queens ∧
        [((0, 0) : Square), (1, 1)].mapM (fun square => queens.cell (.int square.1) (.int square.2)) =
          .ok nodes ∧
        ¬ nodes.Pairwise queens.problem.arena.RowsApart) ∧
    Runs.checkAttacks ((queensOn [2, 0, 2]).map Runs.squareValue) ≠ .ok () := by
  have knight := @attacks_agree 4 (by decide) .smallest [(1, 0), (3, 1)] (by decide)
  have diagonal := @attacks_agree 4 (by decide) .smallest [(0, 0), (1, 1)] (by decide)
  obtain ⟨⟨queens, nodes, made, cells, -, passes, -, -, free⟩, boards⟩ := knight
  obtain ⟨⟨queens', nodes', made', cells', -, passes', -⟩, -⟩ := diagonal
  have passed : Runs.checkAttacks ([((1, 0) : Square), (3, 1)].map Runs.squareValue) = .ok () :=
    Runs.checkAttacks_eq_ok_iff.2 (by decide)
  refine ⟨⟨queens, nodes, made, cells, passes.1 passed, free passed [(1, 0)] (3, 1) [] rfl⟩,
    ⟨queens', nodes', made', cells', ?_⟩, ?_⟩
  · rw [← passes', Runs.checkAttacks_eq_ok_iff]
    decide
  · rw [Ne, ← boards]
    decide

end QueensProblem

end ExactCover
