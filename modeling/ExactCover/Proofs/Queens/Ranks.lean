import ExactCover.Proofs.Queens.Lines
import ExactCover.Proofs.Search.Increase

/-!
# Boards in lexicographic order

If columns are taken in their order, the ranks come first. Every square that is taken covers its rank, so
the columns are those of the ranks, one after the other: as long as a rank is left, the first column that
is left is the one of the first such rank (`chosen_rank`), and once none is left every file is covered as
well, since an answer has as many squares as the board has ranks. So the record at some place of an answer
is that of a square on the rank of this number, in the column of the rank (`exists_file_of_path`).

In the column of a rank the files stand in their order, so the records of its squares increase with the
file. Hence the answers are in lexicographic order of their files, as they are in that of their records
(`first_policy_lexicographic`). None is left out: every valid board of that side is the
board of an answer (`exists_path_of_isValid`).
-/

set_option autoImplicit false

namespace ExactCover.QueensProblem

variable {side : Nat}

/-! ## The ranks come first -/

/-- Of the steps of a square only the first one is made in a rank, in its own. -/
theorem rank_of_stepsOf {square index rank other : Nat} (onRank : rank < side)
    (isStep : (stepsOf side square)[index]? = some (other, 1 + rank)) :
    index = 0 ∧ rank = square / side := by
  rw [stepsOf] at isStep
  generalize square / side = ownRank at *
  generalize square % side = file at *
  rcases index with _ | _ | _ | _ | index <;>
    simp only [List.getElem?_cons_zero, List.getElem?_cons_succ, List.getElem?_nil,
      Option.some.injEq, Prod.mk.injEq, reduceCtorEq] at isStep
  · exact ⟨rfl, by omega⟩
  · omega
  · omega
  · omega

/-- A record in the column of a rank is that of a square on the rank. -/
theorem exists_file_of_member {rank node : Nat} (onRank : rank < side)
    (isMember : node ∈ (plan side).layout.members (1 + rank)) :
    ∃ file < side, node = recordOf side rank file := by
  obtain ⟨_, late, isStep⟩ := Plan.mem_attached.1 (Frame.mem_members.1 isMember)
  obtain ⟨early, -⟩ := List.getElem?_eq_some_iff.1 isStep
  rw [length_steps] at early
  obtain ⟨isFirst, ownRank⟩ :=
    rank_of_stepsOf onRank ((getElem?_flatMap_stepsOf side early).symm.trans isStep)
  refine ⟨(node - (plan side).base) / 4 % side, Nat.mod_lt _ (by omega), ?_⟩
  have isSquare : rank * side + (node - (plan side).base) / 4 % side =
      (node - (plan side).base) / 4 := by
    rw [ownRank, Nat.mul_comm]
    exact Nat.div_add_mod _ _
  have base : firstRecord side = (plan side).base := rfl
  rw [recordOf, isSquare, base]
  omega

section

variable {web : Web} (follows : web.Follows (plan side)) {covered : List Nat} {rank : Nat}
  (earlier : ∀ other < side, 1 + other ∈ covered ↔ other < rank)
include earlier

/-- **The first rank that is left** is taken, if any is left. -/
theorem chosen_rank (onRank : rank < side) :
    (plan side).layout.chosen covered .first = some (1 + rank) := by
  have primary : (plan side).layout.primary = List.range' 1 (2 * side) := rfl
  rw [Layout.chosen, Layout.active, primary, List.head?_filter, List.find?_range'_eq_some]
  refine ⟨?_, ?_, ?_⟩
  · simpa using mt (earlier rank onRank).1 (lt_irrefl rank)
  · exact List.mem_range'_1.2 ⟨by omega, by omega⟩
  · intro column first before
    obtain ⟨other, rfl⟩ := Nat.exists_eq_add_of_le first
    simpa using (earlier other (by omega)).2 (by omega)

include follows

/-- **At each place of an answer is a square of this rank**, from the first rank on that is left. -/
theorem exists_file_of_path {path : List Nat}
    (isPath : path ∈ algorithmX .first ((plan side).layout.demandsLeft covered)) {place node : Nat}
    (here : path[place]? = some node) (onRank : rank + place < side) :
    ∃ file < side, node = recordOf side (rank + place) file := by
  induction path generalizing covered rank place with
  | nil => cases here
  | cons first rest ih =>
      have sound := follows.shows.sound
      rw [Layout.algorithmX_demandsLeft sound, chosen_rank earlier (by omega)] at isPath
      obtain ⟨_, isLive, isAnswer⟩ := List.mem_flatMap.1 isPath
      obtain ⟨_, isRest, same⟩ := List.mem_map.1 isAnswer
      obtain ⟨rfl, rfl⟩ := List.cons.inj same
      obtain ⟨file, onFile, rfl⟩ := exists_file_of_member (by omega) (List.mem_filter.1 isLive).1
      cases place with
      | zero =>
          cases here
          exact ⟨file, onFile, rfl⟩
      | succ place =>
          have next : rank + (place + 1) = rank + 1 + place := by omega
          rw [next] at onRank ⊢
          refine ih (fun other onOther => ?_) isRest here onRank
          have square : OnBoard side ((rank : Int), (file : Int)) :=
            ⟨⟨by omega, by omega⟩, ⟨by omega, by omega⟩⟩
          have own := @mem_columnsOf_recordAt side _ square web follows (1 + other)
          simp only [Int.toNat_natCast] at own
          change 1 + other ∈ (plan side).layout.columnsOf (recordOf side rank file) ↔ _ at own
          rw [Layout.mem_withRow, own, earlier other onOther]
          omega

end

/-! ## Answers read as files -/

/-- A record is that of the square at a rank and a file which stands in the column of the rank. -/
structure IsRankRecord (queens : QueensProblem) (rank file : Nat) (node : Link) : Prop where
  /-- It is the record by which the square is known. -/
  cell : queens.cell (.int rank) (.int file) = .ok node
  /-- It belongs to the square. -/
  placement : queens.placement node = .ok (rank, file)
  /-- It stands in a column that is named after the rank. -/
  column : ∃ header, queens.problem.arena.columnOf node = .ok header ∧
    queens.problem.arena.columnName header = .ok (.text ("R" ++ toString rank))

/-- The files of the squares of decisions, one decision after the other. -/
def filesOf (queens : QueensProblem) (decisions : List Link) : Except BoardError (List Nat) :=
  decisions.mapM fun node => do return (← queens.placement node).2

theorem recordOf_strictMono (side rank : Nat) : StrictMono (recordOf side rank) := by
  intro one other less
  simp only [recordOf]
  omega

theorem rowAt_recordOf {rank file : Nat} (onRank : rank < side) (onFile : file < side) :
    (plan side).rowAt (recordOf side rank file) = rank * side + file :=
  @rowAt_recordAt side ((rank : Int), (file : Int)) ⟨⟨by omega, by omega⟩, ⟨by omega, by omega⟩⟩

/-- **The record of a square in its rank** is known as that of the square, and named after the rank. -/
theorem isRankRecord_recordOf {policy : Policy} {web : Web} (follows : web.Follows (plan side))
    (built : build side (Problem.empty policy) = .ok () ⟨web.arena 0, policy, 2 * side⟩)
    {rank file : Nat} (onRank : rank < side) (onFile : file < side) :
    IsRankRecord ⟨⟨web.arena 0, policy, 2 * side⟩, side, .int side⟩ rank file
      (.record (recordOf side rank file)) := by
  have onBoard : OnBoard side ((rank : Int), (file : Int)) :=
    ⟨⟨by omega, by omega⟩, ⟨by omega, by omega⟩⟩
  have isNode : recordOf side rank file ∈ (plan side).layout.nodes := recordAt_mem_nodes onBoard
  obtain ⟨late, early⟩ := Plan.bounds_of_node isNode
  obtain ⟨-, isStep⟩ := step_recordAt onBoard
  have isColumn : (plan side).layout.column (recordOf side rank file) = 1 + rank :=
    Plan.column_of_step follows late isStep
  refine ⟨cell_eq onBoard _, ?_, .record (1 + rank : Nat), ?_,
    columnName_line built (mem_allLines.2 onRank : Line.rank rank ∈ allLines side)⟩
  · rw [@placement_record ⟨⟨web.arena 0, policy, 2 * side⟩, side, .int side⟩ _ late early]
    simp only [rowAt_recordOf onRank onFile, coordinates_eq onFile]
  · rw [← isColumn]
    exact @Layout.columnOf_web _ web [] ((plan side).proper follows (steps_nodup side)) follows.shows
      Layout.isTrail_nil _ isNode 0

section

variable {web : Web} (follows : web.Follows (plan side)) {policy : Policy} {path : List Nat}
include follows

/-- An answer has as many squares as the board has ranks. -/
theorem length_of_path (isPath : path ∈ (plan side).pathsAfter policy []) :
    path.length = side ∧ ∀ node ∈ path, (plan side).base ≤ node ∧
      node < (plan side).base + (plan side).steps.length := by
  obtain ⟨apart, -, complete⟩ := @Plan.extensions_of_plan (plan side) web follows (steps_nodup side) []
    (by simp) List.Pairwise.nil (by simp) policy
  have selection := ((complete _).1 (List.mem_map.2 ⟨path, isPath, rfl⟩)).1
  obtain ⟨rankOn, -, same, -⟩ := exists_ranks_of_isSelection selection
  obtain ⟨once, bounds⟩ := apart path isPath
  have card := List.toFinset_card_of_nodup once
  rw [List.append_nil] at same
  rw [same, card_squaresOf, List.length_map] at card
  exact ⟨card.symm, bounds⟩

/-- **At each place of an answer is a square of the rank of this number.** -/
theorem exists_file_of_answer (isPath : path ∈ (plan side).pathsAfter .first []) {rank node : Nat}
    (here : path[rank]? = some node) :
    rank < side ∧ ∃ file < side, node = recordOf side rank file := by
  obtain ⟨whole, -⟩ := length_of_path follows isPath
  obtain ⟨inside, -⟩ := List.getElem?_eq_some_iff.1 here
  have onRank : rank < side := by omega
  obtain ⟨file, onFile, same⟩ := @exists_file_of_path side web follows [] 0 (by simp) path isPath
    rank node here (by omega)
  rw [Nat.zero_add] at same
  exact ⟨onRank, file, onFile, same⟩

/-- **An answer is told by its files**, which are those of the ranks in their order. -/
theorem path_eq_mapIdx (isPath : path ∈ (plan side).pathsAfter .first []) :
    path = (path.map fun node => (plan side).rowAt node % side).mapIdx (recordOf side) := by
  refine List.ext_getElem? fun rank => ?_
  rw [List.getElem?_mapIdx, List.getElem?_map]
  cases here : path[rank]? with
  | none => rfl
  | some node =>
      obtain ⟨onRank, file, onFile, rfl⟩ := exists_file_of_answer follows isPath here
      rw [Option.map_some, Option.map_some, rowAt_recordOf onRank onFile, (coordinates_eq onFile).2]

/-- The files of an answer are read off without fail. -/
theorem filesOf_linksTo (isPath : path ∈ (plan side).pathsAfter policy []) (problem : Problem) :
    filesOf ⟨problem, side, .int side⟩ (linksTo path) =
      .ok (path.map fun node => (plan side).rowAt node % side) := by
  obtain ⟨-, bounds⟩ := length_of_path follows isPath
  rw [filesOf, linksTo, List.mapM_map]
  refine mapM_of_ok fun node isNode => ?_
  obtain ⟨late, early⟩ := bounds node isNode
  have placed := @placement_record ⟨problem, side, .int side⟩ node late early
  simp only [Function.comp_apply, placed, bind, Except.bind, pure, Except.pure]

/-- **No valid board is missing** among the answers. -/
theorem exists_path_of_isValid (policy : Policy) (problem : Problem)
    {board : List Int} (whole : board.length = side) (valid : Board.isValid board = true) :
    ∃ path ∈ (plan side).pathsAfter policy [],
      (⟨problem, side, .int side⟩ : QueensProblem).board (linksTo path) = .ok board := by
  subst whole
  obtain ⟨rankOn, isBoard⟩ := Board.exists_ofRanks_of_isValid valid
  rw [isBoard, Board.isValid_ofRanks_iff] at valid
  obtain ⟨-, onBoard, peaceful⟩ := valid
  obtain ⟨-, -, complete⟩ := @Plan.extensions_of_plan (plan board.length) web follows
    (steps_nodup board.length) [] (by simp) List.Pairwise.nil (by simp) policy
  obtain ⟨path, isPath, same⟩ := List.mem_map.1
    ((complete _).2 ⟨isSelection_of_peaceful onBoard peaceful, by simp⟩)
  rw [List.append_nil] at same
  refine ⟨path, isPath, ?_⟩
  rw [@board_linksTo ⟨problem, board.length, .int board.length⟩ _ (length_of_path follows isPath).2,
    place_eq_ofRanks same, ← isBoard]

end

/-- **Taking columns in their order leads to the boards in lexicographic order.** At each place of an
answer is the record of a square on the rank of this number, in the column of the rank. The files of the
squares, rank by rank, are in lexicographic order, each answer before the next. No valid board is
missing. -/
theorem first_policy_lexicographic (inhabited : 1 ≤ side) :
    ∃ (queens : QueensProblem) (answers : List (List Link)) (after : Problem)
        (files : List (List Nat)),
      ofSize (.int side) .first = .ok queens ∧
        Problem.solutions none queens.problem = .ok answers after ∧
        (∀ answer ∈ answers, answer.length = side ∧ ∀ rank node, answer[rank]? = some node →
          ∃ file < side, queens.IsRankRecord rank file node) ∧
        answers.mapM queens.filesOf = .ok files ∧ files.Pairwise (· < ·) ∧
        ∀ board, board.length = side → Board.isValid board = true →
          ∃ answer ∈ answers, queens.board answer = .ok board := by
  obtain ⟨web, follows, built⟩ := build_follows inhabited .first
  have active : (plan side).layout.active [] ≠ [] := by
    rw [Layout.active_nil, Ne]
    change ¬ List.range' 1 (2 * side) = []
    rw [List.range'_eq_nil_iff]
    omega
  obtain ⟨more, solved⟩ := @Layout.solutions_web (plan side).layout web [] .first
    ((plan side).proper follows (steps_nodup side)) follows.shows nofun Layout.isTrail_nil none 0
    (2 * side)
  rw [Layout.enumerated, if_neg active] at solved
  refine ⟨_, _, _, ((plan side).pathsAfter .first []).map
    (List.map fun node => (plan side).rowAt node % side), ofSize_of_build inhabited built, solved,
    ?_, ?_, ?_, ?_⟩
  · intro answer isAnswer
    obtain ⟨path, isPath, rfl⟩ := List.mem_map.1 isAnswer
    refine ⟨?_, fun rank node here => ?_⟩
    · rw [linksTo, List.length_map]
      exact (length_of_path follows isPath).1
    · rw [linksTo, List.getElem?_map, Option.map_eq_some_iff] at here
      obtain ⟨place, here, rfl⟩ := here
      obtain ⟨onRank, file, onFile, rfl⟩ := exists_file_of_answer follows isPath here
      exact ⟨file, onFile, isRankRecord_recordOf follows built onRank onFile⟩
  · change (((plan side).pathsAfter .first []).map linksTo).mapM _ = _
    rw [List.mapM_map]
    exact mapM_of_ok fun path isPath => filesOf_linksTo follows isPath _
  · rw [List.pairwise_map]
    refine (Plan.pathsAfter_increase (plan side) .first []).imp_of_mem
      fun {one other} isOne isOther less => ?_
    rw [path_eq_mapIdx follows isOne, path_eq_mapIdx follows isOther] at less
    exact lt_of_mapIdx_lt (recordOf_strictMono side) less
  · intro board whole valid
    obtain ⟨path, isPath, read⟩ := exists_path_of_isValid follows .first _ whole valid
    exact ⟨linksTo path, List.mem_map.2 ⟨path, isPath, rfl⟩, read⟩

/-- The board with one square has one answer, with its queen on file 0. On the board of side 4 the third
entry of every answer is a square of rank 2, the answers are in lexicographic order, and queens a knight's
move apart are among them. -/
theorem first_policy_lexicographic_small :
    (∃ (queens : QueensProblem) (answers : List (List Link)) (after : Problem),
      ofSize (.int (1 : Nat)) .first = .ok queens ∧
        Problem.solutions none queens.problem = .ok answers after ∧
        answers.mapM queens.filesOf = .ok [[0]] ∧
        ∀ answer ∈ answers, ∀ node, answer[0]? = some node → queens.IsRankRecord 0 0 node) ∧
    ∃ (queens : QueensProblem) (answers : List (List Link)) (after : Problem)
        (files : List (List Nat)),
      ofSize (.int (4 : Nat)) .first = .ok queens ∧
        Problem.solutions none queens.problem = .ok answers after ∧
        (∀ answer ∈ answers, ∀ node, answer[2]? = some node →
          ∃ file < 4, queens.IsRankRecord 2 file node) ∧
        answers.mapM queens.filesOf = .ok files ∧ files.Pairwise (· < ·) ∧
        ∃ answer ∈ answers, queens.board answer = .ok [1, 3, 0, 2] := by
  constructor
  · obtain ⟨queens, answers, after, files, made, solved, ranks, read, -, -⟩ :=
      @first_policy_lexicographic 1 (by decide)
    have evaluated : (match ofSize (.int (1 : Nat)) .first with
        | .ok queens => match Problem.solutions none queens.problem with
          | .ok answers _ => (answers.mapM queens.filesOf).toOption
          | .error _ _ => none
        | .error _ => none) = some [[0]] := by decide +kernel
    simp only [made, solved, read, Except.toOption, Option.some.injEq] at evaluated
    subst evaluated
    refine ⟨queens, answers, after, made, solved, read, fun answer isAnswer node here => ?_⟩
    obtain ⟨file, onFile, isRecord⟩ := (ranks answer isAnswer).2 0 node here
    obtain rfl : file = 0 := by omega
    exact isRecord
  · obtain ⟨queens, answers, after, files, made, solved, ranks, read, ordered, complete⟩ :=
      @first_policy_lexicographic 4 (by decide)
    exact ⟨queens, answers, after, files, made, solved,
      fun answer isAnswer => (ranks answer isAnswer).2 2, read, ordered,
      complete _ (by decide) (by decide)⟩

end ExactCover.QueensProblem
