import ExactCover.Proofs.Queens.Squares

/-!
# Boards with given queens

A run forces queens on some squares, searches from there and undoes what it has done. If the squares are
on the board and share no line, forcing never fails, and the boards that are found are the valid boards
that hold all of them, each once (`boardsWith_nodup`, `mem_boardsWith_iff`), and as many whichever way
columns are taken (`length_pathsAfter`). Undoing leads back to the board as it was (`complete_upTo`).

As many squares as the board has ranks leave nothing to search. They are a valid board already, but a
search that begins without a column takes that for the end of a search, so the run counts no solution
there. With fewer squares it counts all of them (`complete_counts`).
-/

set_option autoImplicit false

namespace ExactCover

namespace QueensProblem

open Board

/-- The records of squares. -/
def recordsOf (side : Nat) (squares : List Square) : List Nat := squares.map (recordAt side)

/-! ## The rows of the squares -/

section

variable {side : Nat} {squares : List Square}
  (onBoard : ∀ square ∈ squares, OnBoard side square)
include onBoard

theorem recordsOf_nodes : ∀ node ∈ recordsOf side squares, node ∈ (plan side).layout.nodes := by
  intro node isNode
  obtain ⟨square, isSquare, rfl⟩ := List.mem_map.1 isNode
  exact recordAt_mem_nodes (onBoard square isSquare)

theorem rowAt_recordsOf :
    (recordsOf side squares).map (plan side).rowAt = squares.map (numberOf side) := by
  rw [recordsOf, List.map_map]
  exact List.map_congr_left fun square isSquare => rowAt_recordAt (onBoard square isSquare)

/-- Whether the squares are among those of a board. -/
theorem holdsAll_ofRanks_iff {rankOn : Nat → Nat} :
    Runs.holdsAll (ofRanks side rankOn) squares = true ↔
      (squares.map (numberOf side)).toFinset ⊆ squaresOf side rankOn := by
  have held : ∀ square ∈ squares, ((ofRanks side rankOn)[square.2.toNat]? == some square.1) = true ↔
      numberOf side square ∈ squaresOf side rankOn := by
    intro square isSquare
    obtain ⟨rank, file, onRank, onFile, rfl⟩ := (onBoard square isSquare).exists_coordinates
    have found : (ofRanks side rankOn)[file]? = some (rankOn file : Int) := by
      simp [ofRanks, onFile]
    rw [numberOf, Int.toNat_natCast, Int.toNat_natCast, found, beq_iff_eq, Option.some.injEq,
      Int.natCast_inj, mem_squaresOf]
    constructor
    · intro same
      exact ⟨file, onFile, by rw [same]⟩
    · rintro ⟨other, onOther, same⟩
      have ranks := congrArg (· / side) same
      have files := congrArg (· % side) same
      simp only [(coordinates_eq onFile).1, (coordinates_eq onOther).1] at ranks
      simp only [(coordinates_eq onFile).2, (coordinates_eq onOther).2] at files
      rw [files, ranks]
  rw [Runs.holdsAll, List.all_eq_true]
  simp only [Finset.subset_iff, List.mem_toFinset, List.forall_mem_map]
  exact forall₂_congr held

section

variable {web : Web} (follows : web.Follows (plan side))
include follows

theorem recordsOf_apart (apart : squares.Pairwise Apart) :
    (recordsOf side squares).Pairwise fun one other =>
      ((plan side).layout.columnsOf one).Disjoint ((plan side).layout.columnsOf other) := by
  rw [recordsOf, List.pairwise_map]
  exact apart.imp_of_mem fun isOne isOther share =>
    columnsOf_disjoint (onBoard _ isOne) follows (onBoard _ isOther) share

theorem recordsOf_driven :
    ∀ node ∈ recordsOf side squares, (plan side).layout.column node ∈ (plan side).primary := by
  intro node isNode
  obtain ⟨square, isSquare, rfl⟩ := List.mem_map.1 isNode
  exact column_recordAt (onBoard square isSquare) follows

/-! ## Whether anything is left -/

/-- The columns that are covered once the squares are taken. -/
theorem mem_withRows_recordsOf {column : Nat} :
    column ∈ (plan side).layout.withRows [] (recordsOf side squares) ↔
      ∃ square ∈ squares, column = 1 + square.1.toNat ∨ column = side + 1 + square.2.toNat ∨
        column = 2 * side + 1 + (square.1.toNat + square.2.toNat) ∨
        column = 4 * side + (side - 1 - square.1.toNat + square.2.toNat) := by
  rw [Layout.mem_withRows_nil, recordsOf, List.flatMap_map, List.mem_flatMap]
  refine exists_congr fun square => and_congr_right fun isSquare => ?_
  exact mem_columnsOf_recordAt (onBoard square isSquare) follows

end

end

/-- Different numbers below a bound are all of them if there are as many as the bound. -/
theorem length_eq_iff_forall_mem {values : List Nat} {bound : Nat} (once : values.Nodup)
    (below : ∀ value ∈ values, value < bound) :
    values.length = bound ↔ ∀ value < bound, value ∈ values := by
  have part : values.toFinset ⊆ Finset.range bound := by
    intro value isValue
    exact Finset.mem_range.2 (below value (List.mem_toFinset.1 isValue))
  rw [← List.toFinset_card_of_nodup once]
  constructor
  · intro full value isBelow
    have whole := Finset.eq_of_subset_of_card_le part (by rw [Finset.card_range, full])
    rw [← List.mem_toFinset, whole]
    exact Finset.mem_range.2 isBelow
  · intro all
    have whole : values.toFinset = Finset.range bound := by
      refine Finset.Subset.antisymm part fun value isBelow => ?_
      exact List.mem_toFinset.2 (all value (Finset.mem_range.1 isBelow))
    rw [whole, Finset.card_range]

section

variable {side : Nat} {squares : List Square}
  (onBoard : ∀ square ∈ squares, OnBoard side square) (apart : squares.Pairwise Apart)
include apart

/-- Squares that share no line are told apart by a line. -/
theorem coordinates_nodup (coordinate : Square → Int)
    (differs : ∀ one other, Apart one other → coordinate one ≠ coordinate other)
    (low : ∀ square ∈ squares, 0 ≤ coordinate square) :
    (squares.map fun square => (coordinate square).toNat).Nodup := by
  rw [List.nodup_iff_pairwise_ne, List.pairwise_map]
  refine apart.imp_of_mem fun {one other} isOne isOther share => ?_
  have := differs one other share
  have := low one isOne
  have := low other isOther
  omega

include onBoard

/-- **Nothing is left if there are as many squares as ranks.** -/
theorem active_eq_nil_iff {web : Web} (follows : web.Follows (plan side)) :
    (plan side).layout.active ((plan side).layout.withRows [] (recordsOf side squares)) = [] ↔
      squares.length = side := by
  have ranks := length_eq_iff_forall_mem
    (coordinates_nodup apart Prod.fst (fun _ _ share => share.rank)
      fun square isSquare => (onBoard square isSquare).rank.1)
    (List.forall_mem_map.2 fun square isSquare => (onBoard square isSquare).toNat_lt.1)
  have files := length_eq_iff_forall_mem
    (coordinates_nodup apart Prod.snd (fun _ _ share => share.file)
      fun square isSquare => (onBoard square isSquare).file.1)
    (List.forall_mem_map.2 fun square isSquare => (onBoard square isSquare).toNat_lt.2)
  rw [List.length_map] at ranks files
  simp only [List.mem_map] at ranks files
  rw [Layout.active_eq_nil]
  constructor
  · intro all
    refine ranks.2 fun rank onRank => ?_
    have isColumn : 1 + rank ∈ (plan side).primary := List.mem_range'_1.2 ⟨by omega, by omega⟩
    obtain ⟨square, isSquare, crosses⟩ :=
      (mem_withRows_recordsOf onBoard follows).1 (all _ isColumn)
    exact ⟨square, isSquare, by omega⟩
  · intro full column isPrimary
    obtain ⟨first, last⟩ := List.mem_range'_1.1 isPrimary
    rw [mem_withRows_recordsOf onBoard follows]
    by_cases isRank : column < 1 + side
    · obtain ⟨square, isSquare, here⟩ := ranks.1 full (column - 1) (by omega)
      exact ⟨square, isSquare, .inl (by omega)⟩
    · obtain ⟨square, isSquare, here⟩ := files.1 full (column - (side + 1)) (by omega)
      exact ⟨square, isSquare, .inr (.inl (by omega))⟩

/-! ## The boards -/

omit onBoard apart in
/-- The boards of what is found once queens are forced on squares. -/
def boardsWith (side : Nat) (squares : List Square) : List (List Int) :=
  ((plan side).pathsAfter .smallest (recordsOf side squares)).map fun path =>
    place side ((path ++ recordsOf side squares).map (plan side).rowAt) (List.replicate side (-1))

variable {web : Web} (follows : web.Follows (plan side)) {policy : Policy}
include follows

/-- What is found once the queens are forced. -/
theorem selections_with_squares :
    (((plan side).pathsAfter policy (recordsOf side squares)).map fun path =>
        ((path ++ recordsOf side squares).map (plan side).rowAt).toFinset).Nodup ∧
      ∀ rows : Finset Nat,
        rows ∈ ((plan side).pathsAfter policy (recordsOf side squares)).map (fun path =>
            ((path ++ recordsOf side squares).map (plan side).rowAt).toFinset) ↔
          (plan side).IsSelection rows ∧ (squares.map (numberOf side)).toFinset ⊆ rows := by
  obtain ⟨-, once, complete⟩ := Plan.extensions_of_plan follows (steps_nodup side)
    (recordsOf_nodes onBoard) (recordsOf_apart onBoard follows apart)
    (recordsOf_driven onBoard follows) policy
  rw [rowAt_recordsOf onBoard] at complete
  exact ⟨once, complete⟩

/-- Either policy finds as many boards. -/
theorem length_pathsAfter :
    ((plan side).pathsAfter policy (recordsOf side squares)).length =
      (boardsWith side squares).length := by
  have found := fun policy => @selections_with_squares side squares onBoard apart web follows policy
  obtain ⟨once, complete⟩ := found policy
  obtain ⟨once', complete'⟩ := found .smallest
  have same := ((List.perm_ext_iff_of_nodup once once').2 fun rows =>
    (complete rows).trans (complete' rows).symm).length_eq
  rw [List.length_map, List.length_map] at same
  rw [same, boardsWith, List.length_map]

/-- Everything that is found is a board without attacks that holds the squares. -/
theorem exists_ranks_of_path {path : List Nat}
    (isPath : path ∈ (plan side).pathsAfter policy (recordsOf side squares)) :
    ∃ rankOn : Nat → Nat, (∀ file < side, rankOn file < side) ∧ Peaceful side rankOn ∧
      (squares.map (numberOf side)).toFinset ⊆ squaresOf side rankOn ∧
      ((path ++ recordsOf side squares).map (plan side).rowAt).toFinset = squaresOf side rankOn ∧
      place side ((path ++ recordsOf side squares).map (plan side).rowAt)
        (List.replicate side (-1)) = ofRanks side rankOn := by
  obtain ⟨selection, part⟩ := ((selections_with_squares onBoard apart follows).2 _).1
    (List.mem_map.2 ⟨path, isPath, rfl⟩)
  obtain ⟨rankOn, inside, same, peaceful, isBoard⟩ := exists_ranks_of_isSelection selection
  rw [same] at part
  exact ⟨rankOn, inside, peaceful, part, same, isBoard⟩

/-- **No board is found twice.** -/
theorem boardsWith_nodup : (boardsWith side squares).Nodup := by
  refine List.Nodup.of_map (squaresOn side) ?_
  rw [boardsWith, List.map_map]
  have sets : ((plan side).pathsAfter .smallest (recordsOf side squares)).map
        (squaresOn side ∘ fun path =>
          place side ((path ++ recordsOf side squares).map (plan side).rowAt)
            (List.replicate side (-1))) =
      ((plan side).pathsAfter .smallest (recordsOf side squares)).map fun path =>
        ((path ++ recordsOf side squares).map (plan side).rowAt).toFinset := by
    apply List.map_congr_left
    intro path isPath
    obtain ⟨rankOn, -, -, -, same, isBoard⟩ := exists_ranks_of_path onBoard apart follows isPath
    rw [Function.comp_apply, isBoard, squaresOn_ofRanks, same]
  rw [sets]
  exact (selections_with_squares onBoard apart follows).1

/-- Everything that is found is a valid board that holds the squares. -/
theorem valid_of_path (inhabited : 1 ≤ side) {path : List Nat}
    (isPath : path ∈ (plan side).pathsAfter policy (recordsOf side squares)) :
    let board := place side ((path ++ recordsOf side squares).map (plan side).rowAt)
      (List.replicate side (-1))
    board.length = side ∧ isValid board = true ∧ Runs.holdsAll board squares = true := by
  obtain ⟨rankOn, inside, peaceful, part, -, isBoard⟩ :=
    exists_ranks_of_path onBoard apart follows isPath
  rw [isBoard]
  exact ⟨length_ofRanks side rankOn, isValid_ofRanks_iff.2 ⟨inhabited, inside, peaceful⟩,
    (holdsAll_ofRanks_iff onBoard).2 part⟩

/-- What is found is read off as a board without fail. -/
theorem ranks_of_path (problem : Problem) {path : List Nat}
    (isPath : path ∈ (plan side).pathsAfter policy (recordsOf side squares)) :
    Runs.ranks ⟨problem, side, .int side⟩ (linksTo (path ++ recordsOf side squares)) =
      .ok (place side ((path ++ recordsOf side squares).map (plan side).rowAt)
        (List.replicate side (-1))) := by
  have areRecords : ∀ node ∈ path ++ recordsOf side squares, (plan side).base ≤ node ∧
      node < (plan side).base + (plan side).steps.length := by
    intro node isNode
    rcases List.mem_append.1 isNode with isFound | isForced
    · exact ((Plan.extensions_of_plan follows (steps_nodup side) (recordsOf_nodes onBoard)
        (recordsOf_apart onBoard follows apart) (recordsOf_driven onBoard follows) policy).1
          path isPath).2 node isFound
    · exact Plan.bounds_of_node (recordsOf_nodes onBoard node isForced)
  have read := @board_linksTo ⟨problem, side, .int side⟩ _ areRecords
  rw [Runs.ranks, read]
  rfl

/-- **The boards that are found are the valid boards that hold the squares.** -/
theorem mem_boardsWith_iff (inhabited : 1 ≤ side) (board : List Int) :
    board ∈ boardsWith side squares ↔
      board.length = side ∧ isValid board = true ∧ Runs.holdsAll board squares = true := by
  rw [boardsWith, List.mem_map]
  constructor
  · rintro ⟨path, isPath, rfl⟩
    exact valid_of_path onBoard apart follows inhabited isPath
  · rintro ⟨rfl, valid, holds⟩
    obtain ⟨rankOn, isBoard⟩ := exists_ofRanks_of_isValid valid
    generalize board.length = side at *
    subst isBoard
    obtain ⟨-, inside, peaceful⟩ := isValid_ofRanks_iff.1 valid
    have selection := isSelection_of_peaceful inside peaceful
    have part := (holdsAll_ofRanks_iff onBoard).1 holds
    obtain ⟨path, isPath, same⟩ := List.mem_map.1
      (((selections_with_squares onBoard apart follows).2 _).2 ⟨selection, part⟩)
    exact ⟨path, isPath, place_eq_ofRanks same⟩

/-- As many squares as ranks are one board. -/
theorem length_boardsWith_of_full (full : squares.length = side) :
    (boardsWith side squares).length = 1 := by
  have solved := (active_eq_nil_iff onBoard apart follows).2 full
  rw [boardsWith, List.length_map, Plan.pathsAfter,
    Layout.algorithmX_demandsLeft follows.shows.sound, Layout.chosen_eq_none.2 solved]
  rfl

end

/-! ## The run -/

section

variable {side : Nat} {squares : List Square}

/-- Forcing queens on squares and then on others. -/
theorem force_append (queens : QueensProblem) (one other : List (Value × Value))
    (decisions : List Link) (problem : Problem) :
    Runs.force queens (one ++ other) decisions problem =
      (Runs.force queens one decisions problem).bind fun (decisions, problem) =>
        Runs.force queens other decisions problem := by
  induction one generalizing decisions problem with
  | nil => rfl
  | cons square one ih =>
      obtain ⟨rank, file⟩ := square
      simp only [List.cons_append, Runs.force, bind, Except.bind]
      cases (queens.cell rank file).mapError Failure.board with
      | error error => rfl
      | ok node =>
          dsimp only
          cases Runs.onProblem (Problem.commit node decisions) problem with
          | error error => rfl
          | ok after => exact ih after.1 after.2

/-- Forcing queens is deciding for the records of their squares. -/
theorem force_eq (onBoard : ∀ square ∈ squares, OnBoard side square) (start problem : Problem)
    (decisions : List Link) :
    Runs.force ⟨start, side, .int side⟩
        (squares.map fun (rank, file) => (Value.int rank, Value.int file)) decisions problem =
      Runs.onProblem ((recordsOf side squares).foldlM (fun decisions (node : Nat) =>
        Problem.commit (.record node) decisions) decisions) problem := by
  induction squares generalizing decisions problem with
  | nil => rfl
  | cons square squares ih =>
      obtain ⟨first, others⟩ := List.forall_mem_cons.1 onBoard
      simp only [recordsOf, List.map_cons, List.foldlM_cons, Runs.force, cell_eq first,
        Except.mapError, bind, Except.bind, EStateM.bind, Runs.onProblem]
      cases Problem.commit (.record (recordAt side square)) decisions problem with
      | error error after => rfl
      | ok decisions after => exact ih others after decisions

/-- A board is clean as long as no column is covered. -/
theorem isClean_arena {web : Web} (follows : web.Follows (plan side)) (policy : Policy)
    (updates : Nat) : Problem.isClean ⟨web.arena updates, policy, 2 * side⟩ = .ok true := by
  have clean := Layout.isClean_trail ((plan side).proper follows (steps_nodup side)) follows.shows
    Layout.isTrail_nil policy updates
  have counted : (plan side).layout.primary.length = 2 * side := List.length_range'
  rwa [counted, decide_eq_true fun column _ => List.not_mem_nil] at clean

theorem isClean_board {web : Web} (follows : web.Follows (plan side)) (policy : Policy)
    (updates : Nat) : Runs.isClean ⟨web.arena updates, policy, 2 * side⟩ = .ok true := by
  rw [Runs.isClean, isClean_arena follows policy updates]
  rfl

theorem boardOf_of_made {size : Value} {policy : Policy} {queens : QueensProblem}
    (made : ofSize size policy = .ok queens) : Runs.boardOf size policy = .ok queens := by
  rw [Runs.boardOf, made]
  rfl

/-- A run is its steps, one after the other. -/
theorem complete_of_steps {size value : Value} {limit : Option Int} {queens : QueensProblem}
    {forced : List Link} {committed searched after : Problem} {found : List (List Link)}
    {validate : Bool} (limited : Runs.limitOf value = .ok limit)
    (peaceful : Runs.checkAttacks (squares.map Runs.squareValue) = .ok ())
    (made : Runs.boardOf size .smallest = .ok queens)
    (forces : Runs.force queens (squares.map fun (rank, file) => (Value.int rank, Value.int file)) []
      queens.problem = .ok (forced, committed))
    (solved : Runs.onProblem (Problem.solutions limit) committed = .ok (found, searched))
    (passes : found.forM (fun decisions => Runs.checkHeld queens squares (decisions ++ forced)) =
      .ok ())
    (undone : Runs.onProblem (Problem.undo forced) searched = .ok ((), after))
    (clean : Runs.isClean after = .ok true)
    (same : after.arena.snapshot = queens.problem.arena.snapshot) :
    Runs.complete size (.list (squares.map Runs.squareValue)) value validate =
      .ok ⟨squares, found.length, true, span⟩ := by
  rw [Runs.complete, Runs.squaresOf_squareValue, limited]
  simp only [Except.mapError, bind, Except.bind, pure, Except.pure, peaceful, made, forces, solved,
    undone, clean, same, beq_self_eq_true, Bool.and_true, Runs.assert] at passes ⊢
  cases validate with
  | false => rfl
  | true =>
      simp only [passes]
      rfl

variable (onBoard : ∀ square ∈ squares, OnBoard side square) (apart : squares.Pairwise Apart)
include onBoard apart

section

variable {web : Web} (follows : web.Follows (plan side))
include follows

/-- Queens are forced on the squares without fail. -/
theorem commits_squares (policy : Policy) (updates : Nat) :
    (plan side).layout.IsTrail ((plan side).layout.withRows [] (recordsOf side squares)) ∧
      ∃ between, (recordsOf side squares).foldlM (fun decisions (node : Nat) =>
          Problem.commit (.record node) decisions) [] ⟨web.arena updates, policy, 2 * side⟩ =
        .ok (linksTo (recordsOf side squares))
          ⟨((plan side).layout.web web ((plan side).layout.withRows [] (recordsOf side squares))).arena
            between, policy, 2 * side⟩ :=
  Layout.commits_web ((plan side).proper follows (steps_nodup side)) follows.shows
    (recordsOf_nodes onBoard) (recordsOf_apart onBoard follows apart) (fun _ _ => rfl)
    Layout.isTrail_nil updates (2 * side) []

/-- **No check stops a run** that forces queens on squares. -/
theorem checkHeld_of_path (inhabited : 1 ≤ side) (problem : Problem) {answer : List Nat}
    (found : answer ∈ (plan side).pathsAfter .smallest (recordsOf side squares)) :
    Runs.checkHeld ⟨problem, side, .int side⟩ squares
      (linksTo answer ++ linksTo (recordsOf side squares)) = .ok () := by
  have read := ranks_of_path onBoard apart follows problem found
  obtain ⟨-, valid, holds⟩ := valid_of_path onBoard apart follows inhabited found
  rw [← linksTo_append, Runs.checkHeld, read]
  simp only [bind, Except.bind, Runs.assert, valid, holds, Bool.and_self, if_true]

/-- What is found after forcing queens is what Algorithm X finds, unless nothing is left to search. -/
theorem enumerated_recordsOf (policy : Policy) :
    (plan side).layout.enumerated policy
        ((plan side).layout.withRows [] (recordsOf side squares)) =
      if squares.length = side then [] else (plan side).pathsAfter policy (recordsOf side squares) := by
  rw [Layout.enumerated, Plan.pathsAfter]
  simp only [active_eq_nil_iff onBoard apart follows]

/-- Every answer that is found is one of the paths. -/
theorem exists_path_of_found {policy : Policy} {limit : Option Int} {answer : List Link}
    (found : answer ∈ upTo limit (((plan side).layout.enumerated policy
      ((plan side).layout.withRows [] (recordsOf side squares))).map linksTo)) :
    ∃ path ∈ (plan side).pathsAfter policy (recordsOf side squares), answer = linksTo path := by
  obtain ⟨path, isFound, rfl⟩ := List.mem_map.1 (mem_of_mem_upTo found)
  rw [enumerated_recordsOf onBoard apart follows] at isFound
  split at isFound
  · cases isFound
  · exact ⟨path, isFound, rfl⟩

/-- As many answers are found as there are boards, up to a limit. -/
theorem length_found (policy : Policy) (limit : Option Int) :
    (upTo limit (((plan side).layout.enumerated policy
        ((plan side).layout.withRows [] (recordsOf side squares))).map linksTo)).length =
      (upTo limit (if squares.length = side then [] else boardsWith side squares)).length := by
  rw [← map_upTo, enumerated_recordsOf onBoard apart follows, List.length_map, length_upTo, length_upTo]
  split
  · rfl
  · rw [length_pathsAfter onBoard apart follows]

end

/-- **A run that forces queens on squares** goes through and leaves the board as it was. It counts the
boards that are found, up to a limit, and none if the squares are as many as the ranks. -/
theorem complete_upTo (inhabited : 1 ≤ side) (small : (side : Int) < Arena.sizeBound) {value : Value}
    {limit : Option Int} (limited : Runs.limitOf value = .ok limit) (validate : Bool) :
    Runs.complete (.int side) (.list (squares.map Runs.squareValue)) value validate =
      .ok ⟨squares, (upTo limit (if squares.length = side then [] else boardsWith side squares)).length,
        true, span⟩ := by
  obtain ⟨web, follows, made⟩ := ofSize_follows inhabited .smallest
  have proper := (plan side).proper follows (steps_nodup side)
  have shown := follows.shows
  have smallColumns := @small_members side web follows .smallest fun _ => small
  have allowed := @Layout.allows_of_apart _ [] _ (recordsOf_nodes onBoard)
    (recordsOf_apart onBoard follows apart) fun _ _ => rfl
  obtain ⟨trail, between, commits⟩ := commits_squares onBoard apart follows .smallest 0
  obtain ⟨more, solved⟩ := Layout.solutions_web proper shown smallColumns trail limit between (2 * side)
  have undone := @Layout.undone_web _ web [] _ .smallest proper shown Layout.isTrail_nil allowed more
    (2 * side)
  have forces := (force_eq onBoard ⟨web.arena 0, .smallest, 2 * side⟩ _ []).trans
    (Runs.onProblem_of_ok commits)
  have undoes : Runs.onProblem (Problem.undo (linksTo (recordsOf side squares))) _ = _ :=
    Runs.onProblem_of_ok undone
  have clean := isClean_board follows .smallest more
  have held : ∀ answer ∈ upTo limit (((plan side).layout.enumerated .smallest
        ((plan side).layout.withRows [] (recordsOf side squares))).map linksTo),
      Runs.checkHeld ⟨⟨web.arena 0, .smallest, 2 * side⟩, side, .int side⟩ squares
        (answer ++ linksTo (recordsOf side squares)) = .ok () := by
    intro answer isAnswer
    obtain ⟨path, isFound, rfl⟩ := exists_path_of_found onBoard apart follows isAnswer
    exact checkHeld_of_path onBoard apart follows inhabited _ isFound
  rw [← length_found onBoard apart follows .smallest]
  exact complete_of_steps limited (Runs.checkAttacks_eq_ok_iff.2 apart) (boardOf_of_made made) forces
    (Runs.onProblem_of_ok solved) (forM_of_ok held) undoes clean rfl

/-- Without a limit it counts all of them. -/
theorem complete_eq (inhabited : 1 ≤ side) (small : (side : Int) < Arena.sizeBound)
    (validate : Bool) :
    ∃ entry : Completion,
      Runs.complete (.int side) (.list (squares.map Runs.squareValue)) .null validate = .ok entry ∧
        entry.squares = squares ∧ entry.restored = true ∧
        entry.solutions = if squares.length = side then 0 else (boardsWith side squares).length := by
  refine ⟨_, complete_upTo onBoard apart inhabited small rfl validate, rfl, rfl, ?_⟩
  split
  · rfl
  · rfl

end

/-! ## What is counted -/

/-- **What a run with forced queens counts.** The squares are on the board and share no line. The run goes
through, whether it checks what it finds or not, and leaves the board as it was. With fewer squares than
ranks it counts the valid boards that hold a queen on each of them. As many squares as ranks are one such
board, and the run counts none. (No column has more rows than a search can count.) -/
theorem complete_counts {side : Nat} (inhabited : 1 ≤ side) (small : (side : Int) < Arena.sizeBound)
    {squares : List Square} (onBoard : ∀ square ∈ squares, OnBoard side square)
    (apart : squares.Pairwise Apart) (validate : Bool) :
    ∃ (entry : Completion) (boards : List (List Int)),
      Runs.complete (.int side) (.list (squares.map Runs.squareValue)) .null validate = .ok entry ∧
        entry.squares = squares ∧ entry.restored = true ∧ boards.Nodup ∧
        (∀ board, board ∈ boards ↔
          board.length = side ∧ isValid board = true ∧ Runs.holdsAll board squares = true) ∧
        (squares.length ≠ side → entry.solutions = boards.length) ∧
        (squares.length = side → boards.length = 1 ∧ entry.solutions = 0) := by
  obtain ⟨web, follows, -⟩ := ofSize_follows inhabited .smallest
  obtain ⟨entry, completed, told, restored, counted⟩ :=
    complete_eq onBoard apart inhabited small validate
  refine ⟨entry, boardsWith side squares, completed, told, restored,
    boardsWith_nodup onBoard apart follows, mem_boardsWith_iff onBoard apart follows inhabited,
    fun room => ?_, fun full => ⟨length_boardsWith_of_full onBoard apart follows full, ?_⟩⟩
  · rw [counted, if_neg room]
  · rw [counted, if_pos full]

/-- On the board of side 4, one board has its first two queens on the second and the last rank. -/
theorem complete_counts_four :
    ∃ (entry : Completion) (boards : List (List Int)),
      Runs.complete (.int (4 : Nat)) (.list ([(1, 0), (3, 1)].map Runs.squareValue)) .null true =
          .ok entry ∧
        entry.restored = true ∧ [1, 3, 0, 2] ∈ boards ∧ [2, 0, 3, 1] ∉ boards ∧
        entry.solutions = boards.length := by
  obtain ⟨entry, boards, completed, -, restored, -, complete, counted, -⟩ :=
    @complete_counts 4 (by decide) (by decide) [(1, 0), (3, 1)] (by decide)
      (List.pairwise_pair.2 (by decide)) true
  refine ⟨entry, boards, completed, restored, ?_, ?_, counted (by decide)⟩
  · exact (complete _).2 (by decide)
  · rw [complete]
    decide

/-- With queens on all squares of a valid board nothing is counted, though that board holds them all. -/
theorem complete_counts_none_of_full :
    ∃ entry : Completion,
      Runs.complete (.int (4 : Nat)) (.list ([(1, 0), (3, 1), (0, 2), (2, 3)].map Runs.squareValue))
          .null false = .ok entry ∧
        entry.solutions = 0 ∧ [1, 3, 0, 2].length = 4 ∧ isValid [1, 3, 0, 2] = true ∧
        Runs.holdsAll [1, 3, 0, 2] [(1, 0), (3, 1), (0, 2), (2, 3)] = true := by
  obtain ⟨entry, completed, -, -, counted⟩ :=
    @complete_eq 4 [(1, 0), (3, 1), (0, 2), (2, 3)] (by decide) (by decide) (by decide) (by decide)
      false
  exact ⟨entry, completed, counted, rfl, by decide, by decide⟩

end QueensProblem

end ExactCover
