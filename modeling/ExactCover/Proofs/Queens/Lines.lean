import ExactCover.Proofs.Build.Names
import ExactCover.Proofs.Build.ReadingBack
import ExactCover.Proofs.Queens.Squares

/-!
# The lines of a board

The problem of a board has a column for every line of the board, with a number that is told by the line
(`Line.column`) and the name of the line. The ranks and files stand on the ring of the root, and the
diagonals and antidiagonals on a ring of their own. Each square has a record for every line through it,
so walking down the column of a line visits the squares on the line (`filter_steps_line`), and going round
the row of a square names the lines through it.

The lines are found by their numbers in lists. No number is taken that is out of range: a diagonal is
numbered by the sum of rank and file, and an antidiagonal by a difference that is never negative on the
board (`fit_lines`). All of this is put together in `encodes_of_side`.
-/

set_option autoImplicit false

namespace ExactCover.QueensProblem

open Board

/-- A line of a board, by its kind and its number. -/
inductive Line where
  | rank (number : Nat)
  | file (number : Nat)
  | diagonal (number : Nat)
  | antidiagonal (number : Nat)
deriving DecidableEq

namespace Line

/-- The name of a line. -/
def name : Line → String
  | .rank number => "R" ++ toString number
  | .file number => "F" ++ toString number
  | .diagonal number => "A" ++ toString number
  | .antidiagonal number => "B" ++ toString number

/-- The number of the column that stands for a line. -/
def column (side : Nat) : Line → Nat
  | .rank number => 1 + number
  | .file number => side + 1 + number
  | .diagonal number => 2 * side + 1 + number
  | .antidiagonal number => 4 * side + number

/-- The link to the column that stands for a line. -/
def header (side : Nat) (line : Line) : Link := .record (line.column side : Nat)

/-- Whether a square is on a line. -/
def holds (side : Nat) (line : Line) (square : Nat × Nat) : Bool :=
  match line with
  | .rank number => square.1 == number
  | .file number => square.2 == number
  | .diagonal number => square.1 + square.2 == number
  | .antidiagonal number => (side : Int) - 1 - square.1 + square.2 == number

end Line

/-- The ranks and files of a board, in the order in which their columns are made. -/
def straightLines (side : Nat) : List Line :=
  (List.range side).map .rank ++ (List.range side).map .file

/-- The diagonals and antidiagonals of a board. -/
def slantedLines (side : Nat) : List Line :=
  (List.range (2 * side - 1)).map .diagonal ++ (List.range (2 * side - 1)).map .antidiagonal

/-- All lines of a board. -/
def allLines (side : Nat) : List Line := straightLines side ++ slantedLines side

/-- The lines through a square. -/
def linesThrough (side : Nat) (square : Nat × Nat) : List Line :=
  [.rank square.1, .file square.2, .diagonal (square.1 + square.2),
    .antidiagonal (side - 1 - square.1 + square.2)]

variable {side : Nat}

theorem mem_allLines {line : Line} :
    line ∈ allLines side ↔
      match line with
      | .rank number | .file number => number < side
      | .diagonal number | .antidiagonal number => number < 2 * side - 1 := by
  cases line <;> simp [allLines, straightLines, slantedLines]

theorem length_allLines (side : Nat) : (allLines side).length = 6 * side - 2 := by
  simp only [allLines, straightLines, slantedLines, List.length_append, List.length_map,
    List.length_range]
  omega

/-- The columns of the straight lines are the first ones. -/
theorem map_column_straightLines (side : Nat) :
    (straightLines side).map (Line.column side) = List.range' 1 (2 * side) := by
  have twice : 2 * side = side + side := by omega
  rw [straightLines, List.map_append, List.map_map, List.map_map, twice, ← List.range'_append_1,
    Nat.add_comm 1 side, List.range'_eq_map_range, List.range'_eq_map_range]
  rfl

/-- **The columns of the lines** are numbered from 1 on. -/
theorem map_column_allLines (inhabited : 0 < side) :
    (allLines side).map (Line.column side) = List.range' 1 (6 * side - 2) := by
  have slanted : (slantedLines side).map (Line.column side) =
      List.range' (2 * side + 1) (4 * side - 2) := by
    have twice : 4 * side - 2 = (2 * side - 1) + (2 * side - 1) := by omega
    have next : 2 * side + 1 + (2 * side - 1) = 4 * side := by omega
    rw [slantedLines, List.map_append, List.map_map, List.map_map, twice, ← List.range'_append_1, next,
      List.range'_eq_map_range, List.range'_eq_map_range]
    rfl
  have whole : 6 * side - 2 = 2 * side + (4 * side - 2) := by omega
  rw [allLines, List.map_append, map_column_straightLines, slanted, whole, ← List.range'_append_1,
    Nat.add_comm 1]

/-- A board with a line has a square. -/
theorem inhabited_of_mem_allLines {line : Line} (isLine : line ∈ allLines side) : 0 < side := by
  by_contra none
  obtain rfl : side = 0 := by omega
  cases isLine

/-- Different lines have different columns. -/
theorem column_injective {one other : Line} (isOne : one ∈ allLines side) (isOther : other ∈ allLines side)
    (same : one.column side = other.column side) : one = other := by
  have apart : ((allLines side).map (Line.column side)).Nodup := by
    rw [map_column_allLines (inhabited_of_mem_allLines isOne)]
    exact List.nodup_range'
  exact List.inj_on_of_nodup_map apart isOne isOther same

/-! ## Squares on lines -/

section

variable {square : Nat × Nat} (onRank : square.1 < side)
include onRank

/-- **The lines through a square** are those that hold it. -/
theorem mem_linesThrough_iff {line : Line} :
    line ∈ linesThrough side square ↔ line.holds side square = true := by
  cases line with
  | rank number => simp [linesThrough, Line.holds, @eq_comm _ number]
  | file number => simp [linesThrough, Line.holds, @eq_comm _ number]
  | diagonal number => simp [linesThrough, Line.holds, @eq_comm _ number]
  | antidiagonal number =>
      simp only [linesThrough, Line.holds, List.mem_cons, reduceCtorEq, Line.antidiagonal.injEq,
        List.not_mem_nil, or_false, false_or, beq_iff_eq]
      omega

/-- The lines through a square on the board are lines of the board. -/
theorem mem_allLines_of_linesThrough (onFile : square.2 < side) {line : Line}
    (through : line ∈ linesThrough side square) : line ∈ allLines side := by
  rw [mem_allLines]
  rw [mem_linesThrough_iff onRank] at through
  cases line with
  | rank number => exact beq_iff_eq.1 through ▸ onRank
  | file number => exact beq_iff_eq.1 through ▸ onFile
  | diagonal number =>
      have sum : square.1 + square.2 = number := beq_iff_eq.1 through
      dsimp only
      omega
  | antidiagonal number =>
      have difference : (side : Int) - 1 - square.1 + square.2 = number := beq_iff_eq.1 through
      dsimp only
      omega

end

theorem linesThrough_nodup (side : Nat) (square : Nat × Nat) : (linesThrough side square).Nodup := by
  simp [linesThrough]

/-- The steps of a square are made on the lines through it. -/
theorem stepsOf_eq (side square : Nat) :
    stepsOf side square =
      (linesThrough side (square / side, square % side)).map fun line => (square, line.column side) :=
  rfl

/-- A square has one step on a line or none. -/
theorem filter_stepsOf {square : Nat} (inside : square < side * side) {line : Line}
    (isLine : line ∈ allLines side) :
    (stepsOf side square).filter (·.2 == line.column side) =
      if line.holds side (square / side, square % side) then [(square, line.column side)] else [] := by
  obtain ⟨onRank, onFile⟩ := coordinates_lt inside
  have through := @mem_linesThrough_iff side (square / side, square % side) onRank line
  have own : ∀ other ∈ linesThrough side (square / side, square % side),
      (other.column side == line.column side) = (other == line) := by
    intro other isOwn
    have isOther := mem_allLines_of_linesThrough onRank onFile isOwn
    rw [Bool.eq_iff_iff, beq_iff_eq, beq_iff_eq]
    exact ⟨column_injective isOther isLine, congrArg (Line.column side)⟩
  rw [stepsOf_eq, List.filter_map, Function.comp_def]
  simp only
  rw [List.filter_congr own, List.filter_beq, (linesThrough_nodup _ _).count]
  simp only [through]
  split <;> rfl

/-- **The steps on a line** are those of the squares on it, rank by rank. -/
theorem filter_steps_line {line : Line} (isLine : line ∈ allLines side) :
    (((plan side).steps.filter (·.2 == line.column side)).map Prod.fst).map
        (fun square => (square / side, square % side)) =
      (squares side).filter (line.holds side) := by
  have parts : (List.range (side * side)).flatMap
        (fun square => (stepsOf side square).filter (·.2 == line.column side)) =
      (List.range (side * side)).flatMap fun square =>
        if line.holds side (square / side, square % side) then [(square, line.column side)] else [] :=
    List.flatMap_congr fun square inside => filter_stepsOf (List.mem_range.1 inside) isLine
  rw [plan, List.filter_flatMap, parts, flatMap_ite, squares_eq, List.filter_map, List.map_map,
    List.map_map]
  rfl

/-- **The steps of a square** are made on the lines through it. -/
theorem filter_steps_square {square : Nat} (inside : square < side * side) :
    ((plan side).steps.filter (·.1 == square)).map Prod.snd =
      (linesThrough side (square / side, square % side)).map (Line.column side) := by
  have own : (stepsOf side square).filter (·.1 == square) = stepsOf side square :=
    List.filter_eq_self.2 fun step isStep => by simpa using (mem_stepsOf.1 isStep).1
  have others : ∀ other ∈ List.range (side * side), other ≠ square →
      (stepsOf side other).filter (·.1 == square) = [] := by
    intro other _ different
    refine List.filter_eq_nil_iff.2 fun step isStep => ?_
    rw [(mem_stepsOf.1 isStep).1, beq_iff_eq]
    exact different
  rw [plan, List.filter_flatMap, flatMap_eq_of_only List.nodup_range (List.mem_range.2 inside) others,
    own, stepsOf_eq, List.map_map]
  rfl

/-! ## The names of the lines -/

theorem adds_addColumns (letter : String) (last : Option Link) (indices : List Nat) :
    Adds Problem.names (indices.map fun index => some (.text (letter ++ toString index)))
      (addColumns letter last indices) := by
  have adds := Problem.adds_addColumns last
    (indices.map fun index => .text (letter ++ toString index))
  rw [List.map_map] at adds
  rw [addColumns_eq]
  exact adds

theorem adds_addRecord (header : Link) : Adds Arena.names [none] (addRecord header) :=
  Arena.adds_newNode.bind fun node => Arena.adds_append header node

theorem adds_addSquare (lines : Lines) (rank file : Nat) :
    Adds Arena.names (List.replicate 4 none) (addSquare side lines rank file) := by
  refine (adds_addRecord _).bind fun onRank => ?_
  refine (adds_addRecord _).bind fun onFile => (Arena.adds_insert _ _).then fun _ => ?_
  refine (adds_addRecord _).bind fun onDiagonal => (Arena.adds_insert _ _).then fun _ => ?_
  refine (adds_addRecord _).bind fun onAntidiagonal => (Arena.adds_insert _ _).then fun _ => ?_
  exact adds_pure ()

theorem adds_addSquares (lines : Lines) (squares : List (Nat × Nat)) :
    Adds Arena.names (squares.flatMap fun _ => List.replicate 4 none)
      (squares.forM fun square => addSquare side lines square.1 square.2) := by
  induction squares with
  | nil => exact adds_pure ()
  | cons square squares ih =>
      rw [List.flatMap_cons]
      exact (adds_addSquare lines square.1 square.2).bind fun _ => ih

/-- **The columns of a board are named** after its lines, and its squares have no names. -/
theorem names_build {policy : Policy} {problem : Problem}
    (built : build side (Problem.empty policy) = .ok () problem) :
    problem.names = some .null :: (allLines side).map (fun line => some (.text line.name)) ++
      List.replicate (4 * side ^ 2) none := by
  have lines : Adds Problem.names ((allLines side).map fun line => some (.text line.name))
      (addLines side) := by
    have parts := (adds_addColumns "R" (some root) (List.range side)).bind fun ranks =>
      (adds_addColumns "F" ranks.getLast? (List.range side)).bind fun files =>
        (adds_addColumns "A" none (List.range (2 * side - 1))).bind fun diagonals =>
          (adds_addColumns "B" diagonals.getLast? (List.range (2 * side - 1))).bind
            fun antidiagonals => adds_pure (⟨ranks, files, diagonals, antidiagonals⟩ : Lines)
    simp only [allLines, straightLines, slantedLines, List.map_append, List.map_map,
      List.append_assoc]
    rwa [List.append_nil] at parts
  have records : (squares side).flatMap (fun _ => List.replicate 4 (none : Option Value)) =
      List.replicate (4 * side ^ 2) none := by
    refine List.eq_replicate_iff.2 ⟨?_, fun record inside => ?_⟩
    · simp [List.length_flatMap, squares_eq, Nat.pow_two, Nat.mul_comm, Function.comp_def]
    · obtain ⟨_, -, here⟩ := List.mem_flatMap.1 inside
      exact List.eq_of_mem_replicate here
  have whole := (lines.bind fun lines => Problem.adds_links (adds_addSquares lines (squares side)))
    _ _ _ built
  rw [records] at whole
  exact whole

/-- The column of a line has the name of the line. -/
theorem columnName_line {policy : Policy} {problem : Problem}
    (built : build side (Problem.empty policy) = .ok () problem) {line : Line}
    (isLine : line ∈ allLines side) :
    problem.arena.columnName (line.header side) = .ok (.text line.name) := by
  have inhabited := inhabited_of_mem_allLines isLine
  obtain ⟨index, found⟩ := List.mem_iff_getElem?.1 isLine
  have column : line.column side = 1 + index := by
    have place := congrArg (fun columns : List Nat => columns[index]?) (map_column_allLines inhabited)
    obtain ⟨inside, -⟩ := List.getElem?_eq_some_iff.1 found
    rw [length_allLines] at inside
    simpa [found, inside] using place
  apply Arena.columnName_of_names
  change problem.names[line.column side]? = _
  rw [names_build built, column, Nat.add_comm, List.cons_append, List.getElem?_cons_succ,
    List.getElem?_append_left (by simpa using (List.getElem?_eq_some_iff.1 found).1)]
  simp [found]

/-! ## Numbers in range -/

theorem mem_squares {square : Nat × Nat} : square ∈ squares side ↔ square.1 < side ∧ square.2 < side := by
  simp [squares, Prod.ext_iff]

/-- The columns that were made are found by the numbers of the lines through each square, and no number
is out of range. -/
structure Lines.Fit (lines : Lines) (side : Nat) : Prop where
  rank : ∀ square ∈ squares side, lines.ranks[square.1]? = some ((Line.rank square.1).header side)
  file : ∀ square ∈ squares side, lines.files[square.2]? = some ((Line.file square.2).header side)
  diagonal : ∀ square ∈ squares side, square.1 + square.2 ≤ 2 * side - 2 ∧
    lines.diagonals[square.1 + square.2]? =
      some ((Line.diagonal (square.1 + square.2)).header side)
  /-- The number of an antidiagonal is not cut off at zero. -/
  antidiagonal : ∀ square ∈ squares side,
    ((side - 1 - square.1 + square.2 : Nat) : Int) = side - 1 - square.1 + square.2 ∧
      side - 1 - square.1 + square.2 ≤ 2 * side - 2 ∧
      lines.antidiagonals[side - 1 - square.1 + square.2]? =
        some ((Line.antidiagonal (side - 1 - square.1 + square.2)).header side)

theorem getElem?_columnsFrom {first count index : Nat} (inside : index < count) :
    (columnsFrom first count)[index]? = some (.record (first + index : Nat)) := by
  simp [columnsFrom, inside]

/-- **The numbers of lines are in range.** -/
theorem fit_lines (side : Nat) : (lines side).Fit side := by
  constructor
  · intro square inside
    exact getElem?_columnsFrom (mem_squares.1 inside).1
  · intro square inside
    exact getElem?_columnsFrom (mem_squares.1 inside).2
  · intro square inside
    obtain ⟨onRank, onFile⟩ := mem_squares.1 inside
    exact ⟨by omega, getElem?_columnsFrom (by omega)⟩
  · intro square inside
    obtain ⟨onRank, onFile⟩ := mem_squares.1 inside
    exact ⟨by omega, by omega, getElem?_columnsFrom (by omega)⟩

/-! ## What the arena tells -/

/-- The arena of a board tells its lines and its squares. -/
structure Encodes (queens : QueensProblem) (side : Nat) : Prop where
  /-- Beside the root there are so many columns. -/
  columns : queens.problem.arena.nodes.toList.countP (·.header.isSome) = 1 + (6 * side - 2)
  /-- There are four records for each square. -/
  records : queens.problem.arena.nodes.toList.countP (·.header.isNone) = 4 * side ^ 2
  /-- The ranks and then the files are on the ring of the root. -/
  active : queens.problem.arena.activeHeaders = .ok ((straightLines side).map (Line.header side))
  /-- No diagonal and no antidiagonal is. -/
  detached : ∀ line ∈ slantedLines side,
    line.header side ∉ (straightLines side).map (Line.header side)
  named : ∀ line ∈ allLines side,
    queens.problem.arena.columnName (line.header side) = .ok (.text line.name)
  /-- Walking down the column of a line visits the squares on the line, rank by rank. -/
  walk : ∀ line ∈ allLines side, ∃ walk,
    queens.problem.arena.column (line.header side) = .ok walk ∧
      walk.mapM queens.placement = .ok ((squares side).filter (line.holds side))
  /-- The records that have a square are those that are no columns. -/
  defined : ∀ place : Int, (∃ square, queens.placement (.record place) = .ok square) ↔
    queens.problem.arena.IsRowRecord place
  /-- The row of a square holds the records of the square, and each of them names the lines through the
  square, from its own line on. -/
  row : ∀ square ∈ squares side, ∃ node members,
    queens.cell (.int square.1) (.int square.2) = .ok node ∧
      queens.problem.arena.row node = .ok members ∧ node ∈ members ∧
      (∀ place : Int, .record place ∈ members ↔ queens.placement (.record place) = .ok square) ∧
      ∀ member ∈ members, queens.placement member = .ok square ∧
        ∃ names, queens.problem.arena.rowNames member = .ok names ∧
          names.IsRotated ((linesThrough side square).map fun line => .text line.name)

/-- A square is told by its coordinates. -/
theorem coordinates_injective (side : Nat) :
    Function.Injective fun square : Nat => (square / side, square % side) := by
  intro square other same
  obtain ⟨rank, file⟩ := Prod.mk.inj same
  rw [← Nat.div_add_mod square side, rank, file, Nat.div_add_mod]

/-- **The squares of records** are told by the plan. -/
theorem placement_tells (queens : QueensProblem) :
    (plan queens.side).Tells queens.placement
      fun square => (square / queens.side, square % queens.side) := by
  intro place square
  constructor
  · intro reads
    have found : squareOf? queens.side place = some square := by
      simp only [placement, Link.toValue, Key.ofValue, Key.integer?, Key.number?, Except.mapError,
        bind, Except.bind, Option.bind_some] at reads
      split at reads
      · rename_i same
        rw [same, Except.ok.inj reads]
      · cases reads
    simp only [squareOf?] at found
    split at found
    · rename_i bounds
      have base : firstRecord queens.side = (plan queens.side).base := rfl
      have count : ((plan queens.side).steps.length : Int) = 4 * queens.side * queens.side := by
        rw [length_steps, Nat.cast_mul, Nat.cast_mul, mul_assoc]
        rfl
      rw [← count, base] at bounds
      obtain ⟨node, rfl⟩ := Int.eq_ofNat_of_zero_le (a := place) (by omega)
      have isNode : node ∈ (plan queens.side).layout.nodes := Plan.mem_nodes_iff.2 ⟨by omega, by omega⟩
      obtain ⟨late, early⟩ := Plan.bounds_of_node isNode
      exact ⟨node, isNode, rfl, Except.ok.inj ((placement_record late early).symm.trans reads)⟩
    · cases found
  · rintro ⟨node, isNode, rfl, rfl⟩
    obtain ⟨late, early⟩ := Plan.bounds_of_node isNode
    exact placement_record late early

/-- The squares are numbered by the rows of their records. -/
theorem rowAt_lt {node : Nat} (isNode : node ∈ (plan side).layout.nodes) :
    (plan side).rowAt node < side * side := by
  obtain ⟨late, early⟩ := Plan.bounds_of_node isNode
  rw [rowAt_eq late early]
  rw [length_steps] at early
  omega

section

variable {web : Web} (follows : web.Follows (plan side)) {policy : Policy}
  (built : build side (Problem.empty policy) = .ok () ⟨web.arena 0, policy, 2 * side⟩)

include built in
/-- There are so many columns and so many other records. -/
theorem countP_header (keep : Bool → Bool) :
    (web.arena 0).nodes.toList.countP (fun node => keep node.header.isSome) =
      (if keep true then 1 + (6 * side - 2) else 0) + if keep false then 4 * side ^ 2 else 0 := by
  have names : (web.arena 0).names = _ := names_build built
  rw [← Arena.countP_names, names]
  simp only [List.countP_append, List.countP_cons, List.countP_map, List.countP_replicate,
    Function.comp_def, Option.isSome_some, Option.isSome_none]
  by_cases counts : keep true = true <;> simp [counts, length_allLines, Nat.add_comm]

include follows

/-- Walking down the column of a line. -/
theorem column_line {queens : QueensProblem} (isSide : queens.side = side) {line : Line}
    (isLine : line ∈ allLines side) :
    ∃ walk, (web.arena 0).column (line.header side) = .ok walk ∧
      walk.mapM queens.placement = .ok ((squares side).filter (line.holds side)) := by
  subst isSide
  have isColumn : line.column queens.side ∈ (plan queens.side).frame.columns := by
    have place : line.column queens.side ∈ List.range' 1 (6 * queens.side - 2) := by
      rw [← map_column_allLines (inhabited_of_mem_allLines isLine)]
      exact List.mem_map.2 ⟨line, isLine, rfl⟩
    rw [List.mem_range'_1] at place
    simp only [Frame.columns, Plan.frame, plan, List.flatten_singleton, List.mem_append,
      List.mem_range'_1]
    omega
  obtain ⟨walk, walked, reads, -⟩ :=
    (placement_tells queens).column follows (steps_nodup _) 0 isColumn
  rw [filter_steps_line isLine] at reads
  exact ⟨walk, walked, reads⟩

include built

/-- The names that are met on the way round a row. -/
theorem rowNames_record {node : Nat} (isNode : node ∈ (plan side).layout.nodes) :
    ∃ names, (web.arena 0).rowNames (.record node) = .ok names ∧
      names.IsRotated ((linesThrough side
        ((plan side).rowAt node / side, (plan side).rowAt node % side)).map
          fun line => .text line.name) := by
  have proper := (plan side).proper follows (steps_nodup side)
  have shown := follows.shows
  have inside := rowAt_lt isNode
  obtain ⟨onRank, onFile⟩ := coordinates_lt inside
  have columns := Plan.columns_follows follows isNode
  rw [filter_steps_square inside] at columns
  refine ⟨_, @Layout.rowNames_web _ web [] proper shown Layout.isTrail_nil node isNode 0, ?_⟩
  have named : ((linesThrough side
        ((plan side).rowAt node / side, (plan side).rowAt node % side)).map (Line.column side)).map
          web.nameOf =
      (linesThrough side ((plan side).rowAt node / side, (plan side).rowAt node % side)).map
        fun line => .text line.name := by
    rw [List.map_map]
    refine List.map_congr_left fun line through => ?_
    have own := columns.mem_iff.2 (List.mem_map.2 ⟨line, through, rfl⟩)
    obtain ⟨member, inRow, same⟩ := (shown.sound.mem_columnsOf isNode).1 own
    have isMember := shown.sound.node_of_mem_rowOf isNode inRow
    have read := @Layout.columnName_web _ web [] proper shown Layout.isTrail_nil member isMember 0
    rw [same] at read
    exact Except.ok.inj (read.symm.trans
      (columnName_line built (mem_allLines_of_linesThrough onRank onFile through)))
  rw [← named]
  exact columns.map web.nameOf

/-- Going round the row of a square. -/
theorem row_square {queens : QueensProblem} (isSide : queens.side = side) {rank file : Nat}
    (onRank : rank < side) (onFile : file < side) :
    ∃ others, (web.arena 0).row (.record (recordOf side rank file)) =
        .ok (.record (recordOf side rank file) :: others) ∧
      (∀ place : Int, .record place ∈ Link.record (recordOf side rank file) :: others ↔
        queens.placement (.record place) = .ok (rank, file)) ∧
      ∀ member ∈ Link.record (recordOf side rank file) :: others,
        queens.placement member = .ok (rank, file) ∧
          ∃ names, (web.arena 0).rowNames member = .ok names ∧
            names.IsRotated ((linesThrough side (rank, file)).map fun line => .text line.name) := by
  subst isSide
  have onBoard : OnBoard queens.side ((rank : Int), (file : Int)) :=
    ⟨⟨by omega, by omega⟩, ⟨by omega, by omega⟩⟩
  have isNode : recordOf queens.side rank file ∈ (plan queens.side).layout.nodes :=
    recordAt_mem_nodes onBoard
  have number : (plan queens.side).rowAt (recordOf queens.side rank file) =
      rank * queens.side + file := rowAt_recordAt onBoard
  obtain ⟨ownRank, ownFile⟩ := @coordinates_eq queens.side rank file onFile
  obtain ⟨others, row, members, nodes⟩ := (placement_tells queens).row follows (steps_nodup _) 0
    (coordinates_injective queens.side) isNode
  simp only [number, ownRank, ownFile] at members nodes
  refine ⟨others, row, members, fun link isMember => ?_⟩
  obtain ⟨member, isRecord, rfl, sameRow⟩ := nodes link isMember
  have named := rowNames_record follows built isRecord
  rw [sameRow, ownRank, ownFile] at named
  exact ⟨(members member).1 isMember, named⟩

/-- **The arena that is built** tells the lines and the squares of the board. -/
theorem encodes_of_build :
    (⟨⟨web.arena 0, policy, 2 * side⟩, side, .int side⟩ : QueensProblem).Encodes side := by
  have once := steps_nodup side
  refine ⟨countP_header built id, ?_, ?_, ?_, fun line isLine => columnName_line built isLine,
    fun line isLine => column_line follows rfl isLine,
    (placement_tells ⟨⟨web.arena 0, policy, 2 * side⟩, side, .int side⟩).exists_read_iff follows once 0,
    fun square inside => ?_⟩
  · have data := countP_header built not
    simpa [Option.not_isSome] using data
  · have primary : linksTo (plan side).primary = (straightLines side).map (Line.header side) := by
      change linksTo (List.range' 1 (2 * side)) = _
      rw [← map_column_straightLines, linksTo, List.map_map]
      rfl
    rw [← primary]
    exact Plan.activeHeaders_follows follows once 0
  · intro line isSlanted inside
    obtain ⟨other, isStraight, same⟩ := List.mem_map.1 inside
    have column : other.column side = line.column side := Int.ofNat.inj (Link.record.inj same)
    obtain rfl := column_injective (List.mem_append_left _ isStraight)
      (List.mem_append_right _ isSlanted) column
    cases other <;> simp [straightLines, slantedLines] at isStraight isSlanted
  · obtain ⟨rank, file⟩ := square
    obtain ⟨onRank, onFile⟩ := mem_squares.1 inside
    have onBoard : OnBoard side ((rank : Int), (file : Int)) :=
      ⟨⟨by omega, by omega⟩, ⟨by omega, by omega⟩⟩
    obtain ⟨others, row, members, named⟩ := @row_square side web follows policy built
      ⟨⟨web.arena 0, policy, 2 * side⟩, side, .int side⟩ rfl rank file onRank onFile
    exact ⟨_, _, cell_eq onBoard _, row, List.mem_cons_self, members, named⟩

end

/-- **A board of any positive size is encoded by its lines.** All numbers by which the columns of lines are
looked up are in range, and the arena that is built tells the lines and the squares. -/
theorem encodes_of_side (inhabited : 1 ≤ side) (policy : Policy) :
    ∃ (queens : QueensProblem) (lines : Lines) (between : Problem),
      ofSize (.int side) policy = .ok queens ∧
        addLines side (Problem.empty policy) = .ok lines between ∧ lines.Fit side ∧
        queens.Encodes side := by
  obtain ⟨web, follows, built⟩ := build_follows inhabited policy
  obtain ⟨between, -, -, made⟩ := addLines_bears inhabited policy
  exact ⟨_, _, _, ofSize_of_build inhabited built, made, fit_lines side, encodes_of_build follows built⟩

/-- The board of side 4 has 22 columns and 64 other records. Its third diagonal and its third
antidiagonal, which are the longest ones, hold four squares each, and the records of the square on rank 1
and file 2 name the lines through it. -/
theorem encodes_of_side_four :
    ∃ queens : QueensProblem, ofSize (.int (4 : Nat)) .smallest = .ok queens ∧
      queens.problem.arena.nodes.toList.countP (·.header.isSome) = 1 + 22 ∧
      queens.problem.arena.nodes.toList.countP (·.header.isNone) = 64 ∧
      (∃ walk, queens.problem.arena.column ((Line.diagonal 3).header 4) = .ok walk ∧
        walk.mapM queens.placement = .ok [(0, 3), (1, 2), (2, 1), (3, 0)]) ∧
      (∃ walk, queens.problem.arena.column ((Line.antidiagonal 3).header 4) = .ok walk ∧
        walk.mapM queens.placement = .ok [(0, 0), (1, 1), (2, 2), (3, 3)]) ∧
      ∃ node members, queens.cell (.int 1) (.int 2) = .ok node ∧
        queens.problem.arena.row node = .ok members ∧ node ∈ members ∧
        ∀ member ∈ members, queens.placement member = .ok (1, 2) ∧
          ∃ names, queens.problem.arena.rowNames member = .ok names ∧
            names.IsRotated [.text "R1", .text "F2", .text "A3", .text "B4"] := by
  obtain ⟨queens, -, -, made, -, -, encodes⟩ := encodes_of_side (by decide : 1 ≤ 4) .smallest
  obtain ⟨node, members, isCell, row, inside, -, named⟩ := encodes.row (1, 2) (by decide)
  exact ⟨queens, made, encodes.columns, encodes.records, encodes.walk (.diagonal 3) (by decide),
    encodes.walk (.antidiagonal 3) (by decide), node, members, isCell, row, inside, named⟩

end ExactCover.QueensProblem
