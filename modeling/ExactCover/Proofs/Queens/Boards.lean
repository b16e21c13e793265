import Mathlib.Data.Finset.Card
import ExactCover.Proofs.Queens.Attacks
import ExactCover.Proofs.Queens.Building
import ExactCover.Proofs.Search.Selection

/-!
# Boards of queens

The solutions of the problem of a board are the boards on which no queen attacks another. A selection
of squares for the plan of the board has one square on each file, so it is told by the rank on each
file, and such squares are a selection if and only if their queens are peaceful
(`isSelection_squaresOf`). Reading a solution as a board gives these ranks, so every valid board is
read off exactly once and nothing else is (`solutions_boards`).
-/

set_option autoImplicit false

namespace ExactCover

namespace QueensProblem

open Board

/-! ## Squares told by ranks -/

/-- The squares with a queen if the rank on each file is told by a function. -/
def squaresOf (side : Nat) (rankOn : Nat → Nat) : Finset Nat :=
  (Finset.range side).image fun file => rankOn file * side + file

theorem coordinates_eq {side rank file : Nat} (onFile : file < side) :
    (rank * side + file) / side = rank ∧ (rank * side + file) % side = file := by
  have inhabited : 0 < side := by omega
  rw [Nat.mul_comm, Nat.mul_add_div inhabited, Nat.div_eq_of_lt onFile, Nat.mul_add_mod,
    Nat.mod_eq_of_lt onFile, Nat.add_zero]
  exact ⟨rfl, rfl⟩

theorem file_eq_of_square_eq {side : Nat} {rankOn : Nat → Nat} {one other : Nat}
    (onOne : one < side) (onOther : other < side)
    (same : rankOn one * side + one = rankOn other * side + other) : one = other := by
  have files := congrArg (· % side) same
  simpa only [(coordinates_eq onOne).2, (coordinates_eq onOther).2] using files

theorem square_lt {side rank file : Nat} (onRank : rank < side) (onFile : file < side) :
    rank * side + file < side * side := by
  have below : (rank + 1) * side ≤ side * side := Nat.mul_le_mul_right side onRank
  rw [Nat.succ_mul] at below
  omega

theorem mem_squaresOf {side square : Nat} {rankOn : Nat → Nat} :
    square ∈ squaresOf side rankOn ↔ ∃ file < side, square = rankOn file * side + file := by
  simp only [squaresOf, Finset.mem_image, Finset.mem_range]
  constructor
  · rintro ⟨file, onFile, rfl⟩
    exact ⟨file, onFile, rfl⟩
  · rintro ⟨file, onFile, rfl⟩
    exact ⟨file, onFile, rfl⟩

/-- There is a square for each file. -/
theorem card_squaresOf (side : Nat) (rankOn : Nat → Nat) : (squaresOf side rankOn).card = side := by
  rw [squaresOf, Finset.card_image_of_injOn, Finset.card_range]
  intro one isOne other isOther same
  have onOne : one < side := by simpa using isOne
  have onOther : other < side := by simpa using isOther
  exact file_eq_of_square_eq onOne onOther same

/-- The squares with a queen on a board. -/
def squaresOn (side : Nat) (board : List Int) : Finset Nat :=
  squaresOf side fun file => (board.getD file 0).toNat

theorem squaresOn_ofRanks (side : Nat) (rankOn : Nat → Nat) :
    squaresOn side (ofRanks side rankOn) = squaresOf side rankOn := by
  apply Finset.image_congr
  intro file onFile
  have onFile : file < side := by simpa using onFile
  simp [ofRanks, onFile]

/-! ## Selections of squares -/

section

variable {side : Nat} {rankOn : Nat → Nat} (onBoard : ∀ file < side, rankOn file < side)
include onBoard

/-- The columns of the queen on a file. -/
theorem mem_steps_of_file {file column : Nat} (onFile : file < side) :
    (rankOn file * side + file, column) ∈ (plan side).steps ↔
      column = 1 + rankOn file ∨ column = side + 1 + file ∨
        column = 2 * side + 1 + (rankOn file + file) ∨
        column = 4 * side + (side - 1 - rankOn file + file) := by
  obtain ⟨rank, same⟩ := @coordinates_eq side (rankOn file) file onFile
  rw [mem_steps_iff, Crosses, rank, same, and_iff_right (square_lt (onBoard file onFile) onFile)]

/-- Queens on the squares of a selection are peaceful. -/
theorem peaceful_of_isSelection (selection : (plan side).IsSelection (squaresOf side rankOn)) :
    Peaceful side rankOn := by
  have isSquare : ∀ file < side, rankOn file * side + file ∈ squaresOf side rankOn :=
    fun file onFile => mem_squaresOf.2 ⟨file, onFile, rfl⟩
  have apart : ∀ one < side, ∀ other < side, ∀ column,
      2 * side + 1 ≤ column → column < 2 * side + 1 + (4 * side - 2) →
      (rankOn one * side + one, column) ∈ (plan side).steps →
      (rankOn other * side + other, column) ∈ (plan side).steps → one = other := by
    intro one onOne other onOther column first last inOne inOther
    have isSecondary : column ∈ (plan side).secondary.flatten := by
      simpa [plan, List.mem_range'_1] using ⟨first, last⟩
    exact file_eq_of_square_eq onOne onOther (selection.secondary column isSecondary _
      (isSquare one onOne) _ (isSquare other onOther) inOne inOther)
  constructor
  · intro one onOne other onOther same
    have rank := onBoard one onOne
    have isPrimary : 1 + rankOn one ∈ (plan side).primary :=
      List.mem_range'_1.2 ⟨by omega, by omega⟩
    have inOne := (mem_steps_of_file onBoard onOne).2 (.inl rfl)
    have inOther := (mem_steps_of_file onBoard onOther).2 (.inl (congrArg (1 + ·) same))
    exact file_eq_of_square_eq onOne onOther ((selection.primary _ isPrimary).unique
      ⟨isSquare one onOne, inOne⟩ ⟨isSquare other onOther, inOther⟩)
  · intro one onOne other onOther same
    have rank := onBoard one onOne
    have inOne := (mem_steps_of_file onBoard onOne).2 (.inr (.inr (.inl rfl)))
    have inOther := (mem_steps_of_file onBoard onOther).2 (.inr (.inr (.inl rfl)))
    rw [← same] at inOther
    exact apart one onOne other onOther _ (by omega) (by omega) inOne inOther
  · intro one onOne other onOther same
    have rank := onBoard one onOne
    have otherRank := onBoard other onOther
    have inOne := (mem_steps_of_file onBoard onOne).2 (.inr (.inr (.inr rfl)))
    have inOther := (mem_steps_of_file onBoard onOther).2 (.inr (.inr (.inr rfl)))
    have line : side - 1 - rankOn other + other = side - 1 - rankOn one + one := by omega
    rw [line] at inOther
    exact apart one onOne other onOther _ (by omega) (by omega) inOne inOther

/-- The squares of peaceful queens are a selection. -/
theorem isSelection_of_peaceful (peaceful : Peaceful side rankOn) :
    (plan side).IsSelection (squaresOf side rankOn) := by
  have isSquare : ∀ file < side, rankOn file * side + file ∈ squaresOf side rankOn :=
    fun file onFile => mem_squaresOf.2 ⟨file, onFile, rfl⟩
  constructor
  · intro square inside
    obtain ⟨file, onFile, rfl⟩ := mem_squaresOf.1 inside
    refine ⟨side + 1 + file, List.mem_range'_1.2 ⟨by omega, by omega⟩, ?_⟩
    exact (mem_steps_of_file onBoard onFile).2 (.inr (.inl rfl))
  · intro column isPrimary
    obtain ⟨first, last⟩ := List.mem_range'_1.1 isPrimary
    by_cases isRank : column < 1 + side
    · obtain ⟨file, onFile, same⟩ := @Peaceful.exists_file side rankOn peaceful onBoard (column - 1)
        (by omega)
      have isStep := (mem_steps_of_file onBoard onFile).2 (.inl (by omega : column = _))
      refine ⟨_, ⟨isSquare file onFile, isStep⟩, ?_⟩
      rintro _ ⟨inside, otherStep⟩
      obtain ⟨other, onOther, rfl⟩ := mem_squaresOf.1 inside
      have crosses := (mem_steps_of_file onBoard onOther).1 otherStep
      obtain rfl := peaceful.ranks other onOther file onFile (by omega)
      rfl
    · have onFile : column - (side + 1) < side := by omega
      have isStep := (mem_steps_of_file onBoard onFile).2 (.inr (.inl (by omega : column = _)))
      refine ⟨_, ⟨isSquare _ onFile, isStep⟩, ?_⟩
      rintro _ ⟨inside, otherStep⟩
      obtain ⟨other, onOther, rfl⟩ := mem_squaresOf.1 inside
      have crosses := (mem_steps_of_file onBoard onOther).1 otherStep
      have rank := onBoard other onOther
      obtain rfl : other = column - (side + 1) := by omega
      rfl
  · intro column isSecondary _ inOne _ inOther oneStep otherStep
    obtain ⟨one, onOne, rfl⟩ := mem_squaresOf.1 inOne
    obtain ⟨other, onOther, rfl⟩ := mem_squaresOf.1 inOther
    have late : 2 * side + 1 ≤ column := by
      simp only [plan, List.flatten_singleton, List.mem_range'_1] at isSecondary
      exact isSecondary.1
    have oneRank := onBoard one onOne
    have otherRank := onBoard other onOther
    have crossesOne := (mem_steps_of_file onBoard onOne).1 oneStep
    have crossesOther := (mem_steps_of_file onBoard onOther).1 otherStep
    have same : one = other := by
      by_cases diagonal : column < 4 * side
      · exact peaceful.diagonals one onOne other onOther (by omega)
      · exact peaceful.antidiagonals one onOne other onOther (by omega)
    rw [same]

/-- **Squares told by ranks are a selection if and only if their queens are peaceful.** -/
theorem isSelection_squaresOf :
    (plan side).IsSelection (squaresOf side rankOn) ↔ Peaceful side rankOn :=
  ⟨peaceful_of_isSelection onBoard, isSelection_of_peaceful onBoard⟩

end

/-- **A selection has one square on each file.** -/
theorem exists_squaresOf {side : Nat} {squares : Finset Nat}
    (selection : (plan side).IsSelection squares) :
    ∃ rankOn : Nat → Nat, (∀ file < side, rankOn file < side) ∧ squares = squaresOf side rankOn := by
  have inside : ∀ square ∈ squares, square < side * side := by
    intro square isChosen
    obtain ⟨column, -, isStep⟩ := selection.driven square isChosen
    exact (mem_steps_iff.1 isStep).1
  have onFile : ∀ file < side, ∃ square ∈ squares, square % side = file ∧
      ∀ other ∈ squares, other % side = file → other = square := by
    intro file isFile
    have isPrimary : side + 1 + file ∈ (plan side).primary :=
      List.mem_range'_1.2 ⟨by omega, by omega⟩
    obtain ⟨square, ⟨isChosen, isStep⟩, only⟩ := selection.primary _ isPrimary
    obtain ⟨isSquare, crosses⟩ := mem_steps_iff.1 isStep
    obtain ⟨rank, onFile⟩ := coordinates_lt isSquare
    refine ⟨square, isChosen, ?_, fun other otherChosen same => only other ⟨otherChosen, ?_⟩⟩
    · rw [Crosses] at crosses
      generalize square / side = rank at *
      generalize square % side = file at *
      omega
    · refine mem_steps_iff.2 ⟨inside other otherChosen, .inr (.inl ?_)⟩
      rw [same]
  choose! squareOn isChosen isFile only using onFile
  have rebuilt : ∀ file < side, squareOn file / side * side + file = squareOn file := by
    intro file onFile
    have whole := Nat.div_add_mod' (squareOn file) side
    rw [isFile file onFile] at whole
    exact whole
  refine ⟨fun file => squareOn file / side, fun file onFile => ?_, ?_⟩
  · exact (coordinates_lt (inside _ (isChosen file onFile))).1
  · ext square
    rw [mem_squaresOf]
    constructor
    · intro chosen
      have onFile := (coordinates_lt (inside square chosen)).2
      refine ⟨square % side, onFile, ?_⟩
      rw [rebuilt _ onFile]
      exact only _ onFile square chosen rfl
    · rintro ⟨file, onFile, rfl⟩
      rw [rebuilt file onFile]
      exact isChosen file onFile

/-! ## Reading solutions -/

/-- Puts queens on squares, one after the other. -/
def place (side : Nat) (squares : List Nat) (ranks : List Int) : List Int :=
  squares.foldl (fun ranks square => ranks.set (square % side) (square / side : Nat)) ranks

theorem place_cons (side square : Nat) (squares : List Nat) (ranks : List Int) :
    place side (square :: squares) ranks =
      place side squares (ranks.set (square % side) (square / side : Nat)) := rfl

theorem length_place (side : Nat) (squares : List Nat) (ranks : List Int) :
    (place side squares ranks).length = ranks.length := by
  induction squares generalizing ranks with
  | nil => rfl
  | cons square squares ih =>
      rw [place_cons, ih, List.length_set]

/-- The rank of a file is told by the squares on it, or else left as it is. -/
theorem getElem?_place {side file rank : Nat} {squares : List Nat} {ranks : List Int}
    (told : ∀ square ∈ squares, square % side = file → square / side = rank)
    (here : (∃ square ∈ squares, square % side = file) ∨ ranks[file]? = some (rank : Int))
    (inside : file < ranks.length) : (place side squares ranks)[file]? = some (rank : Int) := by
  induction squares generalizing ranks with
  | nil =>
      refine here.resolve_left ?_
      rintro ⟨_, none, -⟩
      cases none
  | cons square squares ih =>
      rw [place_cons]
      refine ih (fun other isOther => told other (List.mem_cons_of_mem _ isOther)) ?_
        (by rwa [List.length_set])
      by_cases same : square % side = file
      · right
        rw [same, told square List.mem_cons_self same]
        exact List.getElem?_set_self inside
      · rw [List.getElem?_set_ne same]
        refine here.imp_left ?_
        rintro ⟨other, isOther, onFile⟩
        rcases List.mem_cons.1 isOther with rfl | isOther
        · exact absurd onFile same
        · exact ⟨other, isOther, onFile⟩

/-- **Queens on the squares told by ranks** make up the board of these ranks. -/
theorem place_eq_ofRanks {side : Nat} {rankOn : Nat → Nat} {squares : List Nat}
    (same : squares.toFinset = squaresOf side rankOn) :
    place side squares (List.replicate side (-1)) = ofRanks side rankOn := by
  have isSquare : ∀ square, square ∈ squares ↔
      ∃ file < side, square = rankOn file * side + file := fun square => by
    rw [← List.mem_toFinset, same, mem_squaresOf]
  apply List.ext_getElem?
  intro file
  by_cases onFile : file < side
  · have found : (ofRanks side rankOn)[file]? = some (rankOn file : Int) := by
      simp [ofRanks, onFile]
    rw [found]
    refine getElem?_place (fun square isChosen isFile => ?_) (.inl ?_) (by simpa using onFile)
    · obtain ⟨other, onOther, rfl⟩ := (isSquare square).1 isChosen
      rw [(coordinates_eq onOther).2] at isFile
      rw [(coordinates_eq onOther).1, isFile]
    · exact ⟨_, (isSquare _).2 ⟨file, onFile, rfl⟩, (coordinates_eq onFile).2⟩
  · rw [List.getElem?_eq_none (by rw [length_place, List.length_replicate]; omega),
      List.getElem?_eq_none (by rw [length_ofRanks]; omega)]

/-- **A selection of squares makes up a board without attacks.** -/
theorem exists_ranks_of_isSelection {side : Nat} {squares : List Nat}
    (selection : (plan side).IsSelection squares.toFinset) :
    ∃ rankOn : Nat → Nat, (∀ file < side, rankOn file < side) ∧
      squares.toFinset = squaresOf side rankOn ∧ Peaceful side rankOn ∧
      place side squares (List.replicate side (-1)) = ofRanks side rankOn := by
  obtain ⟨rankOn, onBoard, same⟩ := exists_squaresOf selection
  rw [same, isSelection_squaresOf onBoard] at selection
  exact ⟨rankOn, onBoard, same, selection, place_eq_ofRanks same⟩

/-- The steps of the squares, one square after the other. -/
theorem getElem?_flatMap_stepsOf (side : Nat) {squares index : Nat} (inside : index < 4 * squares) :
    ((List.range squares).flatMap (stepsOf side))[index]? =
      (stepsOf side (index / 4))[index % 4]? := by
  have four : ∀ squares : Nat, ((List.range squares).flatMap (stepsOf side)).length = 4 * squares := by
    intro squares
    simp [List.length_flatMap, stepsOf, Nat.mul_comm]
  induction squares with
  | zero => omega
  | succ squares ih =>
      rw [List.range_succ, List.flatMap_append]
      by_cases early : index < 4 * squares
      · rw [List.getElem?_append_left (by rw [four]; exact early)]
        exact ih early
      · have square : index / 4 = squares := by omega
        have place : index - 4 * squares = index % 4 := by omega
        rw [List.getElem?_append_right (by rw [four]; omega), four, List.flatMap_singleton, square,
          place]

theorem length_steps (side : Nat) : (plan side).steps.length = 4 * (side * side) := by
  simp [plan, List.length_flatMap, stepsOf, Nat.mul_comm]

/-- **Every square has four records**, one after the other. -/
theorem rowAt_eq {side node : Nat} (late : (plan side).base ≤ node)
    (early : node < (plan side).base + (plan side).steps.length) :
    (plan side).rowAt node = (node - (plan side).base) / 4 := by
  have inside : node - (plan side).base < (plan side).steps.length := by omega
  have isStep := List.getElem?_eq_getElem inside
  have found := @getElem?_flatMap_stepsOf side (side * side) (node - (plan side).base)
    (by rwa [length_steps] at inside)
  have isOwn := List.mem_of_getElem? (found.symm.trans isStep)
  rw [Plan.rowAt, List.getD_eq_getElem?_getD, isStep]
  exact (mem_stepsOf.1 isOwn).1

/-- The square of a record is that of its row. -/
theorem placement_record {queens : QueensProblem} {node : Nat}
    (late : (plan queens.side).base ≤ node)
    (early : node < (plan queens.side).base + (plan queens.side).steps.length) :
    queens.placement (Link.record node) =
      .ok ((plan queens.side).rowAt node / queens.side, (plan queens.side).rowAt node % queens.side) := by
  rw [rowAt_eq late early]
  rw [length_steps, ← Nat.mul_assoc] at early
  have place : (node : Int) - (firstRecord queens.side : Nat) =
      (node - (plan queens.side).base : Nat) := (Int.ofNat_sub late).symm
  have bounds : (0 : Int) ≤ (node - (plan queens.side).base : Nat) ∧
      ((node - (plan queens.side).base : Nat) : Int) < 4 * queens.side * queens.side := by
    have below : node - (plan queens.side).base < 4 * queens.side * queens.side := by omega
    exact ⟨Int.natCast_nonneg _, by exact_mod_cast below⟩
  have found : squareOf? queens.side node =
      some ((node - (plan queens.side).base) / 4 / queens.side,
        (node - (plan queens.side).base) / 4 % queens.side) := by
    rw [squareOf?, place, if_pos bounds, Int.toNat_natCast]
  simp only [placement, Link.toValue, Key.ofValue, Key.integer?, Key.number?, Except.mapError, bind,
    Except.bind, Option.bind_some, found]

/-- **The boards of records** are read off without fail. -/
theorem board_linksTo {queens : QueensProblem} {path : List Nat}
    (inside : ∀ node ∈ path, (plan queens.side).base ≤ node ∧
      node < (plan queens.side).base + (plan queens.side).steps.length) :
    queens.board (linksTo path) =
      .ok (place queens.side (path.map (plan queens.side).rowAt)
        (List.replicate queens.side (-1))) := by
  have placed : ∀ node ∈ path, queens.placement (Link.record node) =
      .ok ((plan queens.side).rowAt node / queens.side, (plan queens.side).rowAt node % queens.side) :=
    fun node isNode => placement_record (inside node isNode).1 (inside node isNode).2
  rw [board, linksTo]
  generalize List.replicate queens.side (-1) = ranks
  induction path generalizing ranks with
  | nil => rfl
  | cons node path ih =>
      rw [List.map_cons, List.foldlM_cons, placed node List.mem_cons_self]
      exact ih (fun other isOther => inside other (List.mem_cons_of_mem _ isOther))
        (fun other isOther => placed other (List.mem_cons_of_mem _ isOther)) _

/-! ## The solutions of a board -/

/-- No rank and no file has more squares than the board has files and ranks. -/
theorem length_members_le {side : Nat} {web : Web} (follows : web.Follows (plan side)) {column : Nat}
    (isPrimary : column ∈ (plan side).primary) :
    ((plan side).layout.members column).length ≤ side := by
  obtain ⟨first, last⟩ := List.mem_range'_1.1 isPrimary
  have onBoard : ∀ square, (square, column) ∈ (plan side).steps →
      square / side < side ∧ square % side < side := fun square isStep =>
    coordinates_lt (mem_steps_iff.1 isStep).1
  have rebuilt : ∀ one other : Nat, one / side = other / side → one % side = other % side →
      one = other := fun one other sameRank sameFile => by
    rw [← Nat.div_add_mod' one side, ← Nat.div_add_mod' other side, sameRank, sameFile]
  have crosses : ∀ square, (square, column) ∈ (plan side).steps →
      column = 1 + square / side ∨ column = side + 1 + square % side := by
    intro square isStep
    have crosses := (mem_steps_iff.1 isStep).2
    obtain ⟨onRank, onFile⟩ := onBoard square isStep
    rw [Crosses] at crosses
    generalize square / side = rank at *
    generalize square % side = file at *
    omega
  by_cases isRank : column < 1 + side
  · refine Plan.length_members_le follows (steps_nodup side) (· % side)
      (fun one other isOne isOther same => rebuilt one other ?_ same)
      fun square isStep => (onBoard square isStep).2
    have := crosses one isOne
    have := crosses other isOther
    omega
  · refine Plan.length_members_le follows (steps_nodup side) (· / side)
      (fun one other isOne isOther same => rebuilt one other same ?_)
      fun square isStep => (onBoard square isStep).1
    have := crosses one isOne
    have := crosses other isOther
    have := onBoard one isOne
    have := onBoard other isOther
    omega

/-- A board has no larger columns than a search can count if it is no larger itself. -/
theorem small_members {side : Nat} {web : Web} (follows : web.Follows (plan side)) {policy : Policy}
    (small : policy = .smallest → (side : Int) < Arena.sizeBound) :
    policy = .smallest → ∀ column ∈ (plan side).primary,
      (((plan side).layout.members column).length : Int) < Arena.sizeBound := by
  intro isSmallest column isPrimary
  have few := length_members_le follows isPrimary
  have := small isSmallest
  omega

/-- **The solutions are the boards without attacks**, each of them once, and every solution has a
record for each queen. The search for a smallest column starts from a bound on the number of rows,
which no board that fits into memory reaches. -/
theorem solutions_boards {side : Nat} (inhabited : 1 ≤ side) {policy : Policy}
    (small : policy = .smallest → (side : Int) < Arena.sizeBound) :
    ∃ (queens : QueensProblem) (answers : List (List Link)) (after : Problem)
        (boards : List (List Int)),
      ofSize (.int side) policy = .ok queens ∧
        Problem.solutions none queens.problem = .ok answers after ∧
        (∀ answer ∈ answers, answer.length = side) ∧
        answers.mapM queens.board = .ok boards ∧ boards.Nodup ∧
        ∀ board, board ∈ boards ↔ board.length = side ∧ isValid board = true := by
  obtain ⟨web, follows, made⟩ := ofSize_follows inhabited policy
  have nonempty : (plan side).primary ≠ [] := by
    rw [plan, Ne, List.range'_eq_nil_iff]
    omega
  have smallColumns : policy = .smallest → ∀ column ∈ (plan side).primary,
      (((plan side).layout.members column).length : Int) < Arena.sizeBound := by
    intro isSmallest column isPrimary
    have few := length_members_le follows isPrimary
    have := small isSmallest
    omega
  obtain ⟨paths, after, solved, apart, once, complete⟩ := Plan.solutions_of_plan follows
    (steps_nodup side) nonempty smallColumns 0 (2 * side)
  have told : ∀ path ∈ paths, ∃ rankOn : Nat → Nat, (∀ file < side, rankOn file < side) ∧
      (path.map (plan side).rowAt).toFinset = squaresOf side rankOn ∧ Peaceful side rankOn ∧
      place side (path.map (plan side).rowAt) (List.replicate side (-1)) = ofRanks side rankOn :=
    fun path isPath =>
      exists_ranks_of_isSelection ((complete _).1 (List.mem_map.2 ⟨path, isPath, rfl⟩))
  refine ⟨_, paths.map linksTo, after,
    paths.map fun path => place side (path.map (plan side).rowAt) (List.replicate side (-1)),
    made, solved, ?_, ?_, ?_, fun board => ?_⟩
  · intro answer isAnswer
    obtain ⟨path, isPath, rfl⟩ := List.mem_map.1 isAnswer
    obtain ⟨rankOn, -, same, -⟩ := told path isPath
    have card := List.toFinset_card_of_nodup (apart path isPath).1
    rw [same, card_squaresOf, List.length_map] at card
    rw [linksTo, List.length_map, ← card]
  · rw [List.mapM_map]
    exact mapM_of_ok fun path isPath => board_linksTo (apart path isPath).2
  · refine List.Nodup.of_map (squaresOn side) ?_
    rw [List.map_map]
    have sets : paths.map (squaresOn side ∘ fun path =>
          place side (path.map (plan side).rowAt) (List.replicate side (-1))) =
        paths.map fun path => (path.map (plan side).rowAt).toFinset := by
      apply List.map_congr_left
      intro path isPath
      obtain ⟨rankOn, -, same, -, isBoard⟩ := told path isPath
      rw [Function.comp_apply, isBoard, squaresOn_ofRanks, same]
    rw [sets]
    exact once
  · rw [List.mem_map]
    constructor
    · rintro ⟨path, isPath, rfl⟩
      obtain ⟨rankOn, onBoard, -, peaceful, isBoard⟩ := told path isPath
      rw [isBoard]
      exact ⟨length_ofRanks side rankOn, isValid_ofRanks_iff.2 ⟨inhabited, onBoard, peaceful⟩⟩
    · rintro ⟨rfl, valid⟩
      obtain ⟨rankOn, isBoard⟩ := exists_ofRanks_of_isValid valid
      rw [isBoard, isValid_ofRanks_iff] at valid
      obtain ⟨-, onBoard, peaceful⟩ := valid
      have selection := isSelection_of_peaceful onBoard peaceful
      obtain ⟨path, isPath, same⟩ := List.mem_map.1 ((complete _).2 selection)
      exact ⟨path, isPath, (place_eq_ofRanks same).trans isBoard.symm⟩

/-- On the board of side 4, queens a knight's move apart are found. -/
theorem solutions_boards_four :
    ∃ (queens : QueensProblem) (answers : List (List Link)) (after : Problem)
        (boards : List (List Int)),
      ofSize (.int (4 : Nat)) .smallest = .ok queens ∧
        Problem.solutions none queens.problem = .ok answers after ∧
        answers.mapM queens.board = .ok boards ∧
        [1, 3, 0, 2] ∈ boards ∧ [0, 2, 1, 3] ∉ boards := by
  have small : Policy.smallest = .smallest → ((4 : Nat) : Int) < Arena.sizeBound := fun _ => by decide
  obtain ⟨queens, answers, after, boards, made, solved, -, read, -, complete⟩ :=
    @solutions_boards 4 (by decide) .smallest small
  refine ⟨queens, answers, after, boards, made, solved, read, ?_, ?_⟩
  · exact (complete _).2 (by decide)
  · rw [complete]
    decide

end QueensProblem

end ExactCover
