import ExactCover.Proofs.Build.Columns
import ExactCover.Queens.Problem

/-!
# Building the problem of a board

The problem of a board is built by a plan. The ranks and then the files have the numbers from 1 on,
and the diagonals and then the antidiagonals have those after them, on a ring of their own. Every
square is a row with four steps, and the squares are numbered rank by rank. Building never fails
(`QueensProblem.build_follows`).
-/

set_option autoImplicit false

namespace ExactCover

namespace QueensProblem

/-! ## The columns -/

/-- The columns with numbers from one on. -/
def columnsFrom (first count : Nat) : List Link :=
  (List.range' first count).map fun header : Nat => .record header

theorem getLast?_columnsFrom (first count : Nat) :
    (columnsFrom first (count + 1)).getLast? = some (.record (first + count : Nat)) := by
  rw [columnsFrom, List.range'_1_concat, List.map_append]
  exact List.getLast?_concat

theorem getD_columnsFrom {first count index : Nat} (inside : index < count) :
    (columnsFrom first count).getD index root = .record (first + index : Nat) := by
  simp [columnsFrom, List.getD_eq_getElem?_getD, inside]

theorem addColumns_eq (letter : String) (last : Option Link) (indices : List Nat) :
    addColumns letter last indices =
      Problem.addColumns last (indices.map fun index => .text (letter ++ toString index)) := by
  induction indices generalizing last with
  | nil => rfl
  | cons index indices ih => simp only [addColumns, List.map_cons, Problem.addColumns, ih]

section

variable {web : Web} {frame : Frame} (bears : web.Bears frame) (policy : Policy) (letter : String)
  (count : Nat)
include bears

/-- Columns behind the last one that was made. -/
theorem addColumns_onward {before : List (List Nat)} {first length : Nat}
    (rings : frame.headerRings = before ++ [List.range' first (length + 1)])
    (next : web.count = first + (length + 1)) :
    ∃ (after : Web) (more : Frame), after.Bears more ∧ after.count = web.count + count ∧
      more.attached = frame.attached ∧
      more.headerRings = before ++ [List.range' first (length + 1 + count)] ∧
      addColumns letter (some (.record (first + length : Nat))) (List.range count)
          ⟨web.arena 0, policy, frame.primary.length⟩ =
        .ok (columnsFrom web.count count) ⟨after.arena 0, policy, more.primary.length⟩ := by
  have made := bears.addColumns_range' 0 policy
    ((List.range count).map fun index => .text (letter ++ toString index)) rings next
  rw [List.length_map, List.length_range] at made
  rw [addColumns_eq]
  exact made

/-- Columns on a ring of their own. -/
theorem addColumns_apart (inhabited : 0 < count) :
    ∃ (after : Web) (more : Frame), after.Bears more ∧ after.count = web.count + count ∧
      more.attached = frame.attached ∧
      more.headerRings = frame.headerRings ++ [List.range' web.count count] ∧
      addColumns letter none (List.range count) ⟨web.arena 0, policy, frame.primary.length⟩ =
        .ok (columnsFrom web.count count) ⟨after.arena 0, policy, more.primary.length⟩ := by
  have nonempty : (List.range count).map (fun index => Value.text (letter ++ toString index)) ≠ [] := by
    simp only [ne_eq, List.map_eq_nil_iff, List.range_eq_nil]
    exact Nat.ne_of_gt inhabited
  have made := bears.addColumns_ring 0 policy nonempty
  rw [List.length_map, List.length_range] at made
  rw [addColumns_eq]
  exact made

end

/-- The columns of a board. -/
def lines (side : Nat) : Lines where
  ranks := columnsFrom 1 side
  files := columnsFrom (side + 1) side
  diagonals := columnsFrom (2 * side + 1) (2 * side - 1)
  antidiagonals := columnsFrom (4 * side) (2 * side - 1)

/-- **The columns of a board** are made without fail. -/
theorem addLines_bears {side : Nat} (inhabited : 0 < side) (policy : Policy) :
    ∃ web : Web,
      web.Bears ⟨List.range' 1 (2 * side), [List.range' (2 * side + 1) (4 * side - 2)], []⟩ ∧
        web.count = 6 * side - 1 ∧
        addLines side (Problem.empty policy) =
          .ok (lines side) ⟨web.arena 0, policy, 2 * side⟩ := by
  obtain ⟨below, rfl⟩ : ∃ below, side = below + 1 := ⟨side - 1, by omega⟩
  have diagonals : 2 * (below + 1) - 1 = 2 * below + 1 := by omega
  -- Ranks and files go behind the root, and antidiagonals behind the diagonals.
  obtain ⟨one, oneFrame, oneBears, oneCount, oneBare, oneRings, madeRanks⟩ :=
    @addColumns_onward _ _ Web.root_bears policy "R" (below + 1) [] 0 0 rfl rfl
  have oneCount : one.count = below + 1 + 1 := oneCount.trans (Nat.add_comm _ _)
  rw [Nat.add_comm (0 + 1)] at oneRings
  obtain ⟨two, twoFrame, twoBears, twoCount, twoBare, twoRings, madeFiles⟩ :=
    addColumns_onward oneBears policy "F" (below + 1) oneRings (by omega)
  have twoCount : two.count = 2 * (below + 1) + 1 := by omega
  obtain ⟨three, threeFrame, threeBears, threeCount, threeBare, threeRings, madeDiagonals⟩ :=
    addColumns_apart twoBears policy "A" (2 * (below + 1) - 1) (by omega)
  have threeCount : three.count = 4 * (below + 1) := by omega
  obtain ⟨four, fourFrame, fourBears, fourCount, fourBare, fourRings, madeAntidiagonals⟩ :=
    @addColumns_onward _ _ threeBears policy "B" (2 * (below + 1) - 1) twoFrame.headerRings
      two.count (2 * below) (by rw [threeRings, diagonals]) (by omega)
  have frame : fourFrame = ⟨List.range' 1 (2 * (below + 1)),
      [List.range' (2 * (below + 1) + 1) (4 * (below + 1) - 2)], []⟩ := by
    refine Frame.eq_of_headerRings ?_ ?_
    · have primary : below + 1 + 1 + (below + 1) = 2 * (below + 1) + 1 := by omega
      have secondary : 2 * below + 1 + (2 * (below + 1) - 1) = 4 * (below + 1) - 2 := by omega
      rw [fourRings, twoRings, twoCount, primary, secondary, List.range'_succ]
      rfl
    · rw [fourBare, threeBare, twoBare, oneBare]
      rfl
  have made : addLines (below + 1) (Problem.empty policy) =
      .ok (lines (below + 1)) ⟨four.arena 0, policy, fourFrame.primary.length⟩ := by
    have lastRank : (columnsFrom Web.root.count (below + 1)).getLast? =
        some (.record (0 + (below + 1) : Nat)) := getLast?_columnsFrom 1 below |>.trans (by
      rw [Nat.add_comm 1, Nat.zero_add])
    have lastDiagonal : (columnsFrom two.count (2 * (below + 1) - 1)).getLast? =
        some (.record (two.count + 2 * below : Nat)) := by
      rw [diagonals, getLast?_columnsFrom]
    refine (bind_of_ok madeRanks).trans ?_
    rw [lastRank]
    refine (bind_of_ok madeFiles).trans ?_
    refine (bind_of_ok madeDiagonals).trans ?_
    rw [lastDiagonal]
    refine (bind_of_ok madeAntidiagonals).trans ?_
    rw [oneCount, twoCount, threeCount]
    rfl
  subst frame
  rw [List.length_range'] at made
  exact ⟨four, fourBears, by omega, made⟩

/-! ## The squares -/

/-- The squares are numbered rank by rank. -/
theorem squares_eq (side : Nat) :
    squares side = (List.range (side * side)).map fun square => (square / side, square % side) := by
  have counted : ∀ ranks : Nat, (List.range ranks).flatMap (fun rank =>
        (List.range side).map fun file => (rank, file)) =
      (List.range (ranks * side)).map fun square => (square / side, square % side) := by
    intro ranks
    induction ranks with
    | zero => simp
    | succ ranks ih =>
        rw [List.range_succ, List.flatMap_append, ih, Nat.succ_mul, List.range_add, List.map_append,
          List.map_map, List.flatMap_singleton]
        refine congrArg _ (List.map_congr_left fun file inside => ?_)
        have onBoard := List.mem_range.1 inside
        have inhabited : 0 < side := by omega
        simp [Nat.mul_comm ranks, Nat.mul_add_div inhabited, Nat.div_eq_of_lt onBoard,
          Nat.mod_eq_of_lt onBoard]
  exact counted side

/-- The steps that make the row of a square: its rank, its file, its diagonal and its
antidiagonal. -/
def stepsOf (side square : Nat) : List (Nat × Nat) :=
  [(square, 1 + square / side), (square, side + 1 + square % side),
    (square, 2 * side + 1 + (square / side + square % side)),
    (square, 4 * side + (side - 1 - square / side + square % side))]

/-- The columns of a square. -/
def Crosses (side square column : Nat) : Prop :=
  column = 1 + square / side ∨ column = side + 1 + square % side ∨
    column = 2 * side + 1 + (square / side + square % side) ∨
    column = 4 * side + (side - 1 - square / side + square % side)

theorem mem_stepsOf {side square other column : Nat} :
    (other, column) ∈ stepsOf side square ↔ other = square ∧ Crosses side square column := by
  simp only [stepsOf, Crosses, List.mem_cons, List.not_mem_nil, or_false, Prod.mk.injEq,
    ← and_or_left]

/-- The plan of a board. -/
def plan (side : Nat) : Plan :=
  ⟨List.range' 1 (2 * side), [List.range' (2 * side + 1) (4 * side - 2)], 6 * side - 1,
    (List.range (side * side)).flatMap (stepsOf side)⟩

/-- The rank and the file of a square are on the board. -/
theorem coordinates_lt {side square : Nat} (inside : square < side * side) :
    square / side < side ∧ square % side < side := by
  have inhabited : 0 < side := by
    by_contra none
    obtain rfl : side = 0 := by omega
    omega
  exact ⟨Nat.div_lt_of_lt_mul inside, Nat.mod_lt _ inhabited⟩

/-- **The steps of a board** are made for its squares, each in its columns. -/
theorem mem_steps_iff {side square column : Nat} :
    (square, column) ∈ (plan side).steps ↔ square < side * side ∧ Crosses side square column := by
  simp only [plan, List.mem_flatMap, List.mem_range, mem_stepsOf]
  constructor
  · rintro ⟨_, inside, rfl, crosses⟩
    exact ⟨inside, crosses⟩
  · rintro ⟨inside, crosses⟩
    exact ⟨square, inside, rfl, crosses⟩

/-- No step is made twice. -/
theorem steps_nodup (side : Nat) : (plan side).steps.Nodup := by
  refine List.nodup_flatMap.2 ⟨fun square isSquare => ?_, ?_⟩
  · obtain ⟨onRank, onFile⟩ := coordinates_lt (List.mem_range.1 isSquare)
    rw [stepsOf]
    generalize square / side = rank at onRank
    generalize square % side = file at onFile
    simp only [List.nodup_cons, List.mem_cons, Prod.mk.injEq, true_and, List.not_mem_nil, or_false,
      not_false_eq_true, List.nodup_nil, and_true]
    omega
  · refine List.nodup_range.imp fun {one other} different => ?_
    refine List.disjoint_left.2 ?_
    rintro ⟨square, column⟩ inOne inOther
    exact different ((mem_stepsOf.1 inOne).1.symm.trans (mem_stepsOf.1 inOther).1)

/-- The steps of a square are made in columns of the board. -/
theorem column_of_stepsOf {side square : Nat} (inside : square < side * side) {step : Nat × Nat}
    (isStep : step ∈ stepsOf side square) : step.2 ∈ (plan side).frame.columns := by
  obtain ⟨onRank, onFile⟩ := coordinates_lt inside
  have columns : ∀ column, column ∈ (plan side).frame.columns ↔
      1 ≤ column ∧ column < 1 + 2 * side ∨
        2 * side + 1 ≤ column ∧ column < 2 * side + 1 + (4 * side - 2) := by
    intro column
    simp [Frame.columns, Plan.frame, plan, List.mem_range'_1]
  rw [columns]
  obtain ⟨other, column⟩ := step
  obtain ⟨-, crosses⟩ := mem_stepsOf.1 isStep
  rw [Crosses] at crosses
  generalize square / side = rank at onRank crosses
  generalize square % side = file at onFile crosses
  rcases crosses with rfl | rfl | rfl | rfl
  · exact .inl ⟨by omega, by omega⟩
  · exact .inl ⟨by omega, by omega⟩
  · exact .inr ⟨by omega, by omega⟩
  · exact .inr ⟨by omega, by omega⟩

/-- A square is built record by record. -/
theorem addSquare_eq (side : Nat) (lines : Lines) (rank file : Nat) :
    addSquare side lines rank file = (do
      let onRank ← Arena.addRecord (lines.ranks.getD rank root) none
      let onFile ← Arena.addRecord (lines.files.getD file root) (some onRank)
      let onDiagonal ← Arena.addRecord (lines.diagonals.getD (rank + file) root) (some onFile)
      let _ ← Arena.addRecord (lines.antidiagonals.getD (side - 1 - rank + file) root)
        (some onDiagonal)) := by
  simp only [addSquare, addRecord, Arena.addRecord, bind_assoc, bind_pure]

variable {web : Web} {plan : Plan} (follows : web.Follows plan)
include follows

/-- **The row of a square.** -/
theorem addSquare_follows {side square : Nat} (inside : square < side * side)
    (areColumns : ∀ step ∈ stepsOf side square, step.2 ∈ plan.frame.columns)
    (fresh : plan.last square = none) :
    ∃ after : Web, after.Follows (plan.more (stepsOf side square)) ∧
      addSquare side (lines side) (square / side) (square % side) (web.arena 0) =
        .ok () (after.arena 0) := by
  obtain ⟨onRank, onFile⟩ := coordinates_lt inside
  have onDiagonal : square / side + square % side < 2 * side - 1 := by
    generalize square / side = rank at onRank
    generalize square % side = file at onFile
    omega
  have onAntidiagonal : side - 1 - square / side + square % side < 2 * side - 1 := by
    generalize square / side = rank at onRank
    generalize square % side = file at onFile
    omega
  obtain ⟨one, followsOne, madeRank⟩ :=
    @Web.Follows.add web plan follows square _ (areColumns _ (.head _)) 0
  obtain ⟨two, followsTwo, madeFile⟩ :=
    @Web.Follows.add one _ followsOne square _ (areColumns _ (.tail _ (.head _))) 0
  obtain ⟨three, followsThree, madeDiagonal⟩ :=
    @Web.Follows.add two _ followsTwo square _ (areColumns _ (.tail _ (.tail _ (.head _)))) 0
  obtain ⟨four, followsFour, madeAntidiagonal⟩ :=
    @Web.Follows.add three _ followsThree square _
      (areColumns _ (.tail _ (.tail _ (.tail _ (.head _))))) 0
  rw [fresh] at madeRank
  rw [Plan.last_add, if_pos rfl, ← follows.counted] at madeFile
  rw [Plan.last_add, if_pos rfl, ← followsOne.counted] at madeDiagonal
  rw [Plan.last_add, if_pos rfl, ← followsTwo.counted] at madeAntidiagonal
  refine ⟨four, ?_, ?_⟩
  · rw [stepsOf, Plan.more_cons, Plan.more_cons, Plan.more_cons]
    exact followsFour
  · rw [addSquare_eq]
    simp only [lines]
    rw [getD_columnsFrom onRank, getD_columnsFrom onFile, getD_columnsFrom onDiagonal,
      getD_columnsFrom onAntidiagonal]
    refine (bind_of_ok madeRank).trans ?_
    refine (bind_of_ok madeFile).trans ?_
    refine (bind_of_ok madeDiagonal).trans ?_
    exact bind_of_ok madeAntidiagonal

/-- **The rows of several squares**, one after the other. -/
theorem addSquares_follows {side : Nat} {numbers : List Nat} (once : numbers.Nodup)
    (inside : ∀ square ∈ numbers, square < side * side)
    (areColumns : ∀ square ∈ numbers, ∀ step ∈ stepsOf side square,
      step.2 ∈ plan.frame.columns)
    (fresh : ∀ square ∈ numbers, plan.last square = none) :
    ∃ after : Web, after.Follows (plan.more (numbers.flatMap (stepsOf side))) ∧
      (numbers.map fun square => (square / side, square % side)).forM
          (fun square => addSquare side (lines side) square.1 square.2) (web.arena 0) =
        .ok () (after.arena 0) := by
  induction numbers generalizing web plan with
  | nil =>
      refine ⟨web, ?_, rfl⟩
      rw [List.flatMap_nil, Plan.more_nil]
      exact follows
  | cons square numbers ih =>
      obtain ⟨absent, once⟩ := List.nodup_cons.1 once
      obtain ⟨between, followsBetween, made⟩ := addSquare_follows follows
        (inside square List.mem_cons_self) (areColumns square List.mem_cons_self)
        (fresh square List.mem_cons_self)
      have stillFresh : ∀ other ∈ numbers, (plan.more (stepsOf side square)).last other = none := by
        intro other isOther
        have different : other ≠ square := fun same => absent (same ▸ isOther)
        rw [Plan.last_more_of_notMem (by simp [stepsOf, different])]
        exact fresh other (List.mem_cons_of_mem _ isOther)
      obtain ⟨after, followsAfter, madeOthers⟩ := ih followsBetween once
        (fun other isOther => inside other (List.mem_cons_of_mem _ isOther))
        (fun other isOther => areColumns other (List.mem_cons_of_mem _ isOther)) stillFresh
      refine ⟨after, ?_, (bind_of_ok made).trans madeOthers⟩
      rw [List.flatMap_cons, Plan.more_append]
      exact followsAfter

omit follows

/-- **Building never fails**, and the problem follows the plan of the board. -/
theorem build_follows {side : Nat} (inhabited : 0 < side) (policy : Policy) :
    ∃ web : Web, web.Follows (QueensProblem.plan side) ∧
      build side (Problem.empty policy) = .ok () ⟨web.arena 0, policy, 2 * side⟩ := by
  obtain ⟨between, bears, counted, madeLines⟩ := addLines_bears inhabited policy
  have follows : between.Follows ⟨List.range' 1 (2 * side),
      [List.range' (2 * side + 1) (4 * side - 2)], 6 * side - 1, []⟩ := by
    refine .of_bears rfl bears ?_ counted
    have whole : 6 * side - 1 = 2 * side + 1 + (4 * side - 2) := by omega
    rw [whole, List.range_eq_range', ← List.range'_append_1, List.range'_succ, Nat.zero_add]
    simp [Frame.headerRings, Plan.frame]
  have areSquares : ∀ square ∈ List.range (side * side), square < side * side := fun _ inside =>
    List.mem_range.1 inside
  obtain ⟨after, followsAfter, made⟩ := addSquares_follows follows List.nodup_range areSquares
    (fun _ inside _ isStep => column_of_stepsOf (areSquares _ inside) isStep) (fun _ _ => rfl)
  refine ⟨after, followsAfter, ?_⟩
  refine (bind_of_ok madeLines).trans ?_
  rw [squares_eq]
  exact Problem.links_of_ok made

theorem ofSize_of_build {side : Nat} (inhabited : 0 < side) {policy : Policy} {problem : Problem}
    (built : build side (Problem.empty policy) = .ok () problem) :
    ofSize (.int side) policy = .ok ⟨problem, side, .int side⟩ := by
  have large : decide ((side : Int) < 1) = false := decide_eq_false (by omega)
  simp only [ofSize, Value.isLess_int, large, Value.toCount, Except.mapError, bind, Except.bind,
    Bool.false_eq_true, if_false, Int.toNat_natCast, built]
  rfl

/-- **A board of any positive size has a problem.** -/
theorem ofSize_follows {side : Nat} (inhabited : 0 < side) (policy : Policy) :
    ∃ web : Web, web.Follows (QueensProblem.plan side) ∧
      ofSize (.int side) policy = .ok ⟨⟨web.arena 0, policy, 2 * side⟩, side, .int side⟩ := by
  obtain ⟨web, follows, built⟩ := build_follows inhabited policy
  exact ⟨web, follows, ofSize_of_build inhabited built⟩

/-- A size that is a count is compared as that count. -/
theorem isLess_of_toCount {size : Value} {count : Int} (counted : size.toCount = .ok count)
    (bound : Int) : size.isLess (.int bound) = .ok (decide (count < bound)) := by
  cases size with
  | int number =>
      cases counted
      exact Value.isLess_int _ bound
  | bool flag =>
      cases counted
      exact Value.isLess_int _ bound
  | _ => cases counted

/-- **A board that has a problem** is not empty, and the problem follows its plan. -/
theorem follows_of_ofSize {size : Value} {policy : Policy} {queens : QueensProblem}
    (accepted : ofSize size policy = .ok queens) :
    1 ≤ queens.side ∧ ∃ web : Web, web.Follows (QueensProblem.plan queens.side) ∧
      queens.problem = ⟨web.arena 0, policy, 2 * queens.side⟩ := by
  cases counted : size.toCount with
  | error mismatch =>
      cases less : size.isLess (.int 1) with
      | error mismatch => simp [ofSize, less, Except.mapError, bind, Except.bind] at accepted
      | ok small =>
          cases small <;> simp [ofSize, less, counted, Except.mapError, bind, Except.bind] at accepted
  | ok count =>
      have less := isLess_of_toCount counted 1
      by_cases small : count < 1
      · simp [ofSize, less, small, Except.mapError, bind, Except.bind] at accepted
      · have inhabited : 0 < count.toNat := by omega
        obtain ⟨web, follows, built⟩ := build_follows inhabited policy
        simp only [ofSize, less, small, decide_false, counted, Except.mapError, bind, Except.bind,
          Bool.false_eq_true, if_false, built] at accepted
        obtain rfl := Except.ok.inj accepted
        exact ⟨inhabited, web, follows, rfl⟩

end QueensProblem

end ExactCover
