import ExactCover.Matrix.Problem
import ExactCover.Proofs.Build.Columns

/-!
# Building the problem of a matrix

The problem of a matrix is built by a plan. Its columns have the numbers from 1 on, and it has a step
for every 1 of the matrix, column by column from the top down. Building never fails
(`MatrixProblem.ofRows_follows`), and the steps tell the ones of the matrix and nothing else
(`MatrixProblem.mem_steps_iff`).
-/

set_option autoImplicit false

namespace ExactCover

namespace MatrixProblem

/-- Whether a matrix has a 1 in a row and a column. -/
def entry (rows : List (List Bool)) (row column : Nat) : Bool :=
  (rows.getD row []).getD column false

/-! ## The ones of a column -/

/-- The numbers of the ones of a column, if its first entry has a given number. -/
def onesFrom (first : Nat) : List Bool → List Nat
  | [] => []
  | one :: column =>
      if one then first :: onesFrom (first + 1) column else onesFrom (first + 1) column

theorem onesOf_eq (column : List Bool) : onesOf column = onesFrom 0 column := by
  rw [onesOf, List.range_eq_range']
  generalize 0 = first
  induction column generalizing first with
  | nil => rfl
  | cons one column ih =>
      rw [List.length_cons, List.range'_succ, List.zip_cons_cons, List.filterMap_cons, onesFrom, ih]
      cases one <;> rfl

theorem mem_onesFrom {first row : Nat} {column : List Bool} :
    row ∈ onesFrom first column ↔ first ≤ row ∧ column.getD (row - first) false = true := by
  induction column generalizing first with
  | nil => simp [onesFrom]
  | cons one column ih =>
      rcases Nat.lt_trichotomy row first with early | rfl | late
      · have absent : row ∉ onesFrom (first + 1) column := fun inside => by
          have := (ih.1 inside).1
          omega
        have notFirst : row ≠ first := by omega
        have notLate : ¬ first ≤ row := by omega
        cases one <;> simp [onesFrom, absent, notFirst, notLate]
      · have absent : row ∉ onesFrom (row + 1) column := fun inside => by
          have := (ih.1 inside).1
          omega
        cases one <;> simp [onesFrom, absent]
      · have notFirst : row ≠ first := by omega
        have later : first ≤ row := by omega
        have next : row - first = row - (first + 1) + 1 := by omega
        have inside : row ∈ onesFrom first (one :: column) ↔ row ∈ onesFrom (first + 1) column := by
          cases one <;> simp [onesFrom, notFirst]
        rw [inside, ih, next, List.getD_cons_succ]
        simp [later, Nat.succ_le_of_lt late]

theorem onesFrom_nodup (first : Nat) (column : List Bool) : (onesFrom first column).Nodup := by
  induction column generalizing first with
  | nil => exact List.nodup_nil
  | cons one column ih =>
      have absent : first ∉ onesFrom (first + 1) column := fun inside => by
        have := (mem_onesFrom.1 inside).1
        omega
      cases one with
      | false => exact ih (first + 1)
      | true => exact List.nodup_cons.2 ⟨absent, ih (first + 1)⟩

/-! ## The plan -/

/-- A column of a matrix. -/
def columnAt (rows : List (List Bool)) (column : Nat) : List Bool := rows.map (·.getD column false)

/-- The steps that make the records of a column. -/
def stepsAt (rows : List (List Bool)) (column : Nat) : List (Nat × Nat) :=
  (onesOf (columnAt rows column)).map fun row => (row, column + 1)

/-- The plan of a matrix. -/
def plan (width : Nat) (rows : List (List Bool)) : Plan :=
  ⟨List.range' 1 width, [], width + 1, (List.range width).flatMap (stepsAt rows)⟩

theorem getD_columnAt (rows : List (List Bool)) (row column : Nat) :
    (columnAt rows column).getD row false = entry rows row column := by
  simp only [columnAt, entry, List.getD_eq_getElem?_getD, List.getElem?_map]
  cases rows[row]? <;> rfl

theorem mem_stepsAt {rows : List (List Bool)} {row column header : Nat} :
    (row, header) ∈ stepsAt rows column ↔ header = column + 1 ∧ entry rows row column = true := by
  rw [stepsAt, List.mem_map]
  simp only [Prod.mk.injEq, onesOf_eq, mem_onesFrom, getD_columnAt, Nat.zero_le, true_and,
    Nat.sub_zero]
  constructor
  · rintro ⟨_, isOne, rfl, rfl⟩
    exact ⟨rfl, isOne⟩
  · rintro ⟨rfl, isOne⟩
    exact ⟨row, isOne, rfl, rfl⟩

/-- **The steps are the ones of the matrix.** -/
theorem mem_steps_iff {width : Nat} {rows : List (List Bool)} {row header : Nat} :
    (row, header) ∈ (plan width rows).steps ↔
      ∃ column < width, header = column + 1 ∧ entry rows row column = true := by
  simp only [plan, List.mem_flatMap, List.mem_range, mem_stepsAt]

/-- A row has a step in a column if it has a 1 there. -/
theorem mem_steps_of_column {width : Nat} {rows : List (List Bool)} (row : Nat) {column : Nat}
    (inside : column < width) :
    (row, column + 1) ∈ (plan width rows).steps ↔ entry rows row column = true := by
  rw [mem_steps_iff]
  constructor
  · rintro ⟨other, -, same, isOne⟩
    obtain rfl := Nat.succ.inj same
    exact isOne
  · intro isOne
    exact ⟨column, inside, rfl, isOne⟩

/-- There are no ones beyond the last row. -/
theorem lt_length_of_entry {rows : List (List Bool)} {row column : Nat}
    (isOne : entry rows row column = true) : row < rows.length := by
  by_contra beyond
  have noRow : rows.getD row [] = [] := by
    rw [List.getD_eq_getElem?_getD, List.getElem?_eq_none (Nat.le_of_not_lt beyond)]
    rfl
  rw [entry, noRow] at isOne
  cases isOne

/-- The steps are made for the rows of the matrix. -/
theorem row_lt_of_step {width : Nat} {rows : List (List Bool)} {row header : Nat}
    (isStep : (row, header) ∈ (plan width rows).steps) : row < rows.length := by
  obtain ⟨column, -, -, isOne⟩ := mem_steps_iff.1 isStep
  exact lt_length_of_entry isOne

/-- No step is made twice. -/
theorem steps_nodup (width : Nat) (rows : List (List Bool)) : (plan width rows).steps.Nodup := by
  refine List.nodup_flatMap.2 ⟨fun column _ => ?_, ?_⟩
  · rw [stepsAt, onesOf_eq]
    exact (onesFrom_nodup 0 _).map fun one other same => congrArg Prod.fst same
  · refine List.nodup_range.imp fun {one other} different => ?_
    refine List.disjoint_left.2 ?_
    rintro ⟨row, header⟩ inOne inOther
    have := (mem_stepsAt.1 inOne).1
    have := (mem_stepsAt.1 inOther).1
    omega

/-- The columns of the problem stand beside those of the matrix. -/
theorem zip_columns (width : Nat) (rows : List (List Bool)) :
    ((List.range' 1 width).map fun header : Nat => Link.record header).zip (columns width rows) =
      (List.range width).map fun column : Nat =>
        (.record (column + 1 : Nat), columnAt rows column) := by
  have later : List.range' 1 width = (List.range width).map (· + 1) := by
    rw [List.range'_eq_map_range]
    exact List.map_congr_left fun column _ => Nat.add_comm _ _
  rw [later, List.map_map, columns, List.zip_map']
  rfl

/-- The rows of the records are those of the steps. -/
theorem flatMap_onesOf (width : Nat) (rows : List (List Bool)) :
    (columns width rows).flatMap onesOf = (plan width rows).steps.map Prod.fst := by
  rw [plan, List.map_flatMap, columns, List.flatMap_map]
  apply List.flatMap_congr
  intro column _
  rw [stepsAt, List.map_map]
  exact (List.map_id _).symm

/-! ## Following the plan -/

theorem addColumns_eq (last : Link) (names : List Value) :
    addColumns last names = Problem.addColumns (some last) names := by
  induction names generalizing last with
  | nil => rfl
  | cons name names ih => simp only [addColumns, Problem.addColumns, ih]

variable {web : Web} {plan : Plan} (follows : web.Follows plan)
include follows

/-- **The records of a column**, made from a row on. -/
theorem addColumn_follows {header : Nat} (isColumn : header ∈ plan.frame.columns)
    (column : List Bool) (first updates : Nat) :
    ∃ after : Web, after.Follows (plan.more ((onesFrom first column).map fun row => (row, header))) ∧
      addColumn (.record header) column ((List.range' first column.length).map plan.last)
          (web.arena updates) =
        .ok ((List.range' first column.length).map
            (plan.more ((onesFrom first column).map fun row => (row, header))).last)
          (after.arena updates) := by
  induction column generalizing web plan first with
  | nil =>
      refine ⟨web, ?_, rfl⟩
      rw [onesFrom, List.map_nil, Plan.more_nil]
      exact follows
  | cons one column ih =>
      have passed : first ∉ ((onesFrom (first + 1) column).map fun row => (row, header)).map
          Prod.fst := by
        rw [List.map_map]
        intro inside
        obtain ⟨row, isOne, same⟩ := List.mem_map.1 inside
        have := (mem_onesFrom.1 isOne).1
        have : row = first := same
        omega
      rw [List.length_cons, List.range'_succ, List.map_cons, List.map_cons]
      cases one with
      | false =>
          obtain ⟨after, followsAfter, made⟩ := ih follows isColumn (first + 1)
          rw [onesFrom, if_neg Bool.false_ne_true, Plan.last_more_of_notMem passed]
          exact ⟨after, followsAfter, bind_of_ok made⟩
      | true =>
          obtain ⟨between, followsBetween, madeOne⟩ :=
            @Web.Follows.add web plan follows first header isColumn updates
          obtain ⟨after, followsAfter, made⟩ := ih followsBetween isColumn (first + 1)
          have others : (List.range' (first + 1) column.length).map (plan.add first header).last =
              (List.range' (first + 1) column.length).map plan.last := by
            apply List.map_congr_left
            intro row later
            have different : row ≠ first := by
              have := (List.mem_range'_1.1 later).1
              omega
            rw [Plan.last_add, if_neg different]
          have madeLast : (some <$> addOne (.record header) (plan.last first)) (web.arena updates) =
              .ok (some (.record web.count)) (between.arena updates) := by
            have madeOne : addOne (.record header) (plan.last first) (web.arena updates) = _ := madeOne
            simp only [Functor.map, EStateM.map, madeOne]
          rw [others] at made
          rw [onesFrom, if_pos rfl, List.map_cons, Plan.more_cons, Plan.last_more_of_notMem passed,
            Plan.last_add, if_pos rfl, ← follows.counted]
          refine ⟨after, followsAfter, ?_⟩
          refine (bind_of_ok madeLast).trans ?_
          exact bind_of_ok made

/-- **The records of several columns**, column by column. -/
theorem addOnes_follows (rows : List (List Bool)) (columns : List Nat)
    (areColumns : ∀ column ∈ columns, column + 1 ∈ plan.frame.columns) (updates : Nat) :
    ∃ after : Web, after.Follows (plan.more (columns.flatMap (stepsAt rows))) ∧
      addOnes (columns.map fun column : Nat => (.record (column + 1 : Nat), columnAt rows column))
          ((List.range' 0 rows.length).map plan.last) (web.arena updates) =
        .ok () (after.arena updates) := by
  induction columns generalizing web plan with
  | nil =>
      refine ⟨web, ?_, rfl⟩
      rw [List.flatMap_nil, Plan.more_nil]
      exact follows
  | cons column columns ih =>
      obtain ⟨between, followsBetween, made⟩ := addColumn_follows follows
        (areColumns column List.mem_cons_self) (columnAt rows column) 0 updates
      have height : (columnAt rows column).length = rows.length := List.length_map _
      rw [height, ← onesOf_eq] at made
      rw [← onesOf_eq] at followsBetween
      obtain ⟨after, followsAfter, madeOthers⟩ := ih followsBetween fun other inside =>
        areColumns other (List.mem_cons_of_mem _ inside)
      rw [List.flatMap_cons, Plan.more_append]
      exact ⟨after, followsAfter, (bind_of_ok made).trans madeOthers⟩

omit follows

/-- **Building never fails**, and the problem follows the plan of the matrix. -/
theorem ofRows_follows {width : Nat} (rows : List (List Bool)) {names : List Value}
    (named : names.length = width) (policy : Policy) :
    ∃ web : Web, web.Follows (MatrixProblem.plan width rows) ∧
      ofRows width rows names policy =
        .ok ⟨⟨web.arena 0, policy, width⟩, width, rows,
          ((MatrixProblem.plan width rows).steps.map Prod.fst).toArray⟩ := by
  -- The columns alone.
  obtain ⟨between, frame, bears, counted, noRecords, rings, madeColumns⟩ :=
    @Web.Bears.addColumns _ _ Web.root_bears 0 policy names [] [] [] 0 rfl
  obtain rfl := Frame.eq_of_headerRings rings noRecords
  rw [named] at bears counted madeColumns
  have follows : between.Follows ⟨List.range' 1 width, [], width + 1, []⟩ := by
    refine .of_bears rfl bears ?_ (counted.trans (Nat.add_comm _ _))
    rw [List.range_eq_range', List.range'_succ]
    simp [Frame.headerRings, Plan.frame]
  -- The records.
  have areColumns : ∀ column ∈ List.range width, column + 1 ∈ List.range' 1 width := by
    intro column inside
    have := List.mem_range.1 inside
    exact List.mem_range'_1.2 ⟨by omega, by omega⟩
  obtain ⟨after, followsAfter, madeOnes⟩ := addOnes_follows follows rows (List.range width)
    (fun column inside => List.mem_append_left _ (areColumns column inside)) 0
  refine ⟨after, followsAfter, ?_⟩
  have lasts : (List.range' 0 rows.length).map
      (⟨List.range' 1 width, [], width + 1, []⟩ : Plan).last = List.replicate rows.length none := by
    refine List.eq_replicate_iff.2 ⟨by simp, fun last inside => ?_⟩
    obtain ⟨row, -, rfl⟩ := List.mem_map.1 inside
    rfl
  have built : (do
      let headers ← addColumns root names
      Problem.links (addOnes (headers.zip (columns width rows)) (List.replicate rows.length none)) :
        ProblemM Unit) (Problem.empty policy) =
      .ok () ⟨after.arena 0, policy, (List.range' 1 width).length⟩ := by
    rw [addColumns_eq]
    refine (bind_of_ok madeColumns).trans ?_
    have made := @Problem.links_of_ok (List.range' 1 width).length policy _ _ _ _ _ madeOnes
    rw [← zip_columns, lasts] at made
    exact made
  rw [List.length_range'] at built
  simp only [ofRows, built, flatMap_onesOf]

end MatrixProblem

end ExactCover
