import ExactCover.Proofs.Build.Names
import ExactCover.Proofs.Build.ReadingBack
import ExactCover.Proofs.Matrix.Covers

/-!
# Reading a matrix back

The arena of a matrix holds its ones and nothing else. The columns stand on the ring of the root in their
order and with their names. The records of a column are those of its ones from top to bottom, and the
records of a row are those of its ones from left to right, turned so that the record asked for comes
first. So an entry is 1 exactly if a walk down its column meets its row, and the records that have a
matrix row are those which are no columns (`mirrors_of_ofGrid`).

As the plan has its steps column by column, the ones of a column stand together in it
(`filter_steps_column`), while those of a row are spread over all columns, one step in each or none
(`filter_steps_row`).
-/

set_option autoImplicit false

namespace ExactCover.MatrixProblem

variable {width : Nat} {rows : List (List Bool)}

/-! ## The steps of a column and of a row -/

/-- The ones of a column are told by its entries. -/
theorem onesFrom_eq_filter (first : Nat) (column : List Bool) :
    onesFrom first column =
      (List.range' first column.length).filter fun row => column.getD (row - first) false := by
  induction column generalizing first with
  | nil => rfl
  | cons one column ih =>
      have later : (List.range' (first + 1) column.length).filter
            (fun row => column.getD (row - (first + 1)) false) =
          (List.range' (first + 1) column.length).filter
            (fun row => (one :: column).getD (row - first) false) := by
        refine List.filter_congr fun row inside => ?_
        have next : row - first = row - (first + 1) + 1 := by
          have := (List.mem_range'_1.1 inside).1
          omega
        rw [next, List.getD_cons_succ]
      rw [onesFrom, ih, later, List.length_cons, List.range'_succ, List.filter_cons, Nat.sub_self,
        List.getD_cons_zero]

/-- The ones of a column of a matrix. -/
theorem onesOf_columnAt (rows : List (List Bool)) (column : Nat) :
    onesOf (columnAt rows column) =
      (List.range rows.length).filter fun row => entry rows row column := by
  rw [onesOf_eq, onesFrom_eq_filter, columnAt, List.length_map, List.range_eq_range']
  refine List.filter_congr fun row _ => ?_
  rw [Nat.sub_zero]
  exact getD_columnAt rows row column

/-- **The steps in a column** are those of its ones, from top to bottom. -/
theorem filter_steps_column {column : Nat} (inside : column < width) :
    ((plan width rows).steps.filter (·.2 == column + 1)).map Prod.fst =
      (List.range rows.length).filter fun row => entry rows row column := by
  have own : (stepsAt rows column).filter (·.2 == column + 1) = stepsAt rows column :=
    List.filter_eq_self.2 fun step isStep => by simpa using (mem_stepsAt.1 isStep).1
  have others : ∀ other ∈ List.range width, other ≠ column →
      (stepsAt rows other).filter (·.2 == column + 1) = [] := by
    intro other _ different
    refine List.filter_eq_nil_iff.2 fun step isStep => ?_
    have header := (mem_stepsAt.1 isStep).1
    simp only [beq_iff_eq]
    omega
  rw [plan, List.filter_flatMap,
    flatMap_eq_of_only List.nodup_range (List.mem_range.2 inside) others, own, ← onesOf_columnAt,
    stepsAt, List.map_map]
  exact List.map_id _

/-- A row has one step in a column or none. -/
theorem filter_stepsAt (row column : Nat) :
    (stepsAt rows column).filter (·.1 == row) =
      if entry rows row column then [(row, column + 1)] else [] := by
  have once : (onesOf (columnAt rows column)).Nodup := onesOf_eq (columnAt rows column) ▸
    onesFrom_nodup 0 _
  have isOne : row ∈ onesOf (columnAt rows column) ↔ entry rows row column = true := by
    rw [onesOf_eq, mem_onesFrom, getD_columnAt, Nat.sub_zero, and_iff_right (Nat.zero_le _)]
  rw [stepsAt, List.filter_map]
  change ((onesOf (columnAt rows column)).filter (· == row)).map _ = _
  rw [List.filter_beq, once.count]
  simp only [isOne]
  split <;> rfl

/-- **The steps of a row** are those of its ones, from left to right. -/
theorem filter_steps_row (row : Nat) :
    ((plan width rows).steps.filter (·.1 == row)).map Prod.snd =
      ((List.range width).filter fun column => entry rows row column).map (· + 1) := by
  rw [plan, List.filter_flatMap]
  simp only [filter_stepsAt]
  rw [flatMap_ite, List.map_map]
  rfl

/-! ## The names of the columns -/

theorem adds_addOne (header : Link) (last : Option Link) :
    Adds Arena.names [none] (addOne header last) := by
  refine Arena.adds_newNode.bind fun node => (Arena.adds_append header node).then fun _ => ?_
  cases last with
  | none => exact adds_pure _
  | some neighbour => exact Arena.adds_insert neighbour _

theorem keeps_addColumn (header : Link) (column : List Bool) (lasts : List (Option Link)) :
    Keeps Arena.names (addColumn header column lasts) := by
  induction column generalizing lasts with
  | nil => exact (adds_pure []).keeps
  | cons one column ih =>
      cases lasts with
      | nil => exact (adds_pure []).keeps
      | cons last lasts =>
          have onward : ∀ last : Option Link,
              Keeps Arena.names (return last :: (← addColumn header column lasts)) := fun last =>
            (ih lasts).bind fun others => (adds_pure (last :: others)).keeps
          cases one with
          | false => exact onward last
          | true =>
              have made : Keeps Arena.names (some <$> addOne header last) :=
                (adds_addOne header last).keeps.bind fun node => (adds_pure (some node)).keeps
              exact made.bind onward

theorem keeps_addOnes (columns : List (Link × List Bool)) (lasts : List (Option Link)) :
    Keeps Arena.names (addOnes columns lasts) := by
  induction columns generalizing lasts with
  | nil => exact (adds_pure ()).keeps
  | cons column columns ih => exact (keeps_addColumn column.1 column.2 lasts).bind fun lasts => ih lasts

/-- The column that stands for a column of the matrix. -/
def header (column : Nat) : Link := .record (column + 1 : Nat)

/-- **The columns are named** as the names say, in their order. -/
theorem names_of_ofGrid {grid : Grid} {names : Value} {policy : Policy} {matrix : MatrixProblem}
    (accepted : ofGrid grid names policy = .ok matrix) :
    ∃ found others, columnNames matrix.width names = .ok found ∧
      matrix.problem.names = some .null :: found.map some ++ others := by
  cases checked : check grid with
  | error fault => simp [ofGrid, checked, bind, Except.bind] at accepted
  | ok read =>
      obtain ⟨width, rows⟩ := read
      cases named : columnNames width names with
      | error fault => simp [ofGrid, checked, named, bind, Except.bind] at accepted
      | ok found =>
          simp only [ofGrid, checked, named, bind, Except.bind, ofRows] at accepted
          split at accepted
          · cases accepted
            rename_i problem built
            obtain ⟨headers, middle, madeColumns, madeOnes⟩ := of_bind built
            rw [addColumns_eq] at madeColumns
            have columns := Problem.adds_addColumns (some root) found _ _ _ madeColumns
            obtain ⟨others, behind⟩ := Problem.keeps_links (keeps_addOnes _ _) _ _ _ madeOnes
            rw [columns] at behind
            exact ⟨found, others, named, behind.symm⟩
          · cases accepted

/-- The name of a column. -/
theorem columnName_header {problem : Problem} {found : List Value} {others : List (Option Value)}
    (names : problem.names = some .null :: found.map some ++ others) {column : Nat}
    (inside : column < found.length) :
    problem.arena.columnName (header column) = .ok (found.getD column .null) := by
  apply Arena.columnName_of_names
  change problem.names[column + 1]? = _
  rw [names, List.cons_append, List.getElem?_cons_succ,
    List.getElem?_append_left (by simpa using inside)]
  simp [List.getD_eq_getElem?_getD, inside]

/-! ## What the arena tells -/

/-- The arena of a problem tells the columns, the names and the ones of its matrix. -/
structure Mirrors (matrix : MatrixProblem) (names : List Value) : Prop where
  /-- The ring of the root has a column for each column of the matrix, in their order. -/
  active : matrix.problem.arena.activeHeaders = .ok ((List.range matrix.width).map header)
  /-- They have the names, in their order. -/
  named : ((List.range matrix.width).map header).mapM matrix.problem.arena.columnName = .ok names
  /-- A walk down a column meets the rows with a 1 in it, from top to bottom. The size counts them. -/
  column : ∀ column < matrix.width, ∃ walk,
    matrix.problem.arena.column (header column) = .ok walk ∧
      walk.mapM matrix.rowOf =
        .ok ((List.range matrix.rows.length).filter fun row => entry matrix.rows row column) ∧
      matrix.problem.arena.columnSize (header column) = .ok (walk.length : Int)
  /-- Going round a row lists the records of the row, from the one asked for on. They stand in the
  columns in which the row has a 1, from left to right, turned to begin with the column of this one. -/
  row : ∀ (node : Int) (row : Nat), matrix.rowOf (.record node) = .ok row →
    ∃ others columns, matrix.problem.arena.row (.record node) = .ok (.record node :: others) ∧
      (∀ other : Int, .record other ∈ Link.record node :: others ↔
        matrix.rowOf (.record other) = .ok row) ∧
      matrix.problem.arena.rowColumns (.record node) = .ok columns ∧
      columns.IsRotated
        (((List.range matrix.width).filter fun column => entry matrix.rows row column).map header)
  /-- An entry is 1 if a walk down its column meets its row. -/
  ones : ∀ row, ∀ column < matrix.width, entry matrix.rows row column = true ↔
    ∃ walk node, matrix.problem.arena.column (header column) = .ok walk ∧ node ∈ walk ∧
      matrix.rowOf node = .ok row
  /-- The records that have a row are those that are no columns. -/
  defined : ∀ place : Int, (∃ row, matrix.rowOf (.record place) = .ok row) ↔
    matrix.problem.arena.IsRowRecord place

section

variable {matrix : MatrixProblem}
  (told : matrix.rowOfRecord = ((plan matrix.width matrix.rows).steps.map Prod.fst).toArray)
include told

/-- **The rows of records** are told by the plan. -/
theorem rowOf_tells : (plan matrix.width matrix.rows).Tells matrix.rowOf id := by
  intro place row
  constructor
  · intro reads
    have found : matrix.rowOf? place = some row := by
      simp only [rowOf, Link.toValue, Key.ofValue, Key.integer?, Key.number?, bind, Except.bind,
        Option.bind_some] at reads
      split at reads
      · rename_i same
        rw [same, Except.ok.inj reads]
      · cases reads
    simp only [rowOf?] at found
    split at found
    · cases found
    · rename_i late
      obtain ⟨early, -⟩ := Array.getElem?_eq_some_iff.1 found
      rw [told, List.size_toArray, List.length_map] at early
      have base : (plan matrix.width matrix.rows).base = matrix.width + 1 := rfl
      obtain ⟨node, rfl⟩ := Int.eq_ofNat_of_zero_le (a := place) (by omega)
      have isNode : node ∈ (plan matrix.width matrix.rows).layout.nodes :=
        Plan.mem_nodes_iff.2 ⟨by omega, by omega⟩
      obtain ⟨first, last⟩ := Plan.bounds_of_node isNode
      refine ⟨node, isNode, rfl, ?_⟩
      exact Except.ok.inj ((rowOf_record rfl told first last).symm.trans reads)
  · rintro ⟨node, isNode, rfl, rfl⟩
    obtain ⟨first, last⟩ := Plan.bounds_of_node isNode
    exact rowOf_record rfl told first last

variable {web : Web} (follows : web.Follows (plan matrix.width matrix.rows)) {policy : Policy}
  (made : matrix.problem = ⟨web.arena 0, policy, matrix.width⟩)
include follows made

/-- What a walk down a column meets. -/
theorem column_header {column : Nat} (inside : column < matrix.width) :
    ∃ walk, matrix.problem.arena.column (header column) = .ok walk ∧
      walk.mapM matrix.rowOf =
        .ok ((List.range matrix.rows.length).filter fun row => entry matrix.rows row column) ∧
      matrix.problem.arena.columnSize (header column) = .ok (walk.length : Int) := by
  have isColumn : column + 1 ∈ (plan matrix.width matrix.rows).frame.columns :=
    List.mem_append_left _ (List.mem_range'_1.2 ⟨by omega, by omega⟩)
  rw [made, ← filter_steps_column inside]
  have walked := (rowOf_tells told).column follows (steps_nodup _ _) 0 isColumn
  rwa [List.map_id] at walked

/-- What is met on the way round a row. -/
theorem row_record {place : Int} {row : Nat} (reads : matrix.rowOf (.record place) = .ok row) :
    ∃ others columns, matrix.problem.arena.row (.record place) = .ok (.record place :: others) ∧
      (∀ other : Int, .record other ∈ Link.record place :: others ↔
        matrix.rowOf (.record other) = .ok row) ∧
      matrix.problem.arena.rowColumns (.record place) = .ok columns ∧
      columns.IsRotated
        (((List.range matrix.width).filter fun column => entry matrix.rows row column).map header) := by
  have once := steps_nodup matrix.width matrix.rows
  obtain ⟨node, isNode, rfl, rfl⟩ := (rowOf_tells told _ _).1 reads
  obtain ⟨others, row, members, -⟩ :=
    (rowOf_tells told).row follows once 0 Function.injective_id isNode
  have columns := @Layout.rowColumns_web _ web [] ((plan _ _).proper follows once) follows.shows
    Layout.isTrail_nil node isNode 0
  have steps := (Plan.columns_follows follows isNode).map fun column : Nat => Link.record column
  rw [filter_steps_row, List.map_map] at steps
  rw [made]
  exact ⟨others, _, row, members, columns, steps⟩

/-- The ones of a matrix are met by walks. -/
theorem entry_eq_true_iff (row : Nat) {column : Nat} (inside : column < matrix.width) :
    entry matrix.rows row column = true ↔
      ∃ walk node, matrix.problem.arena.column (header column) = .ok walk ∧ node ∈ walk ∧
        matrix.rowOf node = .ok row := by
  obtain ⟨walk, walked, reads, -⟩ := column_header told follows made inside
  have met := @mem_iff_of_mapM _ _ _ _ _ _ reads row
  rw [List.mem_filter, List.mem_range] at met
  constructor
  · intro isOne
    obtain ⟨node, isMember, here⟩ := met.1 ⟨lt_length_of_entry isOne, isOne⟩
    exact ⟨walk, node, walked, isMember, here⟩
  · rintro ⟨_, node, same, isMember, here⟩
    cases walked.symm.trans same
    exact (met.2 ⟨node, isMember, here⟩).2

end

/-- **A matrix can be read back** from the problem that was made of it, for any grid and names that are
accepted. -/
theorem mirrors_of_ofGrid {grid : Grid} {names : Value} {policy : Policy} {matrix : MatrixProblem}
    (accepted : ofGrid grid names policy = .ok matrix) :
    check grid = .ok (matrix.width, matrix.rows) ∧
      ∃ found, columnNames matrix.width names = .ok found ∧ matrix.Mirrors found := by
  obtain ⟨checked, told, web, follows, made⟩ := follows_of_ofGrid accepted
  obtain ⟨found, others, named, names⟩ := names_of_ofGrid accepted
  have once := steps_nodup matrix.width matrix.rows
  have whole := length_of_columnNames named
  refine ⟨checked, found, named, ?_, ?_, fun column inside => column_header told follows made inside,
    fun place row reads => row_record told follows made reads,
    fun row column inside => entry_eq_true_iff told follows made row inside, ?_⟩
  · have primary : linksTo (plan matrix.width matrix.rows).primary =
        (List.range matrix.width).map header := by
      rw [plan, linksTo, List.range'_eq_map_range, List.map_map]
      exact List.map_congr_left fun column _ => by
        rw [Function.comp_apply, Nat.add_comm, header]
    rw [made, ← primary]
    exact Plan.activeHeaders_follows follows once 0
  · have all : (List.range matrix.width).map (fun column => found.getD column .null) = found := by
      refine List.ext_getElem (by simp [whole]) fun column _ inside => ?_
      simp [List.getD_eq_getElem?_getD, inside]
    rw [List.mapM_map]
    refine (mapM_of_ok fun column inside => ?_).trans (congrArg Except.ok all)
    exact columnName_header names (whole.symm ▸ List.mem_range.1 inside)
  · rw [made]
    exact (rowOf_tells told).exists_read_iff follows once 0

/-- Two columns with names: a walk down the second one meets the rows 1 and 2, the records of row 2 stand
in both columns, and the row of zeros is met by no walk. -/
theorem mirrors_of_ofGrid_small :
    ∃ (matrix : MatrixProblem) (walk : List Link),
      ofGrid ⟨[4, 2], [.int 1, .int 0, .int 0, .int 1, .int 1, .int 1, .int 0, .int 0]⟩
          (.list [.text "left", .text "right"]) .smallest = .ok matrix ∧
        [header 0, header 1].mapM matrix.problem.arena.columnName =
          .ok [.text "left", .text "right"] ∧
        matrix.problem.arena.column (header 1) = .ok walk ∧ walk.mapM matrix.rowOf = .ok [1, 2] ∧
        (∀ node : Int, matrix.rowOf (.record node) = .ok 2 →
          ∃ columns, matrix.problem.arena.rowColumns (.record node) = .ok columns ∧
            columns.IsRotated [header 0, header 1]) ∧
        ¬ ∃ walk node, matrix.problem.arena.column (header 0) = .ok walk ∧ node ∈ walk ∧
          matrix.rowOf node = .ok 3 := by
  have checked : check
      ⟨[4, 2], [.int 1, .int 0, .int 0, .int 1, .int 1, .int 1, .int 0, .int 0]⟩ =
        .ok (2, [[true, false], [false, true], [true, true], [false, false]]) := by
    rfl
  have named : columnNames 2 (.list [.text "left", .text "right"]) =
      .ok [.text "left", .text "right"] := rfl
  obtain ⟨matrix, accepted, width, rows⟩ := exists_ofGrid checked named .smallest
  obtain ⟨-, found, names, mirrors⟩ := mirrors_of_ofGrid accepted
  rw [width] at names
  cases named.symm.trans names
  have columns := mirrors.named
  obtain ⟨walk, walked, met, -⟩ := mirrors.column 1 (by rw [width]; decide)
  have zeros := mirrors.ones 3 0 (by rw [width]; decide)
  rw [width] at columns
  rw [rows] at met zeros
  refine ⟨matrix, walk, accepted, columns, walked, met, fun node reads => ?_, ?_⟩
  · obtain ⟨-, columns, -, -, read, turned⟩ := mirrors.row node 2 reads
    rw [width, rows] at turned
    exact ⟨columns, read, turned⟩
  · rw [← zeros]
    decide

end ExactCover.MatrixProblem
