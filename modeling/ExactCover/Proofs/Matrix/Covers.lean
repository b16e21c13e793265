import Mathlib.Data.Finset.Card
import Mathlib.Data.List.Sort
import ExactCover.Proofs.Matrix.Building
import ExactCover.Proofs.Search.Selection

/-!
# Covers of a matrix

The solutions of the problem of a matrix are its exact covers. Read as matrix rows in increasing
order, they are the choices of rows that have ones and that have exactly one 1 together in every
column; each of them is found once, and nothing else is found (`solutions_exact_covers`). Rows of
zeros, equal rows and columns of zeros are no exceptions.
-/

set_option autoImplicit false

namespace ExactCover

namespace MatrixProblem

/-- Rows that cover a matrix exactly: every one of them has a 1, and in every column there is one 1
among them. -/
structure IsExactCover (width : Nat) (rows : List (List Bool)) (chosen : List Nat) : Prop where
  nonzero : ∀ row ∈ chosen, ∃ column < width, entry rows row column = true
  once : ∀ column < width, chosen.countP (fun row => entry rows row column) = 1

instance (width : Nat) (rows : List (List Bool)) (chosen : List Nat) :
    Decidable (IsExactCover width rows chosen) :=
  decidable_of_iff
    ((∀ row ∈ chosen, ∃ column < width, entry rows row column = true) ∧
      ∀ column < width, chosen.countP (fun row => entry rows row column) = 1)
    ⟨fun ⟨nonzero, once⟩ => ⟨nonzero, once⟩, fun cover => ⟨cover.nonzero, cover.once⟩⟩

/-! ## Covers as selections -/

/-- One item of a list has a property if exactly one does. -/
theorem countP_eq_one_iff {items : List Nat} (once : items.Nodup) (property : Nat → Bool) :
    items.countP property = 1 ↔ ∃! item, item ∈ items ∧ property item = true := by
  rw [List.countP_eq_length_filter, ← List.toFinset_card_of_nodup (once.filter _),
    Finset.card_eq_one, Finset.singleton_iff_unique_mem]
  simp only [List.mem_toFinset, List.mem_filter]

/-- **The exact covers of a matrix are the selections of its plan.** -/
theorem isSelection_iff {width : Nat} {rows : List (List Bool)} {chosen : List Nat}
    (once : chosen.Nodup) :
    (plan width rows).IsSelection chosen.toFinset ↔ IsExactCover width rows chosen := by
  have isPrimary : ∀ header, header ∈ (plan width rows).primary ↔
      ∃ column < width, header = column + 1 := by
    intro header
    rw [plan, List.mem_range'_1]
    constructor
    · rintro ⟨first, last⟩
      exact ⟨header - 1, by omega, by omega⟩
    · rintro ⟨column, inside, rfl⟩
      omega
  constructor
  · rintro ⟨driven, primary, -⟩
    constructor
    · intro row isChosen
      obtain ⟨header, isHeader, here⟩ := driven row (List.mem_toFinset.2 isChosen)
      obtain ⟨column, inside, rfl⟩ := (isPrimary header).1 isHeader
      exact ⟨column, inside, (mem_steps_of_column row inside).1 here⟩
    · intro column inside
      rw [countP_eq_one_iff once]
      obtain ⟨row, ⟨isChosen, here⟩, only⟩ :=
        primary (column + 1) ((isPrimary _).2 ⟨column, inside, rfl⟩)
      refine ⟨row, ⟨List.mem_toFinset.1 isChosen, (mem_steps_of_column row inside).1 here⟩, ?_⟩
      rintro other ⟨otherChosen, isOne⟩
      exact only other ⟨List.mem_toFinset.2 otherChosen, (mem_steps_of_column other inside).2 isOne⟩
  · rintro ⟨nonzero, exactlyOne⟩
    constructor
    · intro row isChosen
      obtain ⟨column, inside, isOne⟩ := nonzero row (List.mem_toFinset.1 isChosen)
      exact ⟨column + 1, (isPrimary _).2 ⟨column, inside, rfl⟩, (mem_steps_of_column row inside).2 isOne⟩
    · intro header isHeader
      obtain ⟨column, inside, rfl⟩ := (isPrimary header).1 isHeader
      obtain ⟨row, ⟨isChosen, isOne⟩, only⟩ :=
        (countP_eq_one_iff once _).1 (exactlyOne column inside)
      refine ⟨row, ⟨List.mem_toFinset.2 isChosen, (mem_steps_of_column row inside).2 isOne⟩, ?_⟩
      rintro other ⟨otherChosen, here⟩
      exact only other ⟨List.mem_toFinset.1 otherChosen, (mem_steps_of_column other inside).1 here⟩
    · intro header isHeader
      cases isHeader

/-! ## Reading solutions -/

/-- Numbers put in order increase strictly if none occurs twice. -/
theorem mergeSort_increasing {numbers : List Nat} (once : numbers.Nodup) :
    numbers.mergeSort.Pairwise (· < ·) := by
  have apart : numbers.mergeSort.Nodup := (List.mergeSort_perm numbers _).nodup_iff.2 once
  exact (List.SortedLE.sortedLT_of_nodup List.sortedLE_mergeSort apart).pairwise

/-- Numbers put in order are told by their set. -/
theorem mergeSort_eq_iff {numbers chosen : List Nat} (once : numbers.Nodup)
    (increasing : chosen.Pairwise (· < ·)) :
    numbers.mergeSort = chosen ↔ numbers.toFinset = chosen.toFinset := by
  have perm := List.mergeSort_perm numbers (fun one other => decide (one ≤ other))
  constructor
  · rintro rfl
    exact (List.toFinset_eq_of_perm _ _ perm).symm
  · intro same
    refine List.Perm.eq_of_sortedLE List.sortedLE_mergeSort increasing.sortedLT.sortedLE ?_
    exact perm.trans (List.perm_of_nodup_nodup_toFinset_eq once increasing.sortedLT.nodup same)

section

variable {matrix : MatrixProblem} {plan : Plan} (first : plan.base = matrix.width + 1)
  (told : matrix.rowOfRecord = (plan.steps.map Prod.fst).toArray)
include first told

/-- The row of a record is that of its step. -/
theorem rowOf_record {node : Nat} (late : plan.base ≤ node)
    (early : node < plan.base + plan.steps.length) :
    matrix.rowOf (Link.record node) = .ok (plan.rowAt node) := by
  have place : (node : Int) - (matrix.width + 1) = (node - plan.base : Nat) := by omega
  have isStep : node - plan.base < plan.steps.length := by omega
  have found : matrix.rowOf? node = some (plan.rowAt node) := by
    rw [rowOf?, place, if_neg (by omega), Int.toNat_natCast, told, Plan.rowAt,
      List.getD_eq_getElem?_getD, List.getElem?_eq_getElem isStep]
    simp [isStep]
  simp only [rowOf, Link.toValue, Key.ofValue, Key.integer?, Key.number?, bind, Except.bind,
    Option.bind_some, found]

/-- **The rows of records** are read off without fail. -/
theorem rowsOf_linksTo {path : List Nat}
    (inside : ∀ node ∈ path, plan.base ≤ node ∧ node < plan.base + plan.steps.length) :
    matrix.rowsOf (linksTo path) = .ok (path.map plan.rowAt).mergeSort := by
  have all : (linksTo path).mapM matrix.rowOf = .ok (path.map plan.rowAt) := by
    rw [linksTo, List.mapM_map]
    refine mapM_of_ok fun node isNode => ?_
    exact rowOf_record first told (inside node isNode).1 (inside node isNode).2
  rw [rowsOf, all]
  rfl

end

/-! ## The solutions of a matrix -/

/-- There are as many names as columns. -/
theorem length_of_columnNames {width : Nat} {names : Value} {found : List Value}
    (named : columnNames width names = .ok found) : found.length = width := by
  rw [columnNames] at named
  split at named
  · obtain rfl := Except.ok.inj named
    simp [defaultNames]
  · cases counted : names.length with
    | error mismatch => simp [counted, Except.mapError, bind, Except.bind] at named
    | ok count =>
        simp only [counted, Except.mapError, bind, Except.bind] at named
        split at named
        · rename_i same
          cases read : names.items with
          | error mismatch => simp [read] at named
          | ok items =>
              rw [Value.length_eq_items_length read] at counted
              simp only [read, Except.ok.injEq] at named
              rw [← named, Except.ok.inj counted, same]
        · cases named

/-- A matrix of zeros and ones has columns. -/
theorem width_ne_zero_of_check {grid : Grid} {width : Nat} {rows : List (List Bool)}
    (checked : check grid = .ok (width, rows)) : width ≠ 0 := by
  rw [check] at checked
  split at checked
  · split at checked
    · cases checked
    · split at checked
      · obtain ⟨rfl, -⟩ := Prod.mk.inj (Except.ok.inj checked)
        assumption
      · cases checked
  · cases checked

/-- **A matrix that has a problem** is one of zeros and ones, and the problem follows its plan. -/
theorem follows_of_ofGrid {grid : Grid} {names : Value} {policy : Policy} {matrix : MatrixProblem}
    (accepted : ofGrid grid names policy = .ok matrix) :
    check grid = .ok (matrix.width, matrix.rows) ∧
      matrix.rowOfRecord = ((plan matrix.width matrix.rows).steps.map Prod.fst).toArray ∧
      ∃ web : Web, web.Follows (plan matrix.width matrix.rows) ∧
        matrix.problem = ⟨web.arena 0, policy, matrix.width⟩ := by
  cases checked : check grid with
  | error fault => simp [ofGrid, checked, bind, Except.bind] at accepted
  | ok read =>
      obtain ⟨width, rows⟩ := read
      cases named : columnNames width names with
      | error fault => simp [ofGrid, checked, named, bind, Except.bind] at accepted
      | ok list =>
          obtain ⟨web, follows, built⟩ := ofRows_follows rows (length_of_columnNames named) policy
          simp only [ofGrid, checked, named, built, bind, Except.bind, Except.mapError,
            Except.ok.injEq] at accepted
          subst accepted
          exact ⟨rfl, rfl, web, follows, rfl⟩

/-- **A matrix of zeros and ones has a problem** if its names fit. -/
theorem exists_ofGrid {grid : Grid} {width : Nat} {rows : List (List Bool)} {names : Value}
    {found : List Value} (checked : check grid = .ok (width, rows))
    (named : columnNames width names = .ok found) (policy : Policy) :
    ∃ matrix, ofGrid grid names policy = .ok matrix ∧ matrix.width = width ∧ matrix.rows = rows := by
  obtain ⟨web, -, built⟩ := ofRows_follows rows (length_of_columnNames named) policy
  simp only [ofGrid, checked, named, built, bind, Except.bind, Except.mapError]
  exact ⟨_, rfl, rfl, rfl⟩

/-- No column has more records than the matrix has rows. -/
theorem length_members_lt {width : Nat} {rows : List (List Bool)} {web : Web}
    (follows : web.Follows (plan width rows)) {bound : Int} (small : (rows.length : Int) < bound)
    (column : Nat) : (((plan width rows).layout.members column).length : Int) < bound := by
  have few := @Plan.length_members_le _ web follows (steps_nodup _ _) column _ id
    (fun _ _ _ _ same => same) fun _ isStep => row_lt_of_step isStep
  omega

/-- **The solutions of a matrix are its exact covers**, each of them once, with their rows in
increasing order. The search for a smallest column starts from a bound on the number of rows, which no
list that fits into memory reaches. -/
theorem solutions_exact_covers {grid : Grid} {names : Value} {policy : Policy}
    {matrix : MatrixProblem} (accepted : ofGrid grid names policy = .ok matrix)
    (small : policy = .smallest → (matrix.rows.length : Int) < Arena.sizeBound) :
    check grid = .ok (matrix.width, matrix.rows) ∧
      ∃ (answers : List (List Link)) (after : Problem) (covers : List (List Nat)),
        Problem.solutions none matrix.problem = .ok answers after ∧
          answers.mapM matrix.rowsOf = .ok covers ∧ covers.Nodup ∧
          ∀ chosen, chosen ∈ covers ↔
            chosen.Pairwise (· < ·) ∧ IsExactCover matrix.width matrix.rows chosen := by
  obtain ⟨checked, told, web, follows, made⟩ := follows_of_ofGrid accepted
  have wide := width_ne_zero_of_check checked
  have smallColumns : policy = .smallest → ∀ column ∈ (plan matrix.width matrix.rows).primary,
      (((plan matrix.width matrix.rows).layout.members column).length : Int) < Arena.sizeBound :=
    fun isSmallest column _ => length_members_lt follows (small isSmallest) column
  have nonempty : (plan matrix.width matrix.rows).primary ≠ [] := by
    rw [plan, Ne, List.range'_eq_nil_iff]
    exact wide
  obtain ⟨paths, after, solved, apart, once, complete⟩ := Plan.solutions_of_plan follows
    (steps_nodup _ _) nonempty smallColumns 0 matrix.width
  have read : ∀ path ∈ paths, matrix.rowsOf (linksTo path) =
      .ok (path.map (plan matrix.width matrix.rows).rowAt).mergeSort := fun path isPath =>
    rowsOf_linksTo rfl told (apart path isPath).2
  refine ⟨checked, paths.map linksTo, after,
    paths.map fun path => (path.map (plan matrix.width matrix.rows).rowAt).mergeSort, ?_, ?_, ?_,
    fun chosen => ?_⟩
  · rw [made]
    exact solved
  · rw [List.mapM_map]
    exact mapM_of_ok read
  · refine List.Nodup.of_map List.toFinset ?_
    have sets : paths.map (List.toFinset ∘ fun path =>
          (path.map (plan matrix.width matrix.rows).rowAt).mergeSort) =
        paths.map fun path => (path.map (plan matrix.width matrix.rows).rowAt).toFinset :=
      List.map_congr_left fun path _ =>
        List.toFinset_eq_of_perm _ _ (List.mergeSort_perm _ _)
    rw [List.map_map, sets]
    exact once
  · rw [List.mem_map]
    constructor
    · rintro ⟨path, isPath, rfl⟩
      have increasing := mergeSort_increasing (apart path isPath).1
      have same := (mergeSort_eq_iff (apart path isPath).1 increasing).1 rfl
      refine ⟨increasing, (isSelection_iff increasing.sortedLT.nodup).1 ?_⟩
      exact (complete _).1 (List.mem_map.2 ⟨path, isPath, same⟩)
    · rintro ⟨increasing, cover⟩
      have selection := (isSelection_iff increasing.sortedLT.nodup).2 cover
      obtain ⟨path, isPath, same⟩ := List.mem_map.1 ((complete _).2 selection)
      exact ⟨path, isPath, (mergeSort_eq_iff (apart path isPath).1 increasing).2 same⟩

/-- Two rows with one 1 each cover two columns, as does one row with two; a row of zeros is in no
cover. -/
theorem solutions_exact_covers_small :
    ∃ (matrix : MatrixProblem) (answers : List (List Link)) (after : Problem)
        (covers : List (List Nat)),
      ofGrid ⟨[4, 2], [.int 1, .int 0, .int 0, .int 1, .int 1, .int 1, .int 0, .int 0]⟩ .null
          .smallest = .ok matrix ∧
        Problem.solutions none matrix.problem = .ok answers after ∧
        answers.mapM matrix.rowsOf = .ok covers ∧
        [0, 1] ∈ covers ∧ [2] ∈ covers ∧ [2, 3] ∉ covers := by
  have checked : check
      ⟨[4, 2], [.int 1, .int 0, .int 0, .int 1, .int 1, .int 1, .int 0, .int 0]⟩ =
        .ok (2, [[true, false], [false, true], [true, true], [false, false]]) := by
    rfl
  have named : columnNames 2 .null = .ok ((defaultNames 2).map .text) := rfl
  obtain ⟨matrix, accepted, width, rows⟩ := exists_ofGrid checked named .smallest
  have small : Policy.smallest = .smallest → (matrix.rows.length : Int) < Arena.sizeBound := by
    rw [rows]
    decide
  obtain ⟨-, answers, after, covers, solved, read, -, complete⟩ :=
    solutions_exact_covers accepted small
  rw [width, rows] at complete
  refine ⟨matrix, answers, after, covers, accepted, solved, read, ?_, ?_, ?_⟩
  · exact (complete _).2 (by decide)
  · exact (complete _).2 (by decide)
  · rw [complete]
    decide

end MatrixProblem

end ExactCover
