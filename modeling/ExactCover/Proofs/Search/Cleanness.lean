import ExactCover.Proofs.Matrix.Covers
import ExactCover.Proofs.Queens.Boards
import ExactCover.Proofs.Search.Histories

/-!
# Clean problems

Whether a problem is clean is told by a count: as many columns are on the ring of the root as were put
there. That looks at no row, at no size and at no secondary column. It is enough all the same, if every
row meets a primary column (`Layout.Driven`): as long as a decision is in force, one of its columns is
missing on the ring of the root.

So a problem is clean if nothing is covered (`isClean_web`). Then every record is as it was, and as the
links of a problem tell which columns are on the ring of the root, no other problem has the same records
(`snapshot_web_iff`). In a matrix all columns are primary, and on a board every square has a rank; so
both kinds of problems are clean exactly when all of their records are as they were built, whatever has
been done in the meantime (`clean_iff_snapshot`).
-/

set_option autoImplicit false

namespace ExactCover

/-! ## Snapshots -/

theorem Link.toInt_record (number : Int) : (Link.record number).toInt = number := rfl

namespace Web

variable {one other : Web}

/-- A record of a web is told by its numbers and its name. -/
theorem node_of_numbers {place : Nat} (names : one.name? place = other.name? place)
    (same : (one.node place).numbers = (other.node place).numbers) :
    one.node place = other.node place := by
  simp only [Node.numbers, node, Link.toInt_record, List.cons.injEq, and_true] at same
  obtain ⟨left, right, up, down, column, size⟩ := same
  simp only [node, left, right, up, down, column, names]
  congr 1
  cases named : other.name? place with
  | none => rfl
  | some name =>
      simp only [names, named, Option.map_some, Option.getD_some] at size
      rw [Option.map_some, Option.map_some, size]

/-- **Webs with the same snapshot have the same records**, if their columns have the same names. -/
theorem nodes_of_snapshot {updates more : Nat} (counts : one.count = other.count)
    (names : one.name? = other.name?)
    (same : (one.arena updates).snapshot = (other.arena more).snapshot) :
    (one.arena updates).nodes = (other.arena more).nodes := by
  refine Array.ext (by simp [arena, counts]) fun place inOne inOther => ?_
  have numbers := congrArg (·[place]?) same
  have inside : place < one.count := by simpa [arena] using inOne
  simp only [Arena.snapshot, List.getElem?_map, Array.getElem?_toList,
    Array.getElem?_eq_getElem inOne, Array.getElem?_eq_getElem inOther, Option.map_some,
    Option.some.injEq] at numbers
  simp only [arena, Array.getElem_ofFn] at numbers ⊢
  exact node_of_numbers (congrFun names place) numbers

end Web

namespace Layout

variable {layout : Layout} {start : Web} {covered : List Nat} {held : List Hold} {policy : Policy}

/-! ## Layouts whose rows all meet primary columns -/

/-- Every row meets a primary column. -/
def Driven (layout : Layout) : Prop :=
  ∀ node ∈ layout.nodes, ∃ column ∈ layout.columnsOf node, column ∈ layout.primary

/-- All primary columns are left if none of them is covered. -/
theorem active_eq_primary :
    layout.active covered = layout.primary ↔ ∀ column ∈ layout.primary, column ∉ covered := by
  simp [active, List.filter_eq_self]

/-- **A decision leaves a primary column covered.** -/
theorem Carries.active_eq_primary_iff (driven : layout.Driven) (carries : layout.Carries held covered) :
    layout.active covered = layout.primary ↔ covered = [] := by
  rw [active_eq_primary]
  constructor
  · intro free
    by_contra nonempty
    obtain ⟨column, isCovered⟩ := List.exists_mem_of_ne_nil _ nonempty
    obtain ⟨node, isNode, -, -, all⟩ := carries.exists_decision isCovered
    obtain ⟨other, isOwn, isPrimary⟩ := driven node isNode
    exact free other isPrimary (all other isOwn)
  · rintro rfl column -
    exact List.not_mem_nil

section

variable (proper : layout.Proper) (built : start.Shows layout []) (driven : layout.Driven)
  (carries : layout.Carries held covered)
include proper built driven carries

/-- **A problem is clean if no decision is in force.** -/
theorem isClean_web (updates : Nat) :
    Problem.isClean ⟨(layout.web start covered).arena updates, policy, layout.primary.length⟩ =
      .ok (inForce held).isEmpty := by
  rw [isClean_trail proper built (carries.trail built.sound proper)]
  congr 1
  rw [Bool.eq_iff_iff, decide_eq_true_iff, List.isEmpty_iff, ← carries.eq_nil_iff,
    ← carries.active_eq_primary_iff driven, active_eq_primary]

/-- **The records are as they were built if no decision is in force.** -/
theorem snapshot_web_iff (updates more : Nat) :
    ((layout.web start covered).arena updates).snapshot = (start.arena more).snapshot ↔
      inForce held = [] := by
  rw [← carries.eq_nil_iff]
  constructor
  · intro same
    have nodes := Web.nodes_of_snapshot (count_web covered) (name?_web covered) same
    have arenas : (layout.web start covered).arena updates = start.arena updates :=
      congrArg (Arena.mk · updates) nodes
    have now := activeHeaders_web proper built (carries.trail built.sound proper) updates
    have before := activeHeaders_web proper built isTrail_nil updates
    rw [arenas] at now
    rw [active_nil] at before
    exact (carries.active_eq_primary_iff driven).1
      (linksTo_injective (Except.ok.inj (now.symm.trans before)))
  · rintro rfl
    rfl

end

end Layout

/-! ## Matrices and boards -/

namespace Plan

variable {plan : Plan} {web : Web} (follows : web.Follows plan) (once : plan.steps.Nodup)
include follows

/-- Every row of a plan meets a primary column if every step belongs to a row with such a step. -/
theorem driven (primary : ∀ step ∈ plan.steps, ∃ column ∈ plan.primary, (step.1, column) ∈ plan.steps) :
    plan.layout.Driven := by
  intro node isNode
  obtain ⟨row, isRow, inside⟩ := Layout.mem_nodes.1 isNode
  obtain ⟨number, occurs, rfl⟩ := List.mem_map.1 isRow
  obtain ⟨step, isStep, rfl⟩ := List.mem_map.1 (List.mem_dedup.1 occurs)
  obtain ⟨column, isPrimary, here⟩ := primary step isStep
  refine ⟨column, (mem_columnsOf_iff follows isNode).2 ?_, isPrimary⟩
  rwa [rowAt_of_mem inside]

include once

/-- **A problem that follows a plan is clean exactly when all of its records are as they were built.** -/
theorem clean_iff (primary : ∀ step ∈ plan.steps, ∃ column ∈ plan.primary, (step.1, column) ∈ plan.steps)
    (small : ∀ column ∈ plan.primary,
      ((plan.layout.members column).length : Int) < Arena.sizeBound) {policy : Policy}
    {held : List Hold} {current : Problem}
    (reached : Problem.Reached ⟨web.arena 0, policy, plan.primary.length⟩ held current) :
    current.isClean = .ok (inForce held).isEmpty ∧
      (current.isClean = .ok true ↔ current.arena.snapshot = (web.arena 0).snapshot) := by
  have proper := plan.proper follows once
  have driven := plan.driven follows primary
  obtain ⟨covered, more, carries, rfl⟩ :=
    Layout.reached_web proper follows.shows small reached
  have told := @Layout.isClean_web _ _ _ _ policy proper follows.shows driven carries more
  refine ⟨told, (Eq.congr_left told).trans ?_⟩
  rw [Layout.snapshot_web_iff proper follows.shows driven carries, Except.ok.injEq,
    List.isEmpty_iff]

/-- A row may be committed and undone. -/
theorem exists_reached (small : ∀ column ∈ plan.primary,
      ((plan.layout.members column).length : Int) < Arena.sizeBound) (policy : Policy) {node : Nat}
    (isNode : node ∈ plan.layout.nodes) :
    ∃ committed restored,
      Problem.Reached ⟨web.arena 0, policy, plan.primary.length⟩ [.committed [.record node]]
          committed ∧
        Problem.Reached ⟨web.arena 0, policy, plan.primary.length⟩ [.committed []] restored := by
  have proper := plan.proper follows once
  have begun : Problem.Reached ⟨web.arena 0, policy, plan.primary.length⟩ [.committed []] _ :=
    Problem.Reached.start.begin
  obtain ⟨committed, reached⟩ := Layout.commit_reached proper follows.shows small begun isNode
    (by simp [inForce, Hold.decisions])
  obtain ⟨restored, back⟩ := @Layout.undo_reached _ _ _ _ _ proper follows.shows small _ _ _ reached
    [] [.record node] rfl
  exact ⟨committed, restored, reached, back⟩

end Plan

/-- In a matrix every column is primary. -/
theorem MatrixProblem.steps_primary {width : Nat} {rows : List (List Bool)} :
    ∀ step ∈ (plan width rows).steps,
      ∃ column ∈ (plan width rows).primary, (step.1, column) ∈ (plan width rows).steps := by
  rintro ⟨row, header⟩ isStep
  obtain ⟨column, inside, rfl, -⟩ := mem_steps_iff.1 isStep
  exact ⟨column + 1, List.mem_range'_1.2 ⟨by omega, by omega⟩, isStep⟩

/-- On a board every square has a rank. -/
theorem QueensProblem.steps_primary {side : Nat} :
    ∀ step ∈ (plan side).steps, ∃ column ∈ (plan side).primary, (step.1, column) ∈ (plan side).steps := by
  rintro ⟨square, column⟩ isStep
  obtain ⟨inside, -⟩ := mem_steps_iff.1 isStep
  have onRank := (coordinates_lt inside).1
  have isPrimary : 1 + square / side ∈ (plan side).primary :=
    List.mem_range'_1.2 ⟨Nat.le_add_right _ _, by omega⟩
  exact ⟨_, isPrimary, mem_steps_iff.2 ⟨inside, .inl rfl⟩⟩

/-- **A matrix and a board are clean exactly when all of their records are as they were built**, after
whatever has been done: rows committed, answers searched for and undone, solutions collected, cursors
begun, moved and closed. (No column has more rows than a search can count.) -/
theorem clean_iff_snapshot :
    (∀ {grid : Grid} {names : Value} {policy : Policy} {matrix : MatrixProblem},
      MatrixProblem.ofGrid grid names policy = .ok matrix →
      (matrix.rows.length : Int) < Arena.sizeBound →
      ∀ {held : List Hold} {current : Problem}, matrix.problem.Reached held current →
        current.isClean = .ok (inForce held).isEmpty ∧
          (current.isClean = .ok true ↔ current.arena.snapshot = matrix.problem.arena.snapshot)) ∧
    ∀ {size : Value} {policy : Policy} {queens : QueensProblem},
      QueensProblem.ofSize size policy = .ok queens → (queens.side : Int) < Arena.sizeBound →
      ∀ {held : List Hold} {current : Problem}, queens.problem.Reached held current →
        current.isClean = .ok (inForce held).isEmpty ∧
          (current.isClean = .ok true ↔ current.arena.snapshot = queens.problem.arena.snapshot) := by
  constructor
  · intro grid names policy matrix accepted small held current reached
    obtain ⟨-, -, web, follows, made⟩ := MatrixProblem.follows_of_ofGrid accepted
    have counted : (MatrixProblem.plan matrix.width matrix.rows).primary.length = matrix.width :=
      List.length_range'
    rw [made, ← counted] at reached
    rw [made]
    exact Plan.clean_iff follows (MatrixProblem.steps_nodup _ _) MatrixProblem.steps_primary
      (fun column _ => MatrixProblem.length_members_lt follows small column) reached
  · intro size policy queens accepted small held current reached
    obtain ⟨-, web, follows, made⟩ := QueensProblem.follows_of_ofSize accepted
    have counted : (QueensProblem.plan queens.side).primary.length = 2 * queens.side :=
      List.length_range'
    rw [made, ← counted] at reached
    rw [made]
    exact Plan.clean_iff follows (QueensProblem.steps_nodup _) QueensProblem.steps_primary
      (QueensProblem.small_members follows (fun _ => small) rfl) reached

/-- A matrix with two rows and a board with one square are clean, they are not clean while a row is
committed, and they are clean again once it is undone. -/
theorem clean_iff_snapshot_small :
    (∃ (matrix : MatrixProblem) (committed restored : Problem),
      MatrixProblem.ofGrid ⟨[2, 2], [.int 1, .int 0, .int 0, .int 1]⟩ .null .smallest = .ok matrix ∧
        matrix.problem.Reached [.committed [.record 3]] committed ∧
        committed.isClean = .ok false ∧
        committed.arena.snapshot ≠ matrix.problem.arena.snapshot ∧
        matrix.problem.Reached [.committed []] restored ∧ restored.isClean = .ok true ∧
        restored.arena.snapshot = matrix.problem.arena.snapshot) ∧
    ∃ (queens : QueensProblem) (committed restored : Problem),
      QueensProblem.ofSize (.int 1) .first = .ok queens ∧
        queens.problem.Reached [.committed [.record 5]] committed ∧
        committed.isClean = .ok false ∧
        committed.arena.snapshot ≠ queens.problem.arena.snapshot ∧
        queens.problem.Reached [.committed []] restored ∧ restored.isClean = .ok true ∧
        restored.arena.snapshot = queens.problem.arena.snapshot := by
  constructor
  · have checked : MatrixProblem.check ⟨[2, 2], [.int 1, .int 0, .int 0, .int 1]⟩ =
        .ok (2, [[true, false], [false, true]]) := rfl
    have named : MatrixProblem.columnNames 2 .null = .ok ((MatrixProblem.defaultNames 2).map .text) :=
      rfl
    obtain ⟨matrix, accepted, width, rows⟩ := MatrixProblem.exists_ofGrid checked named .smallest
    have small : (matrix.rows.length : Int) < Arena.sizeBound := by
      rw [rows]
      decide
    obtain ⟨-, -, web, follows, made⟩ := MatrixProblem.follows_of_ofGrid accepted
    have isNode : 3 ∈ (MatrixProblem.plan matrix.width matrix.rows).layout.nodes := by
      rw [width, rows]
      decide
    have counted : (MatrixProblem.plan matrix.width matrix.rows).primary.length = matrix.width :=
      List.length_range'
    obtain ⟨committed, restored, reached, back⟩ := Plan.exists_reached follows
      (MatrixProblem.steps_nodup _ _)
      (fun column _ => MatrixProblem.length_members_lt follows small column) .smallest isNode
    rw [counted, ← made] at reached back
    obtain ⟨unclean, changed⟩ := clean_iff_snapshot.1 accepted small reached
    obtain ⟨clean, same⟩ := clean_iff_snapshot.1 accepted small back
    refine ⟨matrix, committed, restored, accepted, reached, unclean, fun as => ?_, back, clean,
      same.1 clean⟩
    cases unclean.symm.trans (changed.2 as)
  · obtain ⟨web, follows, made⟩ := QueensProblem.ofSize_follows (Nat.one_pos) .first
    have small : ((1 : Nat) : Int) < Arena.sizeBound := by decide
    have isNode : 5 ∈ (QueensProblem.plan 1).layout.nodes := by decide
    obtain ⟨committed, restored, reached, back⟩ := Plan.exists_reached follows
      (QueensProblem.steps_nodup _) (QueensProblem.small_members follows (fun _ => small) rfl) .first
      isNode
    obtain ⟨unclean, changed⟩ := clean_iff_snapshot.2 made small reached
    obtain ⟨clean, same⟩ := clean_iff_snapshot.2 made small back
    refine ⟨_, committed, restored, made, reached, unclean, fun as => ?_, back, clean,
      same.1 clean⟩
    cases unclean.symm.trans (changed.2 as)

end ExactCover
