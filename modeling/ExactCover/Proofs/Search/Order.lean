import ExactCover.Proofs.Cover.Walks
import ExactCover.Proofs.Search.Collecting

/-!
# The order of decisions

Rows that share no column may be decided for in any order, and each may be named by any of its records.
The arenas that this leads to differ: what is out of its ring keeps links that tell when it was taken
out. But nothing that is still on a ring does. The ring of the root and the uncovered columns are told by
which columns are covered and not by when that was done (`active_congr`, `live_congr`), so Algorithm X
is left with the same columns and rows (`demandsLeft_congr`), and it does not look at anything else.

Main statement: `order_of_decisions`.
-/

set_option autoImplicit false

namespace ExactCover

namespace Layout

variable {layout : Layout} {covered others : List Nat} {count : Nat}

/-! ## What depends only on which columns are covered -/

section

variable (same : ∀ column, column ∈ covered ↔ column ∈ others)
include same

/-- The columns that are left. -/
theorem active_congr : layout.active covered = layout.active others := by
  apply List.filter_congr
  intro column _
  simp only [same]

/-- The rows that are met. -/
theorem meets_congr_covered (node : Nat) : layout.meets covered node = layout.meets others node := by
  rw [Bool.eq_iff_iff, meets_eq_true, meets_eq_true]
  simp only [same]

/-- The records of an uncovered column, in their order. -/
theorem live_congr (sound : layout.Sound count) {column : Nat} (uncovered : column ∉ covered) :
    layout.live covered column = layout.live others column := by
  have uncovered' : column ∉ others := fun inside => uncovered ((same column).2 inside)
  rw [live_eq_unmet sound uncovered, live_eq_unmet sound uncovered']
  apply List.filter_congr
  intro node _
  rw [meets_congr_covered same]

/-- **What is left to Algorithm X.** -/
theorem demandsLeft_congr (sound : layout.Sound count) :
    layout.demandsLeft covered = layout.demandsLeft others := by
  rw [demandsLeft, demandsLeft, ← active_congr same]
  apply List.map_congr_left
  intro column inActive
  rw [live_congr same sound (mem_active.1 inActive).2]

/-- **The answers from there on**, in their order. -/
theorem enumerated_congr (sound : layout.Sound count) (policy : Policy) :
    layout.enumerated policy covered = layout.enumerated policy others := by
  rw [enumerated, enumerated, active_congr same, demandsLeft_congr same sound]

end

/-! ## Rows in another order and by other records -/

section

variable (sound : layout.Sound count) {forced : List Nat}
  (areNodes : ∀ node ∈ forced, node ∈ layout.nodes)
include sound areNodes

/-- Whether rows share no column, told by the rows. -/
theorem apart_iff_rowsOf :
    (forced.Pairwise fun one other => (layout.columnsOf one).Disjoint (layout.columnsOf other)) ↔
      (layout.rowsOf forced).Pairwise fun one other =>
        (one.map layout.column).Disjoint (other.map layout.column) := by
  rw [rowsOf, List.pairwise_map]
  refine List.Pairwise.iff_of_mem fun isOne isOther => ?_
  simp only [List.disjoint_left, mem_columns_rowOf sound (areNodes _ isOne),
    mem_columns_rowOf sound (areNodes _ isOther)]

variable {others : List Nat} (areOthers : ∀ node ∈ others, node ∈ layout.nodes)
  (sameRows : (layout.rowsOf others).Perm (layout.rowsOf forced))
include areOthers sameRows

/-- The same rows have the same columns. -/
theorem flatMap_columnsOf_congr (column : Nat) :
    column ∈ others.flatMap layout.columnsOf ↔ column ∈ forced.flatMap layout.columnsOf := by
  rw [mem_flatMap_columnsOf sound areOthers, mem_flatMap_columnsOf sound areNodes]
  simp only [sameRows.mem_iff]

/-- Rows that share no column do so in any order. -/
theorem apart_congr
    (apart : forced.Pairwise fun one other =>
      (layout.columnsOf one).Disjoint (layout.columnsOf other)) :
    others.Pairwise fun one other =>
      (layout.columnsOf one).Disjoint (layout.columnsOf other) := by
  rw [apart_iff_rowsOf sound areOthers]
  rw [apart_iff_rowsOf sound areNodes] at apart
  exact (sameRows.pairwise_iff fun disjoint => disjoint.symm).2 apart

end

end Layout

/-! ## Problems that were built -/

/-- **The order of decisions cannot be seen.** Rows that share no column are decided for, and the same
rows are decided for in another order, some of them by other records. The two arenas have the same
columns left, every uncovered column has the same records from top to bottom and the same size, and
whichever way columns are taken all solutions are the same and in the same order. (If a smallest column
is taken, no column has more rows than a search can count.) -/
theorem order_of_decisions {problem : Problem} {layout : Layout} (builtAs : BuiltAs problem layout)
    {forced others : List Nat} (areNodes : ∀ node ∈ forced, node ∈ layout.nodes)
    (areOthers : ∀ node ∈ others, node ∈ layout.nodes)
    (apart : forced.Pairwise fun one other =>
      (layout.columnsOf one).Disjoint (layout.columnsOf other))
    (sameRows : (layout.rowsOf others).Perm (layout.rowsOf forced)) :
    ∃ one other : Problem,
      forced.foldlM (fun decisions (node : Nat) => Problem.commit (.record node) decisions) []
          problem = .ok (linksTo forced) one ∧
        others.foldlM (fun decisions (node : Nat) => Problem.commit (.record node) decisions) []
            problem = .ok (linksTo others) other ∧
        (∃ headers, one.arena.activeHeaders = .ok headers ∧
          other.arena.activeHeaders = .ok headers) ∧
        (∀ column ∈ layout.columns, column ∉ forced.flatMap layout.columnsOf → ∃ walk size,
          one.arena.column (.record column) = .ok walk ∧
            other.arena.column (.record column) = .ok walk ∧
            one.arena.columnSize (.record column) = .ok size ∧
            other.arena.columnSize (.record column) = .ok size) ∧
        ∀ policy : Policy,
          (policy = .smallest → ∀ column ∈ layout.primary,
            ((layout.members column).length : Int) < Arena.sizeBound) →
          ∃ answers oneAfter otherAfter,
            Problem.solutions none { one with policy := policy } = .ok answers oneAfter ∧
              Problem.solutions none { other with policy := policy } = .ok answers otherAfter := by
  obtain ⟨web, updates, own, rfl, shown⟩ := builtAs.shows
  have proper := builtAs.proper
  have sound := shown.sound
  have apart' := Layout.apart_congr sound areNodes areOthers sameRows apart
  obtain ⟨trail, spent, commits⟩ := Layout.commits_web proper shown areNodes apart
    (fun _ _ => rfl) Layout.isTrail_nil updates layout.primary.length []
  obtain ⟨trail', spent', commits'⟩ := Layout.commits_web proper shown areOthers apart'
    (fun _ _ => rfl) Layout.isTrail_nil updates layout.primary.length []
  have same : ∀ column, column ∈ layout.withRows [] forced ↔ column ∈ layout.withRows [] others := by
    intro column
    rw [Layout.mem_withRows_nil, Layout.mem_withRows_nil,
      Layout.flatMap_columnsOf_congr sound areNodes areOthers sameRows]
  refine ⟨_, _, commits, commits', ?_, ?_, ?_⟩
  · refine ⟨_, Layout.activeHeaders_web proper shown trail spent, ?_⟩
    rw [Layout.active_congr same]
    exact Layout.activeHeaders_web proper shown trail' spent'
  · intro column isColumn fresh
    have uncovered : column ∉ layout.withRows [] forced := by
      rwa [Layout.mem_withRows_nil]
    refine ⟨_, _, Layout.column_web proper shown trail isColumn spent, ?_,
      Layout.columnSize_web proper shown trail isColumn spent, ?_⟩
    · rw [Layout.live_congr same sound uncovered]
      exact Layout.column_web proper shown trail' isColumn spent'
    · rw [Layout.live_congr same sound uncovered]
      exact Layout.columnSize_web proper shown trail' isColumn spent'
  · intro policy small
    obtain ⟨more, solved⟩ :=
      Layout.solutions_web proper shown small trail none spent layout.primary.length
    obtain ⟨more', solved'⟩ :=
      Layout.solutions_web proper shown small trail' none spent' layout.primary.length
    rw [← Layout.enumerated_congr same sound] at solved'
    exact ⟨_, _, _, solved, solved'⟩

/-- The rows of the records 6 and 4 are decided for in both orders, the second time by the records 6 and
5. -/
theorem order_of_decisions_small : ∃ (problem one other oneAfter otherAfter : Problem)
      (headers : List Link) (answers : List (List Link)), BuiltAs problem .small ∧
    [6, 4].foldlM (fun decisions (node : Nat) => Problem.commit (.record node) decisions) []
        problem = .ok [.record 6, .record 4] one ∧
    [5, 6].foldlM (fun decisions (node : Nat) => Problem.commit (.record node) decisions) []
        problem = .ok [.record 5, .record 6] other ∧
    one.arena.activeHeaders = .ok headers ∧ other.arena.activeHeaders = .ok headers ∧
    Problem.solutions none { one with policy := .first } = .ok answers oneAfter ∧
    Problem.solutions none { other with policy := .first } = .ok answers otherAfter := by
  obtain ⟨problem, builtAs, -⟩ := exists_builtAs_small
  obtain ⟨one, other, commits, commits', ⟨headers, active, active'⟩, -, solves⟩ :=
    @order_of_decisions problem .small builtAs [6, 4] [5, 6] (by decide) (by decide)
      (List.pairwise_pair.2 (List.disjoint_left.2 (by decide))) (by decide)
  obtain ⟨answers, oneAfter, otherAfter, solved, solved'⟩ := solves .first (by decide)
  exact ⟨problem, one, other, oneAfter, otherAfter, headers, answers, builtAs, commits, commits',
    active, active', solved, solved'⟩

end ExactCover
