import Mathlib.Data.Finset.Basic
import ExactCover.Proofs.Search.AlgorithmX

/-!
# Completions

A set of rows completes what a trail leaves if it meets every primary column that is left exactly
once and every secondary column at most once, meets no column of the trail, and has no row without a
primary column. The paths of Algorithm X, as sets of rows, are these sets and no others, and no set
comes twice.

The induction follows the procedure. A completion has one row in the column that is taken, and the
rest of it completes what that row leaves (`isCompletion_iff`); different rows of that column give
different completions.

Main statements: `mem_completions_iff` (which sets are found) and `completions_nodup` (each is found
once).
-/

set_option autoImplicit false

namespace ExactCover

namespace Layout

variable {layout : Layout} {count : Nat} {covered : List Nat} {policy : Policy}

/-- A set of rows that completes what the covered columns leave. -/
structure IsCompletion (layout : Layout) (covered : List Nat) (chosen : Finset (List Nat)) :
    Prop where
  rows : ∀ row ∈ chosen, row ∈ layout.rows
  /-- No row meets a covered column. -/
  apart : ∀ row ∈ chosen, ∀ column ∈ row.map layout.column, column ∉ covered
  /-- Every row meets a primary column. -/
  driven : ∀ row ∈ chosen, ∃ column ∈ row.map layout.column, column ∈ layout.primary
  /-- Every primary column that is left is met by one row. -/
  primary : ∀ column ∈ layout.primary, column ∉ covered →
    ∃! row, row ∈ chosen ∧ column ∈ row.map layout.column
  /-- No secondary column is met by two rows. -/
  secondary : ∀ column ∈ layout.secondary.flatten, ∀ one ∈ chosen, ∀ other ∈ chosen,
    column ∈ one.map layout.column → column ∈ other.map layout.column → one = other

/-- It only matters which columns are covered. -/
theorem isCompletion_congr {others : List Nat}
    (same : ∀ column, column ∈ covered ↔ column ∈ others) {chosen : Finset (List Nat)} :
    layout.IsCompletion covered chosen ↔ layout.IsCompletion others chosen := by
  constructor
  · intro complete
    exact
      { complete with
        apart := fun row isRow column inRow isCovered =>
          complete.apart row isRow column inRow ((same column).2 isCovered)
        primary := fun column isPrimary uncovered =>
          complete.primary column isPrimary fun isCovered => uncovered ((same column).1 isCovered) }
  · intro complete
    exact
      { complete with
        apart := fun row isRow column inRow isCovered =>
          complete.apart row isRow column inRow ((same column).1 isCovered)
        primary := fun column isPrimary uncovered =>
          complete.primary column isPrimary fun isCovered => uncovered ((same column).2 isCovered) }

/-- If no column is left, only the empty set is a completion. -/
theorem isCompletion_of_active_nil (solved : layout.active covered = [])
    {chosen : Finset (List Nat)} : layout.IsCompletion covered chosen ↔ chosen = ∅ := by
  have none' := active_eq_nil.1 solved
  constructor
  · intro complete
    apply Finset.eq_empty_of_forall_notMem
    intro row inside
    obtain ⟨column, inRow, isPrimary⟩ := complete.driven row inside
    exact complete.apart row inside column inRow (none' column isPrimary)
  · rintro rfl
    exact
      { rows := by simp
        apart := by simp
        driven := by simp
        primary := fun column isPrimary uncovered => absurd (none' column isPrimary) uncovered
        secondary := by simp }

section

variable (sound : layout.Sound count) (proper : layout.Proper)
include sound

/-- The columns of a row, told by one of its records. -/
theorem mem_columns_rowOf {node column : Nat} (isNode : node ∈ layout.nodes) :
    column ∈ (layout.rowOf node).map layout.column ↔ column ∈ layout.columnsOf node := by
  rw [sound.mem_columnsOf isNode, List.mem_map]

include proper

theorem mem_columns_of_row {row : List Nat} {column : Nat} (isRow : row ∈ layout.rows)
    (inside : column ∈ row.map layout.column) :
    column ∈ layout.primary ∨ column ∈ layout.secondary.flatten := by
  obtain ⟨node, inRow, rfl⟩ := List.mem_map.1 inside
  exact List.mem_append.1 (sound.column_mem proper (mem_nodes.2 ⟨row, isRow, inRow⟩))

/-- No two rows of a completion share a column. -/
theorem IsCompletion.unique {chosen : Finset (List Nat)}
    (complete : layout.IsCompletion covered chosen) {one other : List Nat} (isOne : one ∈ chosen)
    (isOther : other ∈ chosen) {column : Nat} (inOne : column ∈ one.map layout.column)
    (inOther : column ∈ other.map layout.column) : one = other := by
  rcases mem_columns_of_row sound proper (complete.rows one isOne) inOne with isPrimary | isSecondary
  · have uncovered := complete.apart one isOne column inOne
    obtain ⟨row, -, only⟩ := complete.primary column isPrimary uncovered
    exact (only one ⟨isOne, inOne⟩).trans (only other ⟨isOther, inOther⟩).symm
  · exact complete.secondary column isSecondary one isOne other isOther inOne inOther

/-- **A completion without some of its rows** completes what these rows leave. -/
theorem IsCompletion.sdiff {chosen removed : Finset (List Nat)}
    (complete : layout.IsCompletion covered chosen) (part : removed ⊆ chosen) {others : List Nat}
    (left : ∀ column, column ∈ others ↔
      (∃ row ∈ removed, column ∈ row.map layout.column) ∨ column ∈ covered) :
    layout.IsCompletion others (chosen \ removed) := by
  have inChosen : ∀ row ∈ chosen \ removed, row ∈ chosen := fun row isRow =>
    (Finset.mem_sdiff.1 isRow).1
  constructor
  · exact fun row isRow => complete.rows row (inChosen row isRow)
  · intro row isRow column inRow isCovered
    obtain ⟨isRow, kept⟩ := Finset.mem_sdiff.1 isRow
    rcases (left column).1 isCovered with ⟨other, isOther, inOther⟩ | isEarlier
    · have same := complete.unique sound proper isRow (part isOther) inRow inOther
      exact kept (same ▸ isOther)
    · exact complete.apart row isRow column inRow isEarlier
  · exact fun row isRow => complete.driven row (inChosen row isRow)
  · intro column isPrimary uncovered
    rw [left, not_or] at uncovered
    obtain ⟨row, ⟨isRow, inRow⟩, only⟩ := complete.primary column isPrimary uncovered.2
    have kept : row ∉ removed := fun isRemoved => uncovered.1 ⟨row, isRemoved, inRow⟩
    refine ⟨row, ⟨Finset.mem_sdiff.2 ⟨isRow, kept⟩, inRow⟩, ?_⟩
    rintro other ⟨isOther, inOther⟩
    exact only other ⟨inChosen other isOther, inOther⟩
  · intro column isSecondary one isOne other isOther
    exact complete.secondary column isSecondary one (inChosen one isOne) other
      (inChosen other isOther)

section

variable {node column : Nat} (isActive : column ∈ layout.active covered)
  (inside : node ∈ layout.live covered column)
include isActive inside

omit proper isActive in
/-- The row of a record is not in a completion of what it leaves. -/
theorem rowOf_notMem {chosen : Finset (List Nat)}
    (rest : layout.IsCompletion (layout.withRow covered node) chosen) :
    layout.rowOf node ∉ chosen := by
  intro isChosen
  have own := sound.mem_columnsOf_of_live inside
  have inRow := (mem_columns_rowOf sound (sound.node_of_mem_live inside).1).2 own
  exact rest.apart _ isChosen column inRow (mem_withRow.2 (.inl own))

/-- A row in an uncovered column, with what completes what the row leaves, is a completion. -/
theorem IsCompletion.insert {chosen : Finset (List Nat)}
    (rest : layout.IsCompletion (layout.withRow covered node) chosen) :
    layout.IsCompletion covered (insert (layout.rowOf node) chosen) := by
  obtain ⟨isPrimary, uncovered⟩ := mem_active.1 isActive
  obtain ⟨isNode, home, free⟩ := (sound.mem_live proper uncovered).1 inside
  have own := sound.mem_columnsOf_of_live inside
  have apart : ∀ row ∈ chosen, ∀ other ∈ row.map layout.column, other ∉ layout.columnsOf node :=
    fun row isRow other inRow isOwn => rest.apart row isRow other inRow (mem_withRow.2 (.inl isOwn))
  rw [meets_eq_false] at free
  constructor
  · intro row isRow
    rcases Finset.mem_insert.1 isRow with rfl | isRow
    · exact sound.rowOf_mem isNode
    · exact rest.rows row isRow
  · intro row isRow other inRow isCovered
    rcases Finset.mem_insert.1 isRow with rfl | isRow
    · exact free other isCovered ((mem_columns_rowOf sound isNode).1 inRow)
    · exact rest.apart row isRow other inRow (mem_withRow.2 (.inr isCovered))
  · intro row isRow
    rcases Finset.mem_insert.1 isRow with rfl | isRow
    · exact ⟨column, (mem_columns_rowOf sound isNode).2 own, isPrimary⟩
    · exact rest.driven row isRow
  · intro other isPrimary' uncovered'
    by_cases isOwn : other ∈ layout.columnsOf node
    · refine ⟨layout.rowOf node, ⟨Finset.mem_insert_self _ _, ?_⟩, ?_⟩
      · exact (mem_columns_rowOf sound isNode).2 isOwn
      · rintro row ⟨isRow, inRow⟩
        rcases Finset.mem_insert.1 isRow with rfl | isRow
        · rfl
        · exact absurd isOwn (apart row isRow other inRow)
    · have uncoveredBoth : other ∉ layout.withRow covered node := by
        simp [mem_withRow, isOwn, uncovered']
      obtain ⟨row, ⟨isRow, inRow⟩, only⟩ := rest.primary other isPrimary' uncoveredBoth
      refine ⟨row, ⟨Finset.mem_insert_of_mem isRow, inRow⟩, ?_⟩
      rintro another ⟨isAnother, inAnother⟩
      rcases Finset.mem_insert.1 isAnother with rfl | isAnother
      · exact absurd ((mem_columns_rowOf sound isNode).1 inAnother) isOwn
      · exact only another ⟨isAnother, inAnother⟩
  · intro other isSecondary one isOne another isAnother inOne inAnother
    rcases Finset.mem_insert.1 isOne with rfl | isOne
    · rcases Finset.mem_insert.1 isAnother with rfl | isAnother
      · rfl
      · exact absurd ((mem_columns_rowOf sound isNode).1 inOne)
          (apart another isAnother other inAnother)
    · rcases Finset.mem_insert.1 isAnother with rfl | isAnother
      · exact absurd ((mem_columns_rowOf sound isNode).1 inAnother) (apart one isOne other inOne)
      · exact rest.secondary other isSecondary one isOne another isAnother inOne inAnother

omit isActive in
/-- A completion without one of its rows completes what the row leaves. -/
theorem IsCompletion.erase {chosen : Finset (List Nat)}
    (complete : layout.IsCompletion covered chosen) (isChosen : layout.rowOf node ∈ chosen) :
    layout.IsCompletion (layout.withRow covered node) (chosen.erase (layout.rowOf node)) := by
  have isNode := (sound.node_of_mem_live inside).1
  rw [Finset.erase_eq]
  apply complete.sdiff sound proper (Finset.singleton_subset_iff.2 isChosen)
  intro other
  rw [mem_withRow, ← mem_columns_rowOf sound isNode]
  simp only [Finset.mem_singleton, exists_eq_left]

end

/-- **The completions by the rows of one column.** -/
theorem isCompletion_iff {column : Nat} (isActive : column ∈ layout.active covered)
    {chosen : Finset (List Nat)} :
    layout.IsCompletion covered chosen ↔ ∃ node ∈ layout.live covered column, ∃ rest,
      layout.IsCompletion (layout.withRow covered node) rest ∧
        insert (layout.rowOf node) rest = chosen := by
  constructor
  · intro complete
    obtain ⟨isPrimary, uncovered⟩ := mem_active.1 isActive
    obtain ⟨row, ⟨isChosen, inRow⟩, -⟩ := complete.primary column isPrimary uncovered
    obtain ⟨node, isMember, home⟩ := List.mem_map.1 inRow
    have isRow := complete.rows row isChosen
    have isNode : node ∈ layout.nodes := mem_nodes.2 ⟨row, isRow, isMember⟩
    obtain rfl := sound.rowOf_eq isRow isMember
    have free : layout.meets covered node = false := meets_eq_false.2 fun other isCovered isOwn =>
      complete.apart _ isChosen other ((mem_columns_rowOf sound isNode).2 isOwn) isCovered
    have inside := (sound.mem_live proper uncovered).2 ⟨isNode, home, free⟩
    exact ⟨node, inside, _, complete.erase sound proper inside isChosen, Finset.insert_erase isChosen⟩
  · rintro ⟨node, inside, rest, complete, rfl⟩
    exact complete.insert sound proper isActive inside

end

/-! ## The paths as sets of rows -/

/-- The rows of a path. -/
def rowsOf (layout : Layout) (path : List Nat) : List (List Nat) := path.map layout.rowOf

/-- The columns of rows, told by the rows. -/
theorem mem_flatMap_columnsOf (sound : layout.Sound count) {forced : List Nat}
    (areNodes : ∀ node ∈ forced, node ∈ layout.nodes) {column : Nat} :
    column ∈ forced.flatMap layout.columnsOf ↔
      ∃ row ∈ layout.rowsOf forced, column ∈ row.map layout.column := by
  simp only [List.mem_flatMap, rowsOf, List.mem_map (f := layout.rowOf), exists_exists_and_eq_and]
  refine exists_congr fun node => and_congr_right fun inside => ?_
  exact (mem_columns_rowOf sound (areNodes node inside)).symm

/-- The paths of Algorithm X on what the covered columns leave, as sets of rows. -/
def completions (layout : Layout) (policy : Policy) (covered : List Nat) :
    List (Finset (List Nat)) :=
  (algorithmX policy (layout.demandsLeft covered)).map fun path => (layout.rowsOf path).toFinset

theorem completions_of_active_nil (sound : layout.Sound count)
    (solved : layout.active covered = []) : layout.completions policy covered = [∅] := by
  rw [completions, algorithmX_demandsLeft sound, chosen_eq_none.2 solved]
  rfl

theorem completions_of_chosen (sound : layout.Sound count) {column : Nat}
    (isChosen : layout.chosen covered policy = some column) :
    layout.completions policy covered = (layout.live covered column).flatMap fun node =>
      (layout.completions policy (layout.withRow covered node)).map
        (insert (layout.rowOf node)) := by
  rw [completions, algorithmX_demandsLeft sound, isChosen, List.map_flatMap]
  apply List.flatMap_congr
  intro node _
  simp [completions, rowsOf, Function.comp_def]

section

variable (sound : layout.Sound count) (proper : layout.Proper)
include sound proper

/-- **The sets of rows that are found are the completions.** -/
theorem mem_completions_iff {chosen : Finset (List Nat)} :
    chosen ∈ layout.completions policy covered ↔ layout.IsCompletion covered chosen := by
  generalize left : (layout.active covered).length = depth
  induction depth using Nat.strong_induction_on generalizing covered chosen with
  | _ depth ih =>
      cases isChosen : layout.chosen covered policy with
      | none =>
          have solved := chosen_eq_none.1 isChosen
          rw [completions_of_active_nil sound solved, isCompletion_of_active_nil solved,
            List.mem_singleton]
      | some column =>
          have isActive := mem_active_of_chosen isChosen
          rw [completions_of_chosen sound isChosen, isCompletion_iff sound proper isActive,
            List.mem_flatMap]
          refine exists_congr fun node => and_congr_right ?_
          intro inside
          rw [List.mem_map]
          refine exists_congr fun rest => and_congr_left ?_
          intro _
          exact ih _ (left ▸ length_active_withRow_lt sound isActive inside) rfl

/-- **No set of rows is found twice.** -/
theorem completions_nodup : (layout.completions policy covered).Nodup := by
  generalize left : (layout.active covered).length = depth
  induction depth using Nat.strong_induction_on generalizing covered with
  | _ depth ih =>
      cases isChosen : layout.chosen covered policy with
      | none =>
          rw [completions_of_active_nil sound (chosen_eq_none.1 isChosen)]
          exact List.nodup_singleton ∅
      | some column =>
          have isActive := mem_active_of_chosen isChosen
          rw [completions_of_chosen sound isChosen]
          refine List.nodup_flatMap.2 ⟨fun node inside => ?_, ?_⟩
          · -- Both sets lack the row that is put into them.
            have once := ih _ (left ▸ length_active_withRow_lt sound isActive inside) rfl
            apply once.map_on
            intro one isOne other isOther same
            have oneLacks := rowOf_notMem sound inside ((mem_completions_iff sound proper).1 isOne)
            have otherLacks :=
              rowOf_notMem sound inside ((mem_completions_iff sound proper).1 isOther)
            rw [← Finset.erase_insert oneLacks, same, Finset.erase_insert otherLacks]
          · -- Two rows of the column are not in one completion.
            refine (sound.live_nodup covered column).pairwise_of_forall_ne
              fun one isOne other isOther different chosen inOne inOther => different ?_
            obtain ⟨rest, isRest, rfl⟩ := List.mem_map.1 inOne
            obtain ⟨rest', -, same⟩ := List.mem_map.1 inOther
            have complete := ((mem_completions_iff sound proper).1 isRest).insert sound proper
              isActive isOne
            have isNodeOne := (sound.node_of_mem_live isOne).1
            have isNodeOther := (sound.node_of_mem_live isOther).1
            have sameRow := complete.unique sound proper
              (Finset.mem_insert_self _ _) (same ▸ Finset.mem_insert_self _ _)
              ((mem_columns_rowOf sound isNodeOne).2 (sound.mem_columnsOf_of_live isOne))
              ((mem_columns_rowOf sound isNodeOther).2 (sound.mem_columnsOf_of_live isOther))
            refine sound.column_injective proper isNodeOther (sameRow ▸ sound.mem_rowOf isNodeOne) ?_
            exact (sound.node_of_mem_live isOne).2.trans (sound.node_of_mem_live isOther).2.symm

/-- The rows of a path are different, and its members are records of rows. -/
theorem path_of_mem_algorithmX {path : List Nat}
    (inside : path ∈ algorithmX policy (layout.demandsLeft covered)) :
    (layout.rowsOf path).Nodup ∧ ∀ node ∈ path, node ∈ layout.nodes := by
  generalize left : (layout.active covered).length = depth
  induction depth using Nat.strong_induction_on generalizing covered path with
  | _ depth ih =>
      rw [algorithmX_demandsLeft sound] at inside
      cases isChosen : layout.chosen covered policy with
      | none =>
          rw [isChosen, List.mem_singleton] at inside
          subst inside
          simp [rowsOf]
      | some column =>
          have isActive := mem_active_of_chosen isChosen
          rw [isChosen, List.mem_flatMap] at inside
          obtain ⟨node, isLive, inside⟩ := inside
          obtain ⟨rest, isRest, rfl⟩ := List.mem_map.1 inside
          obtain ⟨once, areNodes⟩ :=
            ih _ (left ▸ length_active_withRow_lt sound isActive isLive) isRest rfl
          have complete := (mem_completions_iff sound proper).1
            (List.mem_map.2 ⟨rest, isRest, rfl⟩ :
              (layout.rowsOf rest).toFinset ∈ layout.completions policy (layout.withRow covered node))
          have fresh := rowOf_notMem sound isLive complete
          rw [List.mem_toFinset] at fresh
          refine ⟨List.nodup_cons.2 ⟨fresh, once⟩, fun other isOther => ?_⟩
          rcases List.mem_cons.1 isOther with rfl | isOther
          · exact (sound.node_of_mem_live isLive).1
          · exact areNodes other isOther

end

end Layout

end ExactCover
