import Mathlib.Data.Finset.SDiff
import Mathlib.Data.Finset.Lattice.Lemmas
import ExactCover.Proofs.Search.Collecting

/-!
# Completions that extend decisions

Rows are decided for, and then the search goes on from what they leave. Every set of rows that it finds,
together with the decided rows, is a completion of what was there before, and the completions that hold
all decided rows are found in this way, each of them once (`mem_extensions_iff`, `extensions_nodup`).

A row that is decided for is put back into a completion as a row of a primary column, as the search does
it, so each of them is named by its record in such a column.
-/

set_option autoImplicit false

namespace ExactCover

namespace Layout

variable {layout : Layout} {count : Nat} {covered path : List Nat} {policy : Policy}

/-- The sets of rows that are found after decisions, with the decided rows. -/
def extensions (layout : Layout) (policy : Policy) (covered path : List Nat) :
    List (Finset (List Nat)) :=
  (layout.completions policy (layout.withRows covered path)).map
    (· ∪ (layout.rowsOf path).toFinset)

variable (sound : layout.Sound count) (proper : layout.Proper)
include sound

/-- The columns that decisions leave covered, told by the rows. -/
theorem mem_withRows_iff_rowsOf (areNodes : ∀ node ∈ path, node ∈ layout.nodes) (column : Nat) :
    column ∈ layout.withRows covered path ↔
      (∃ row ∈ (layout.rowsOf path).toFinset, column ∈ row.map layout.column) ∨
        column ∈ covered := by
  rw [mem_withRows, mem_flatMap_columnsOf sound areNodes]
  simp only [List.mem_toFinset]

include proper

/-- **Decided rows, with what completes what they leave**, are a completion. -/
theorem IsCompletion.union {rest : Finset (List Nat)}
    (complete : layout.IsCompletion (layout.withRows covered path) rest)
    (allowed : layout.Allows covered path)
    (driven : ∀ node ∈ path, layout.column node ∈ layout.primary) :
    layout.IsCompletion covered (rest ∪ (layout.rowsOf path).toFinset) := by
  induction path generalizing covered with
  | nil => simpa [rowsOf] using complete
  | cons node path ih =>
      obtain ⟨isNode, free, allowed⟩ := allowed
      obtain ⟨isPrimary, driven⟩ := List.forall_mem_cons.1 driven
      obtain ⟨isActive, inside⟩ :=
        (mem_active_live_iff sound proper).2 ⟨isNode, free, isPrimary⟩
      rw [rowsOf, List.map_cons, List.toFinset_cons, Finset.union_insert]
      exact (ih complete allowed driven).insert sound proper isActive inside

omit proper in
/-- No row that is found is one of the decided ones. -/
theorem disjoint_of_isCompletion {rest : Finset (List Nat)}
    (areNodes : ∀ node ∈ path, node ∈ layout.nodes)
    (complete : layout.IsCompletion (layout.withRows covered path) rest) :
    Disjoint rest (layout.rowsOf path).toFinset := by
  refine Finset.disjoint_left.2 fun row isRow isDecided => ?_
  obtain ⟨column, inRow, -⟩ := complete.driven row isRow
  exact complete.apart row isRow column inRow
    ((mem_withRows_iff_rowsOf sound areNodes column).2 (.inl ⟨row, isDecided, inRow⟩))

/-- **The sets of rows that are found after decisions** are the completions with the decided rows. -/
theorem mem_extensions_iff (allowed : layout.Allows covered path)
    (driven : ∀ node ∈ path, layout.column node ∈ layout.primary) {chosen : Finset (List Nat)} :
    chosen ∈ layout.extensions policy covered path ↔
      layout.IsCompletion covered chosen ∧ (layout.rowsOf path).toFinset ⊆ chosen := by
  have areNodes := node_of_allows allowed
  rw [extensions, List.mem_map]
  constructor
  · rintro ⟨rest, found, rfl⟩
    have complete := (mem_completions_iff sound proper).1 found
    exact ⟨complete.union sound proper allowed driven, Finset.subset_union_right⟩
  · rintro ⟨complete, part⟩
    refine ⟨chosen \ (layout.rowsOf path).toFinset, (mem_completions_iff sound proper).2 ?_,
      Finset.sdiff_union_of_subset part⟩
    exact complete.sdiff sound proper part (mem_withRows_iff_rowsOf sound areNodes)

/-- **None of them is found twice.** -/
theorem extensions_nodup (areNodes : ∀ node ∈ path, node ∈ layout.nodes) :
    (layout.extensions policy covered path).Nodup := by
  refine (completions_nodup sound proper).map_on ?_
  intro one isOne other isOther same
  have apartOne := disjoint_of_isCompletion sound areNodes
    ((mem_completions_iff sound proper).1 isOne)
  have apartOther := disjoint_of_isCompletion sound areNodes
    ((mem_completions_iff sound proper).1 isOther)
  rw [← Finset.union_sdiff_cancel_right apartOne, same, Finset.union_sdiff_cancel_right apartOther]

end Layout

end ExactCover
