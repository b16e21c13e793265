import Mathlib.Data.Finset.Image
import ExactCover.Proofs.Build.Plan
import ExactCover.Proofs.Search.Extension

/-!
# Solutions of a plan

The solutions of a problem that was built by a plan, told by the numbers of rows. A selection of row
numbers meets every primary column of the plan exactly once and every secondary column at most once,
and selects no row without a primary column. After decisions, what is found together with the decided
rows are the selections that hold these rows, each of them once (`extensions_of_plan`). The solutions of
the problem itself are all selections (`solutions_of_plan`).
-/

set_option autoImplicit false

namespace ExactCover

namespace Plan

variable {plan : Plan} {web : Web}

/-- A selection of row numbers that meets the columns of a plan as it should. -/
structure IsSelection (plan : Plan) (rows : Finset Nat) : Prop where
  /-- Every row meets a primary column. -/
  driven : ∀ row ∈ rows, ∃ column ∈ plan.primary, (row, column) ∈ plan.steps
  /-- Every primary column is met by one row. -/
  primary : ∀ column ∈ plan.primary, ∃! row, row ∈ rows ∧ (row, column) ∈ plan.steps
  /-- No secondary column is met by two rows. -/
  secondary : ∀ column ∈ plan.secondary.flatten, ∀ one ∈ rows, ∀ other ∈ rows,
    (one, column) ∈ plan.steps → (other, column) ∈ plan.steps → one = other

/-- The paths of Algorithm X after decisions. -/
def pathsAfter (plan : Plan) (policy : Policy) (forced : List Nat) : List (List Nat) :=
  algorithmX policy (plan.layout.demandsLeft (plan.layout.withRows [] forced))

/-- Rows that have records are told apart by them. -/
theorem strand_injective {one other : Nat} (inhabited : plan.strand one ≠ [])
    (same : plan.strand one = plan.strand other) : one = other := by
  obtain ⟨node, inside⟩ := List.exists_mem_of_ne_nil _ inhabited
  exact strand_unique inside (same ▸ inside)

/-- Among rows that have records, a set is told by the records. -/
theorem image_strand_subset_iff {one other : Finset Nat}
    (inhabited : ∀ row ∈ one, plan.strand row ≠ []) :
    one.image plan.strand ⊆ other.image plan.strand ↔ one ⊆ other := by
  constructor
  · intro part row isRow
    obtain ⟨equal, isEqual, strands⟩ := Finset.mem_image.1 (part (Finset.mem_image_of_mem _ isRow))
    rwa [strand_injective (inhabited row isRow) strands.symm]
  · exact Finset.image_subset_image

/-- Sets of rows that have records are told apart by the records. -/
theorem image_strand_injective {one other : Finset Nat}
    (oneInhabited : ∀ row ∈ one, plan.strand row ≠ [])
    (otherInhabited : ∀ row ∈ other, plan.strand row ≠ [])
    (same : one.image plan.strand = other.image plan.strand) : one = other :=
  Finset.Subset.antisymm ((image_strand_subset_iff oneInhabited).1 (Finset.subset_of_eq same))
    ((image_strand_subset_iff otherInhabited).1 (Finset.subset_of_eq same.symm))

theorem mem_rows_iff {row : Nat} :
    plan.strand row ∈ plan.layout.rows ↔ ∃ column, (row, column) ∈ plan.steps := by
  simp only [layout, List.mem_map, List.mem_dedup, Prod.exists]
  constructor
  · rintro ⟨other, ⟨_, column, isStep, rfl⟩, same⟩
    obtain ⟨node, inside⟩ := exists_mem_strand_iff.2 ⟨column, isStep⟩
    exact exists_mem_strand_iff.1 ⟨node, same ▸ inside⟩
  · rintro ⟨column, isStep⟩
    exact ⟨row, ⟨row, column, isStep, rfl⟩, rfl⟩

/-- The records of the rows are those of the steps. -/
theorem bounds_of_node {node : Nat} (isNode : node ∈ plan.layout.nodes) :
    plan.base ≤ node ∧ node < plan.base + plan.steps.length := by
  obtain ⟨row, isRow, inRow⟩ := Layout.mem_nodes.1 isNode
  obtain ⟨number, -, rfl⟩ := List.mem_map.1 isRow
  exact exists_mem_strand.1 ⟨number, inRow⟩

/-- Every step has made a record of a row. -/
theorem node_of_step {node row column : Nat} (late : plan.base ≤ node)
    (isStep : plan.steps[node - plan.base]? = some (row, column)) : node ∈ plan.layout.nodes :=
  Layout.mem_nodes.2 ⟨plan.strand row, mem_rows_iff.2 ⟨column, List.mem_of_getElem? isStep⟩,
    mem_strand.2 ⟨column, late, isStep⟩⟩

section

variable (follows : web.Follows plan)
include follows

/-- **The completions of a plan are its selections.** -/
theorem isCompletion_image {rows : Finset Nat} :
    plan.layout.IsCompletion [] (rows.image plan.strand) ↔ plan.IsSelection rows := by
  have meets : ∀ row column, column ∈ (plan.strand row).map plan.layout.column ↔
      (row, column) ∈ plan.steps := fun row column => mem_columns_strand follows
  have inhabited : ∀ row column, (row, column) ∈ plan.steps → plan.strand row ≠ [] := by
    intro row column isStep
    obtain ⟨node, inside⟩ := exists_mem_strand_iff.2 ⟨column, isStep⟩
    exact List.ne_nil_of_mem inside
  constructor
  · intro complete
    constructor
    · intro row isRow
      obtain ⟨column, inRow, isPrimary⟩ :=
        complete.driven _ (Finset.mem_image_of_mem plan.strand isRow)
      exact ⟨column, isPrimary, (meets row column).1 inRow⟩
    · intro column isPrimary
      obtain ⟨_, ⟨isChosen, inRow⟩, only⟩ := complete.primary column isPrimary List.not_mem_nil
      obtain ⟨row, isRow, rfl⟩ := Finset.mem_image.1 isChosen
      have isStep := (meets row column).1 inRow
      refine ⟨row, ⟨isRow, isStep⟩, ?_⟩
      rintro other ⟨isOther, isStep'⟩
      refine strand_injective (inhabited other column isStep') (only _ ⟨?_, ?_⟩)
      · exact Finset.mem_image_of_mem _ isOther
      · exact (meets other column).2 isStep'
    · intro column isSecondary one isOne other isOther inOne inOther
      refine strand_injective (inhabited one column inOne) ?_
      exact complete.secondary column isSecondary _ (Finset.mem_image_of_mem _ isOne) _
        (Finset.mem_image_of_mem _ isOther) ((meets one column).2 inOne) ((meets other column).2 inOther)
  · intro selection
    constructor
    · intro _ isChosen
      obtain ⟨row, isRow, rfl⟩ := Finset.mem_image.1 isChosen
      obtain ⟨column, -, isStep⟩ := selection.driven row isRow
      exact mem_rows_iff.2 ⟨column, isStep⟩
    · intro _ _ _ _
      exact List.not_mem_nil
    · intro _ isChosen
      obtain ⟨row, isRow, rfl⟩ := Finset.mem_image.1 isChosen
      obtain ⟨column, isPrimary, isStep⟩ := selection.driven row isRow
      exact ⟨column, (meets row column).2 isStep, isPrimary⟩
    · intro column isPrimary _
      obtain ⟨row, ⟨isRow, isStep⟩, only⟩ := selection.primary column isPrimary
      refine ⟨_, ⟨Finset.mem_image_of_mem _ isRow, (meets row column).2 isStep⟩, ?_⟩
      rintro _ ⟨isChosen, inRow⟩
      obtain ⟨other, isOther, rfl⟩ := Finset.mem_image.1 isChosen
      rw [only other ⟨isOther, (meets other column).1 inRow⟩]
    · rintro column isSecondary _ oneChosen _ otherChosen inOne inOther
      obtain ⟨one, isOne, rfl⟩ := Finset.mem_image.1 oneChosen
      obtain ⟨other, isOther, rfl⟩ := Finset.mem_image.1 otherChosen
      rw [selection.secondary column isSecondary one isOne other isOther
        ((meets one column).1 inOne) ((meets other column).1 inOther)]

/-- The row of a record is the strand of its number. -/
theorem rowOf_eq_strand {node : Nat} (isNode : node ∈ plan.layout.nodes) :
    plan.layout.rowOf node = plan.strand (plan.rowAt node) := by
  obtain ⟨row, isRow, inside⟩ := Layout.mem_nodes.1 isNode
  rw [follows.shows.sound.rowOf_eq isRow inside]
  obtain ⟨number, -, rfl⟩ := List.mem_map.1 isRow
  rw [rowAt_of_mem inside]

/-- The columns of a record are those of its row. -/
theorem mem_columnsOf_iff {node column : Nat} (isNode : node ∈ plan.layout.nodes) :
    column ∈ plan.layout.columnsOf node ↔ (plan.rowAt node, column) ∈ plan.steps := by
  rw [← Layout.mem_columns_rowOf follows.shows.sound isNode, rowOf_eq_strand follows isNode,
    mem_columns_strand follows]

/-- The rows of a path, by their numbers. -/
theorem rowsOf_eq_map_strand {path : List Nat} (areNodes : ∀ node ∈ path, node ∈ plan.layout.nodes) :
    plan.layout.rowsOf path = (path.map plan.rowAt).map plan.strand := by
  rw [Layout.rowsOf, List.map_map]
  exact List.map_congr_left fun node inside => rowOf_eq_strand follows (areNodes node inside)

/-- The rows of a path, as a set. -/
theorem toFinset_rowsOf {path : List Nat} (areNodes : ∀ node ∈ path, node ∈ plan.layout.nodes) :
    (plan.layout.rowsOf path).toFinset = (path.map plan.rowAt).toFinset.image plan.strand := by
  rw [rowsOf_eq_map_strand follows areNodes]
  ext row
  simp

/-- The rows of a path have records. -/
theorem strand_ne_nil_of_path {path : List Nat} (areNodes : ∀ node ∈ path, node ∈ plan.layout.nodes) :
    ∀ row ∈ (path.map plan.rowAt).toFinset, plan.strand row ≠ [] := by
  intro row isRow
  obtain ⟨node, here, rfl⟩ := List.mem_map.1 (List.mem_toFinset.1 isRow)
  rw [← rowOf_eq_strand follows (areNodes node here)]
  exact List.ne_nil_of_mem (follows.shows.sound.mem_rowOf (areNodes node here))

omit follows in
/-- The rows of a selection have records. -/
theorem IsSelection.strand_ne_nil {rows : Finset Nat} (selection : plan.IsSelection rows) :
    ∀ row ∈ rows, plan.strand row ≠ [] := by
  intro row isRow
  obtain ⟨column, -, isStep⟩ := selection.driven row isRow
  obtain ⟨node, inRow⟩ := exists_mem_strand_iff.2 ⟨column, isStep⟩
  exact List.ne_nil_of_mem inRow

/-- A column has no more records than there are values of a key that tells its rows apart. -/
theorem length_members_le (once : plan.steps.Nodup) {column bound : Nat} (key : Nat → Nat)
    (apart : ∀ one other, (one, column) ∈ plan.steps → (other, column) ∈ plan.steps →
      key one = key other → one = other)
    (bounded : ∀ row, (row, column) ∈ plan.steps → key row < bound) :
    (plan.layout.members column).length ≤ bound := by
  have steps : ∀ node ∈ plan.layout.members column, ∃ row, plan.rowAt node = row ∧
      plan.base ≤ node ∧ plan.steps[node - plan.base]? = some (row, column) := by
    intro node isMember
    obtain ⟨row, isStep⟩ := mem_attached.1 (Frame.mem_members.1 isMember)
    exact ⟨row, rowAt_of_mem (mem_strand.2 ⟨column, isStep⟩), isStep⟩
  have keysApart : ((plan.layout.members column).map fun node => key (plan.rowAt node)).Nodup := by
    refine (follows.shows.sound.members_nodup column).map_on ?_
    intro one isOne other isOther same
    obtain ⟨row, atRow, late, isStep⟩ := steps one isOne
    obtain ⟨row', atRow', late', isStep'⟩ := steps other isOther
    rw [atRow, atRow'] at same
    obtain rfl := apart row row' (List.mem_of_getElem? isStep) (List.mem_of_getElem? isStep') same
    obtain ⟨early, -⟩ := List.getElem?_eq_some_iff.1 isStep
    have := (List.getElem?_inj early once).1 (isStep.trans isStep'.symm)
    omega
  have below : ∀ value ∈ (plan.layout.members column).map fun node => key (plan.rowAt node),
      value < bound := by
    intro value inside
    obtain ⟨node, isMember, rfl⟩ := List.mem_map.1 inside
    obtain ⟨row, atRow, -, isStep⟩ := steps node isMember
    rw [atRow]
    exact bounded row (List.mem_of_getElem? isStep)
  simpa using length_le_of_nodup_of_lt keysApart below

/-- **What is found after decisions are the selections that hold the decided rows**, each of them once.
The decided rows share no column, and each is named by its record in a primary column. -/
theorem extensions_of_plan (once : plan.steps.Nodup) {forced : List Nat}
    (areNodes : ∀ node ∈ forced, node ∈ plan.layout.nodes)
    (apart : forced.Pairwise fun one other =>
      (plan.layout.columnsOf one).Disjoint (plan.layout.columnsOf other))
    (driven : ∀ node ∈ forced, plan.layout.column node ∈ plan.primary) (policy : Policy) :
    (∀ path ∈ plan.pathsAfter policy forced, (path.map plan.rowAt).Nodup ∧
        ∀ node ∈ path, plan.base ≤ node ∧ node < plan.base + plan.steps.length) ∧
      ((plan.pathsAfter policy forced).map fun path =>
        ((path ++ forced).map plan.rowAt).toFinset).Nodup ∧
      ∀ rows : Finset Nat, rows ∈ (plan.pathsAfter policy forced).map (fun path =>
          ((path ++ forced).map plan.rowAt).toFinset) ↔
        plan.IsSelection rows ∧ (forced.map plan.rowAt).toFinset ⊆ rows := by
  have sound := follows.shows.sound
  have proper := plan.proper follows once
  have allowed := @Layout.allows_of_apart plan.layout [] forced areNodes apart fun _ _ => rfl
  have paths := fun path => @Layout.path_of_mem_algorithmX plan.layout web.count
    (plan.layout.withRows [] forced) policy sound proper path
  have wholeNodes : ∀ path ∈ plan.pathsAfter policy forced,
      ∀ node ∈ path ++ forced, node ∈ plan.layout.nodes := by
    intro path inside node isNode
    rcases List.mem_append.1 isNode with isFound | isForced
    · exact (paths path inside).2 node isFound
    · exact areNodes node isForced
  have extensions : (plan.pathsAfter policy forced).map
        (fun path => (((path ++ forced).map plan.rowAt).toFinset).image plan.strand) =
      plan.layout.extensions policy [] forced := by
    rw [Layout.extensions, Layout.completions, List.map_map]
    apply List.map_congr_left
    intro path inside
    rw [← toFinset_rowsOf follows (wholeNodes path inside), Layout.rowsOf, List.map_append,
      List.toFinset_append]
    rfl
  refine ⟨fun path inside => ⟨?_, fun node here => bounds_of_node ((paths path inside).2 node here)⟩,
    ?_, fun rows => ?_⟩
  · have different := (paths path inside).1
    rw [rowsOf_eq_map_strand follows (paths path inside).2] at different
    exact different.of_map plan.strand
  · have different := @Layout.extensions_nodup plan.layout web.count [] forced policy sound proper
      areNodes
    rw [← extensions] at different
    refine List.Nodup.of_map (fun rows => rows.image plan.strand) ?_
    rw [List.map_map]
    exact different
  · have found := @Layout.mem_extensions_iff plan.layout web.count [] forced policy sound proper
      allowed driven (rows.image plan.strand)
    rw [isCompletion_image follows, toFinset_rowsOf follows areNodes,
      image_strand_subset_iff (strand_ne_nil_of_path follows areNodes), ← extensions,
      List.mem_map] at found
    rw [← found, List.mem_map]
    constructor
    · rintro ⟨path, inside, rfl⟩
      exact ⟨path, inside, rfl⟩
    · rintro ⟨path, inside, same⟩
      refine ⟨path, inside, image_strand_injective ?_ ?_ same⟩
      · exact strand_ne_nil_of_path follows (wholeNodes path inside)
      · exact (found.1 ⟨path, inside, same⟩).1.strand_ne_nil

/-- **The solutions of a plan are its selections**, each of them once. -/
theorem solutions_of_plan (once : plan.steps.Nodup) (nonempty : plan.primary ≠ []) {policy : Policy}
    (small : policy = .smallest → ∀ column ∈ plan.primary,
      ((plan.layout.members column).length : Int) < Arena.sizeBound)
    (updates primaryCount : Nat) :
    ∃ (paths : List (List Nat)) (after : Problem),
      Problem.solutions none ⟨web.arena updates, policy, primaryCount⟩ =
          .ok (paths.map linksTo) after ∧
        (∀ path ∈ paths, (path.map plan.rowAt).Nodup ∧
          ∀ node ∈ path, plan.base ≤ node ∧ node < plan.base + plan.steps.length) ∧
        (paths.map fun path => (path.map plan.rowAt).toFinset).Nodup ∧
        ∀ rows : Finset Nat, rows ∈ paths.map (fun path => (path.map plan.rowAt).toFinset) ↔
          plan.IsSelection rows := by
  have active : plan.layout.active [] ≠ [] := by rwa [Layout.active_nil]
  obtain ⟨more, solved⟩ := Layout.solutions_web (plan.proper follows once) follows.shows small
    Layout.isTrail_nil none updates primaryCount
  rw [Layout.enumerated, if_neg active] at solved
  obtain ⟨apart, different, complete⟩ := @extensions_of_plan plan web follows once [] (by simp)
    List.Pairwise.nil (by simp) policy
  simp only [List.append_nil, List.map_nil, List.toFinset_nil, Finset.empty_subset, and_true]
    at different complete
  exact ⟨_, _, solved, apart, different, complete⟩

end

end Plan

end ExactCover
