import ExactCover.Proofs.Cover.Nesting
import ExactCover.Proofs.Search.Decisions

/-!
# Walks round covered arenas

What is seen of an arena after columns were covered one after the other. The ring of the root has lost
the columns that were covered. A column that is not covered has lost the records of all rows that meet a
covered column, and a column that is covered has lost those of the rows that meet a column covered
before it: no later cover takes a record out of it, since a row that meets it has been met
(`live_append_of_mem`). What is left is in the order in which it was put there, it is met in both
directions, and its number is the size of the column.

Main statement: `walks_after_covers`.
-/

set_option autoImplicit false

namespace ExactCover

namespace Layout

variable {layout : Layout} {covered front : List Nat} {count column : Nat}

/-- The records of a column whose rows meet none of some columns. -/
def unmet (layout : Layout) (columns : List Nat) (column : Nat) : List Nat :=
  (layout.members column).filter fun node => !layout.meets columns node

/-- It does not matter in which order columns are covered. -/
theorem unmet_reverse (columns : List Nat) (column : Nat) :
    layout.unmet columns.reverse column = layout.unmet columns column := by
  apply List.filter_congr
  intro node _
  rw [meets, meets, List.any_reverse]

section

variable (sound : layout.Sound count)
include sound

/-- **An uncovered column holds the records that are unmet.** -/
theorem live_eq_unmet (uncovered : column ∉ covered) :
    layout.live covered column = layout.unmet covered column := by
  apply List.filter_congr
  intro node inside
  have home := (sound.node_of_mem_members inside).2
  rw [Bool.eq_iff_iff, linked_iff_of_not_mem (home ▸ uncovered), Bool.not_eq_true']

/-- One cover more takes nothing out of a column that is covered. -/
theorem live_cons_of_mem {last : Nat} (inside : column ∈ covered) :
    layout.live (last :: covered) column = layout.live covered column := by
  apply List.filter_congr
  intro node isMember
  have home := (sound.node_of_mem_members isMember).2
  have own : column ∈ layout.columnsOf node := by simp [columnsOf, home]
  have met : layout.meets covered node = true := meets_eq_true.2 ⟨column, inside, own⟩
  simp [linked, met]

/-- **A covered column holds what it held when it was covered.** -/
theorem live_append_of_mem (inside : column ∈ covered) :
    layout.live (front ++ covered) column = layout.live covered column := by
  induction front with
  | nil => rfl
  | cons last front ih =>
      have isCovered : column ∈ front ++ covered := List.mem_append_right _ inside
      rw [List.cons_append, live_cons_of_mem sound isCovered, ih]

/-- So it holds the records that no column covered before it meets. -/
theorem live_append_cons (proper : layout.Proper) (uncovered : column ∉ covered) :
    layout.live (front ++ column :: covered) column = layout.unmet covered column := by
  rw [live_append_of_mem sound List.mem_cons_self, sound.live_cons_self proper uncovered,
    live_eq_unmet sound uncovered]

end

end Layout

/-! ## Problems that were built -/

/-- **What is left after different columns were covered one after the other.** On the ring of the root
it is the primary columns that are not covered. In a column that is not covered it is the records of the
rows that meet no covered column, and in a column that is covered those of the rows that meet no column
covered before it. They are met from top to bottom in the order in which they were put there, and from
bottom to top in the opposite order, and the size of the column is their number. -/
theorem walks_after_covers {problem : Problem} {layout : Layout}
    (builtAs : BuiltAs problem layout) {headers : List Nat} (once : headers.Nodup)
    (areColumns : ∀ header ∈ headers, header ∈ layout.columns) :
    ∃ after, Arena.play (headers.map .cover) problem.arena = .ok () after ∧
      after.activeHeaders = .ok (linksTo (layout.primary.filter (· ∉ headers))) ∧
      (∀ column ∈ layout.columns, column ∉ headers →
        after.column (.record column) = .ok (linksTo (layout.unmet headers column))) ∧
      (∀ (before : List Nat) (header : Nat) (later : List Nat), headers = before ++ header :: later →
        after.column (.record header) = .ok (linksTo (layout.unmet before header))) ∧
      ∀ column ∈ layout.columns, ∃ walk, after.column (.record column) = .ok walk ∧
        after.ring Node.up (.record column) = .ok walk.reverse ∧
          after.columnSize (.record column) = .ok walk.length := by
  obtain ⟨web, updates, policy, rfl, shown⟩ := builtAs.shows
  have proper := builtAs.proper
  have trail : layout.IsTrail headers.reverse :=
    ⟨List.nodup_reverse.2 once, fun header inside => areColumns header (List.mem_reverse.1 inside)⟩
  obtain ⟨spent, reached⟩ := Layout.covers_web proper shown trail.areHeaders updates
  have sound := shown.sound
  refine ⟨_, reached, ?_, ?_, ?_, ?_⟩
  · have active : layout.active headers.reverse = layout.primary.filter (· ∉ headers) := by
      apply List.filter_congr
      intro column _
      simp
    rw [← active]
    exact Layout.activeHeaders_web proper shown trail spent
  · intro column isColumn fresh
    have uncovered : column ∉ headers.reverse := fun inside => fresh (List.mem_reverse.1 inside)
    rw [← Layout.unmet_reverse, ← Layout.live_eq_unmet sound uncovered]
    exact Layout.column_web proper shown trail isColumn spent
  · rintro before header later rfl
    have fresh : header ∉ before.reverse := fun inside =>
      (List.nodup_append.1 once).2.2 header (List.mem_reverse.1 inside) header List.mem_cons_self rfl
    have turned : (before ++ header :: later).reverse = later.reverse ++ header :: before.reverse := by
      simp
    have left := @Layout.live_append_cons layout before.reverse later.reverse _ header sound proper fresh
    rw [← turned, Layout.unmet_reverse] at left
    rw [← left]
    exact Layout.column_web proper shown trail (areColumns header (by simp)) spent
  · intro column isColumn
    refine ⟨_, Layout.column_web proper shown trail isColumn spent, ?_, ?_⟩
    · rw [← List.map_reverse]
      exact Layout.upward_web proper shown trail isColumn spent
    · rw [List.length_map]
      exact Layout.columnSize_web proper shown trail isColumn spent

/-- The columns 3 and 1 are covered. The column 3 keeps the records of both rows that meet it, the column
1 has lost its row, and the column 2 the record of the row that meets the column 3. -/
theorem walks_after_covers_small : ∃ problem after, BuiltAs problem .small ∧
    Arena.play [.cover 3, .cover 1] problem.arena = .ok () after ∧
    after.activeHeaders = .ok [.record 2] ∧
    after.column (.record 2) = .ok [.record 6] ∧
    after.column (.record 3) = .ok [.record 5, .record 8] ∧
    after.column (.record 1) = .ok [] := by
  obtain ⟨problem, builtAs, -⟩ := exists_builtAs_small
  obtain ⟨after, covers, active, uncovered, covered, -⟩ :=
    @walks_after_covers problem .small builtAs [3, 1] (by decide) (by decide)
  exact ⟨problem, after, builtAs, covers, active, uncovered 2 (by decide) (by decide),
    covered [] 3 [1] rfl, covered [3] 1 [] rfl⟩

end ExactCover
