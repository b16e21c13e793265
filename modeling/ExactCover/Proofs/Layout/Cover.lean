import ExactCover.Proofs.Layout.Web

/-!
# Covering a column of a layout

Covering a column takes it out of its ring, and takes every other record of the rows that stand in
it out of its column, row by row from the top and each row from left to right. The records taken out
are listed by `Layout.struck`. Uncovering the column gives back the very same web, stale links
included, since it puts them back in the opposite order (`Shows.cover_arena`,
`Shows.uncover_arena`).

A web shows a layout when it holds it with the records that the covered columns leave standing.
Covering one more column keeps that (`Shows.cover`).
-/

set_option autoImplicit false

namespace ExactCover

open Function

namespace Web

variable {layout : Layout} {covered : List Nat} {stands : Nat → Bool}

section

variable (web : Web)

/-- Records are taken out of their columns one after the other. -/
def dropAll (web : Web) (layout : Layout) (nodes : List Nat) : Web :=
  nodes.foldl (fun web node => web.drop layout node) web

@[simp] theorem dropAll_nil : web.dropAll layout [] = web := rfl

@[simp] theorem dropAll_cons (node : Nat) (nodes : List Nat) :
    web.dropAll layout (node :: nodes) = (web.drop layout node).dropAll layout nodes := rfl

@[simp] theorem dropAll_append (nodes others : List Nat) :
    web.dropAll layout (nodes ++ others) = (web.dropAll layout nodes).dropAll layout others :=
  List.foldl_append

@[simp] theorem count_dropAll (nodes : List Nat) : (web.dropAll layout nodes).count = web.count := by
  induction nodes generalizing web with
  | nil => rfl
  | cons node nodes ih => exact ih _

@[simp] theorem across_dropAll (nodes : List Nat) :
    (web.dropAll layout nodes).across = web.across := by
  induction nodes generalizing web with
  | nil => rfl
  | cons node nodes ih => exact ih _

end

namespace Holds

variable {web : Web} (holds : web.Holds layout covered stands)
include holds

/-! ## One row -/

section

variable (proper : layout.Proper)
include proper

theorem dropAll {nodes : List Nat} (once : nodes.Nodup)
    (there : ∀ node ∈ nodes, node ∈ layout.nodes ∧ stands node = true) :
    (web.dropAll layout nodes).Holds layout covered
      (fun other => stands other && !decide (other ∈ nodes)) := by
  induction nodes generalizing web stands with
  | nil => exact holds.congr fun node _ => by simp
  | cons node nodes ih =>
      obtain ⟨isNode, here⟩ := there node (by simp)
      rw [List.nodup_cons] at once
      have less := holds.drop proper isNode here
      have rest := ih less once.2 fun other inside => by
        have different : other ≠ node := fun same => once.1 (same ▸ inside)
        have := there other (List.mem_cons_of_mem _ inside)
        simpa [different] using this
      apply rest.congr
      intro other _
      simp [Bool.and_assoc, bne, beq_eq_decide]

variable {node : Nat} (isNode : node ∈ layout.nodes)
  (there : ∀ other ∈ layout.others node, stands other = true)
include isNode there

/-- On the way along a row the record that is met next still stands in its column. -/
theorem partOfRow {done rest : List Nat} {current : Nat}
    (split : layout.others node = done ++ current :: rest) :
    (web.dropAll layout done).Holds layout covered
        (fun other => stands other && !decide (other ∈ done)) ∧
      current ∈ layout.nodes ∧ (stands current && !decide (current ∈ done)) = true := by
  have once : (done ++ current :: rest).Nodup :=
    split ▸ (List.nodup_cons.1 (holds.sound.around_nodup isNode)).2
  have within : ∀ other ∈ done ++ current :: rest, other ∈ layout.nodes ∧ stands other = true :=
    fun other inside => by
      rw [← split] at inside
      exact ⟨holds.sound.node_of_mem_others isNode inside, there other inside⟩
  have fresh : current ∉ done := fun again =>
    (List.nodup_append.1 once).2.2 _ again current (by simp) rfl
  obtain ⟨isCurrent, here⟩ := within current (by simp)
  refine ⟨holds.dropAll proper (List.nodup_append.1 once).1 fun other inside => ?_, isCurrent, ?_⟩
  · exact within other (by simp [inside])
  · simp [here, fresh]

/-- The records of a row are taken out from left to right. -/
theorem hideRow_arena (updates : Nat) :
    Arena.hideRow (.record node) (web.arena updates) =
      .ok () ((web.dropAll layout (layout.others node)).arena
        (updates + (layout.others node).length)) := by
  refine walk_ring Web.across reads_right (fun done => web.dropAll layout done)
    (fun done => updates + done.length) (fun done => web.count_dropAll done) ?_
    (holds.sound.around_nodup isNode) ?_ ?_
  · intro done _
    rw [across_dropAll]
    exact holds.row_ring isNode
  · exact fun member inside => holds.row_lt_count isNode inside
  · intro done current rest split
    obtain ⟨before, isCurrent, here⟩ := holds.partOfRow proper isNode there split
    have hidden := before.hideMember_arena proper isCurrent here (updates + done.length)
    simpa [Nat.add_assoc] using hidden

/-- They are put back from right to left. -/
theorem restoreRow_arena (updates : Nat) :
    Arena.restoreRow (.record node) ((web.dropAll layout (layout.others node)).arena updates) =
      .ok () (web.arena updates) := by
  refine walk_ring_back Web.across reads_left (fun done => web.dropAll layout done)
    (fun done => web.count_dropAll done) ?_ (holds.sound.around_nodup isNode) ?_ ?_
  · intro done _
    rw [across_dropAll]
    exact holds.row_ring isNode
  · exact fun member inside => holds.row_lt_count isNode inside
  · intro done current rest split
    obtain ⟨before, isCurrent, here⟩ := holds.partOfRow proper isNode there split
    have restored := before.restoreMember_arena proper isCurrent here updates
    simpa using restored

end

end Holds

/-! ## One column -/

/-- A web with a column covered after others, the latest first. -/
def cover (web : Web) (layout : Layout) (covered : List Nat) (header : Nat) : Web :=
  (web.hideHeader header).dropAll layout (layout.struck covered header)

/-- A web shows a layout in which columns were covered, the latest first. -/
abbrev Shows (web : Web) (layout : Layout) (covered : List Nat) : Prop :=
  web.Holds layout covered (layout.linked covered)

namespace Shows

variable {web : Web} {header : Nat} (shown : web.Shows layout covered) (proper : layout.Proper)
  (isHeader : header ∈ layout.headerRings.flatten) (uncovered : header ∉ covered)
include shown proper isHeader uncovered

/-- The web after a part of the rows of a column has been taken out. -/
theorem partOfColumn {done : List Nat} (part : done <+: layout.live covered header) :
    ((web.hideHeader header).dropAll layout (done.flatMap layout.others)).Holds layout
      (header :: covered)
      (fun other => layout.linked covered other && !decide (other ∈ done.flatMap layout.others)) := by
  have within : done.flatMap layout.others <+: layout.struck covered header := by
    obtain ⟨rest, split⟩ := part
    exact ⟨rest.flatMap layout.others, by rw [Layout.struck, ← split, List.flatMap_append]⟩
  refine (shown.hideHeader isHeader uncovered).dropAll proper ?_ fun node inside => ?_
  · exact within.sublist.nodup (shown.sound.struck_nodup proper covered header)
  · have isStruck := (shown.sound.mem_struck proper uncovered).1 (within.subset inside)
    exact ⟨isStruck.1, Layout.linked_of_not_meets isStruck.2.1⟩

/-- On the way down a column its ring stays as it is. -/
theorem partOfColumn_ring {done : List Nat} (part : done <+: layout.live covered header) :
    ((web.hideHeader header).dropAll layout (done.flatMap layout.others)).along.Ring
      (header :: layout.live covered header) := by
  have ring := (shown.partOfColumn proper isHeader uncovered part).columns header isHeader
  have same : (layout.members header).filter (fun other =>
      layout.linked covered other && !decide (other ∈ done.flatMap layout.others)) =
        layout.live covered header := by
    apply List.filter_congr
    intro other inside
    have home := (shown.sound.node_of_mem_members inside).2
    have apart : other ∉ done.flatMap layout.others := fun isDone => by
      obtain ⟨own, isOwn, inRow⟩ := List.mem_flatMap.1 isDone
      have isStruck : other ∈ layout.struck covered header :=
        List.mem_flatMap.2 ⟨own, part.subset isOwn, inRow⟩
      exact ((shown.sound.mem_struck proper uncovered).1 isStruck).2.2.2 home
    simp [apart]
  rwa [same] at ring

omit isHeader in
/-- The row that is met next on the way down a column is whole. -/
theorem partOfColumn_row {done rest : List Nat} {current : Nat}
    (split : layout.live covered header = done ++ current :: rest) :
    current ∈ layout.nodes ∧ ∀ other ∈ layout.others current,
      (layout.linked covered other && !decide (other ∈ done.flatMap layout.others)) = true := by
  have inLive : current ∈ layout.live covered header := by simp [split]
  obtain ⟨isCurrent, home, free⟩ := (shown.sound.mem_live proper uncovered).1 inLive
  refine ⟨isCurrent, fun other inside => ?_⟩
  have inRow := ((shown.sound.mem_others isCurrent).1 inside).1
  have stands := Layout.linked_of_not_meets ((shown.sound.meets_congr isCurrent inRow).trans free)
  have apart : other ∉ done.flatMap layout.others := fun isDone => by
    obtain ⟨own, isOwn, inOwn⟩ := List.mem_flatMap.1 isDone
    have ownLive : own ∈ layout.live covered header := by simp [split, isOwn]
    obtain ⟨ownNode, ownHome⟩ := shown.sound.node_of_mem_live ownLive
    have inOwnRow := ((shown.sound.mem_others ownNode).1 inOwn).1
    have sameRow := (shown.sound.rowOf_eq_of_mem isCurrent inRow).symm.trans
      (shown.sound.rowOf_eq_of_mem ownNode inOwnRow)
    have same : own = current := shown.sound.column_injective proper isCurrent
      (sameRow ▸ shown.sound.mem_rowOf ownNode) (ownHome.trans home.symm)
    have once := shown.sound.live_nodup covered header
    rw [split] at once
    exact (List.nodup_append.1 once).2.2 own isOwn current (by simp) same
  simp [stands, apart]

/-- **A covered column leaves what the layout says.** -/
theorem cover : (web.cover layout covered header).Shows layout (header :: covered) := by
  have whole := shown.partOfColumn proper isHeader uncovered List.prefix_rfl
  exact whole.congr fun node isNode =>
    (shown.sound.linked_cons proper uncovered isNode).symm

/-- **Covering a column of an arena.** -/
theorem cover_arena (updates : Nat) :
    Arena.cover (.record header) (web.arena updates) =
      .ok () ((web.cover layout covered header).arena
        (updates + (layout.struck covered header).length)) := by
  have once := shown.column_nodup isHeader
  refine (bind_of_ok (shown.hideHeader_arena isHeader uncovered updates)).trans ?_
  refine walk_ring Web.along reads_down
    (fun done => (web.hideHeader header).dropAll layout (done.flatMap layout.others))
    (fun done => updates + (done.flatMap layout.others).length)
    (fun done => (web.hideHeader header).count_dropAll _)
    (fun done part => shown.partOfColumn_ring proper isHeader uncovered part) once
    (fun member inside => shown.column_lt_count isHeader inside) ?_
  intro done current rest split
  obtain ⟨isCurrent, there⟩ := shown.partOfColumn_row proper uncovered split
  have before := shown.partOfColumn proper isHeader uncovered ⟨current :: rest, split.symm⟩
  have hidden := before.hideRow_arena proper isCurrent there
    (updates + (done.flatMap layout.others).length)
  simpa [Nat.add_assoc] using hidden

/-- **Uncovering the column that was covered last.** -/
theorem uncover_arena (updates : Nat) :
    Arena.uncover (.record header) ((web.cover layout covered header).arena updates) =
      .ok () (web.arena updates) := by
  have once := shown.column_nodup isHeader
  have back := walk_ring_back Web.along reads_up
    (fun done => (web.hideHeader header).dropAll layout (done.flatMap layout.others))
    (fun done => (web.hideHeader header).count_dropAll _)
    (fun done part => shown.partOfColumn_ring proper isHeader uncovered part) once
    (fun member inside => shown.column_lt_count isHeader inside)
    (fun done current rest split => by
      obtain ⟨isCurrent, there⟩ := shown.partOfColumn_row proper uncovered split
      have before := shown.partOfColumn proper isHeader uncovered ⟨current :: rest, split.symm⟩
      have restored := before.restoreRow_arena proper isCurrent there updates
      simpa using restored)
  exact (bind_of_ok back).trans (shown.restoreHeader_arena isHeader uncovered updates)

end Shows

end Web

end ExactCover
