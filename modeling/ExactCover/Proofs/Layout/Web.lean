import ExactCover.Proofs.Arena.Walk
import ExactCover.Proofs.Layout.Basic

/-!
# Webs of a layout

When a web holds a layout: the threads run round the rings of columns less those that are taken out,
round the rows, and round each column with the records that stand in it, and the sizes count these
records. Nothing is said of the links of what is taken out.

Taking out one record of a row or one column keeps this (`Holds.drop`, `Holds.hideHeader`), and each
of the two is undone exactly, whatever the stale links are (`Holds.lift_drop`,
`Holds.restoreHeader_hideHeader`).
-/

set_option autoImplicit false

namespace ExactCover

open Function

namespace Web

variable {web : Web} {layout : Layout} {covered : List Nat} {stands : Nat → Bool}

/-- A web holds a layout. `covered` are the columns that are taken out of their rings, and `stands`
tells which records stand in their columns. -/
structure Holds (web : Web) (layout : Layout) (covered : List Nat) (stands : Nat → Bool) : Prop where
  sound : layout.Sound web.count
  headers : ∀ ring ∈ layout.headerRings, web.across.Ring (ring.filter (· ∉ covered))
  rows : ∀ row ∈ layout.rows, web.across.Ring row
  columns : ∀ header ∈ layout.headerRings.flatten,
    web.along.Ring (header :: (layout.members header).filter stands)
  sizes : ∀ header ∈ layout.headerRings.flatten,
    web.size header = ((layout.members header).filter stands).length
  homes : ∀ place ∈ layout.attached, web.column place.1 = place.2
  names : ∀ place, place < web.count →
    ((web.name? place).isSome ↔ place ∈ layout.headerRings.flatten)

/-- A record of a row is taken out of its column, which counts it no longer. -/
def drop (web : Web) (layout : Layout) (node : Nat) : Web :=
  (web.hide node).resize (layout.column node) (-1)

/-- A record of a row is put back into its column, which counts it again. -/
def lift (web : Web) (layout : Layout) (node : Nat) : Web :=
  (web.resize (layout.column node) 1).restore node

namespace Holds

section

variable (holds : web.Holds layout covered stands)
include holds

/-- Only what is said of the records of the layout matters. -/
theorem congr {others : Nat → Bool} (same : ∀ node ∈ layout.nodes, stands node = others node) :
    web.Holds layout covered others := by
  have members : ∀ header,
      (layout.members header).filter stands = (layout.members header).filter others :=
    fun header => List.filter_congr fun node inside =>
      same node (holds.sound.node_of_mem_members inside).1
  exact
    { holds with
      columns := fun header isHeader => members header ▸ holds.columns header isHeader
      sizes := fun header isHeader => members header ▸ holds.sizes header isHeader }

/-- The ring of a column has every record once. -/
theorem column_nodup {header : Nat} (isHeader : header ∈ layout.headerRings.flatten) :
    (header :: (layout.members header).filter stands).Nodup := by
  refine List.nodup_cons.2 ⟨fun inside => ?_, (holds.sound.members_nodup header).filter _⟩
  exact holds.sound.header_not_node isHeader
    (holds.sound.node_of_mem_members (List.mem_of_mem_filter inside)).1

/-- The rings of different columns have no record in common. -/
theorem column_unique {one other place : Nat} (isOne : one ∈ layout.headerRings.flatten)
    (isOther : other ∈ layout.headerRings.flatten)
    (inOne : place ∈ one :: (layout.members one).filter stands)
    (inOther : place ∈ other :: (layout.members other).filter stands) : one = other := by
  rcases List.mem_cons.1 inOne with rfl | inOne
  · rcases List.mem_cons.1 inOther with same | inOther
    · exact same
    · exact absurd (holds.sound.node_of_mem_members (List.mem_of_mem_filter inOther)).1
        (holds.sound.header_not_node isOne)
  · have here := holds.sound.node_of_mem_members (List.mem_of_mem_filter inOne)
    rcases List.mem_cons.1 inOther with rfl | inOther
    · exact absurd here.1 (holds.sound.header_not_node isOther)
    · exact here.2.symm.trans
        (holds.sound.node_of_mem_members (List.mem_of_mem_filter inOther)).2

theorem column_lt_count {header place : Nat} (isHeader : header ∈ layout.headerRings.flatten)
    (inside : place ∈ header :: (layout.members header).filter stands) : place < web.count := by
  rcases List.mem_cons.1 inside with rfl | inside
  · exact holds.sound.header_lt isHeader
  · exact holds.sound.node_lt (holds.sound.node_of_mem_members (List.mem_of_mem_filter inside)).1

theorem header_named {header : Nat} (isHeader : header ∈ layout.headerRings.flatten) :
    (web.name? header).isSome :=
  (holds.names header (holds.sound.header_lt isHeader)).2 isHeader

/-- The ring of a row, from any of its records. -/
theorem row_ring {node : Nat} (isNode : node ∈ layout.nodes) :
    web.across.Ring (node :: layout.others node) := by
  obtain ⟨front, back, split, turned⟩ := holds.sound.exists_split isNode
  have ring := holds.rows _ (holds.sound.rowOf_mem isNode)
  rw [split] at ring
  rw [turned]
  exact Thread.ring_rotate.1 ring

theorem row_lt_count {node place : Nat} (isNode : node ∈ layout.nodes)
    (inside : place ∈ node :: layout.others node) : place < web.count := by
  rcases List.mem_cons.1 inside with rfl | inside
  · exact holds.sound.node_lt isNode
  · exact holds.sound.node_lt (holds.sound.node_of_mem_others isNode inside)

/-! ## One record of a row -/

section

variable (proper : layout.Proper) {node : Nat} (isNode : node ∈ layout.nodes)
  (there : stands node = true)
include proper isNode there

/-- A record that stands in its column is on the ring of the column. -/
theorem mem_column :
    node ∈ layout.column node :: (layout.members (layout.column node)).filter stands :=
  List.mem_cons_of_mem _ (List.mem_filter.2
    ⟨(holds.sound.mem_members_iff proper).2 ⟨isNode, rfl⟩, there⟩)

/-- The neighbours of a record that stands in its column. -/
theorem neighbours :
    web.along.next (web.along.prev node) = node ∧ web.along.prev (web.along.next node) = node ∧
      web.along.next node ∈ layout.column node ::
        (layout.members (layout.column node)).filter stands ∧
      web.along.prev node ∈ layout.column node ::
        (layout.members (layout.column node)).filter stands :=
  (holds.columns _ (holds.sound.header_mem proper isNode)).next_prev
    (holds.mem_column proper isNode there)

/-- **Taking one record of a row out of its column.** -/
theorem drop : (web.drop layout node).Holds layout covered
    (fun other => stands other && other != node) := by
  have isHeader := holds.sound.header_mem proper isNode
  obtain ⟨-, -, nextInside, prevInside⟩ := holds.neighbours proper isNode there
  have inside := holds.mem_column proper isNode there
  have apart : ∀ column, column ≠ layout.column node →
      (layout.members column).filter (fun other => stands other && other != node) =
        (layout.members column).filter stands := by
    intro column different
    apply List.filter_congr
    intro other here
    have : other ≠ node := by
      rintro rfl
      exact different (holds.sound.node_of_mem_members here).2.symm
    simp [this]
  have own : (layout.members (layout.column node)).filter
        (fun other => stands other && other != node) =
      ((layout.members (layout.column node)).filter stands).filter (· ≠ node) := by
    rw [List.filter_filter]
    apply List.filter_congr
    intro other _
    rw [Bool.and_comm]
    simp [bne, beq_eq_decide]
  refine { holds with columns := ?_, sizes := ?_ }
  · intro column isOther
    have ring := holds.columns column isOther
    by_cases same : column = layout.column node
    · subst same
      have different : layout.column node ≠ node := by
        intro same
        exact holds.sound.header_not_node isHeader (same.symm ▸ isNode)
      have without := ring.unlink (holds.column_nodup isHeader) inside
      rw [List.filter_cons_of_pos (by simpa using different)] at without
      rw [own]
      exact without
    · rw [apart column same]
      refine ring.unlink_apart (fun here => same ?_) (fun here => same ?_)
      · exact holds.column_unique isOther isHeader here nextInside
      · exact holds.column_unique isOther isHeader here prevInside
  · intro column isOther
    by_cases same : column = layout.column node
    · subst same
      have once := (holds.sound.members_nodup (layout.column node)).filter stands
      have inFilter : node ∈ (layout.members (layout.column node)).filter stands :=
        List.mem_filter.2 ⟨(holds.sound.mem_members_iff proper).2 ⟨isNode, rfl⟩, there⟩
      have shorter := List.length_erase_of_mem inFilter
      have := List.length_pos_of_mem inFilter
      rw [once.erase_eq_filter] at shorter
      have size : (web.drop layout node).size (layout.column node) =
          web.size (layout.column node) + -1 := by
        simp [Web.drop, resize, hide]
      rw [size, holds.sizes _ isHeader, own]
      simp only [bne, beq_eq_decide] at shorter
      simp only [ne_eq, decide_not]
      omega
    · have size : (web.drop layout node).size column = web.size column := by
        simp [Web.drop, resize, hide, update_of_ne same]
      rw [size, apart column same, holds.sizes _ isOther]

/-- **What was taken out of its column is put back exactly.** -/
theorem lift_drop : (web.drop layout node).lift layout node = web := by
  obtain ⟨forward, backward, -, -⟩ := holds.neighbours proper isNode there
  have sizes : update (update web.size (layout.column node) (web.size (layout.column node) + -1))
      (layout.column node) (web.size (layout.column node) + -1 + 1) = web.size := by
    rw [update_idem, Int.neg_add_cancel_right, update_eq_self]
  have along := Thread.relink_unlink forward backward
  obtain ⟨count, name?, across, along', column, size⟩ := web
  simp only [lift, Web.drop, resize, hide, restore, update_self] at sizes along ⊢
  rw [sizes, along]

theorem hideMember_arena (updates : Nat) :
    Arena.hideMember (.record node) (web.arena updates) =
      .ok () ((web.drop layout node).arena (updates + 1)) := by
  have isHeader := holds.sound.header_mem proper isNode
  obtain ⟨-, -, nextInside, prevInside⟩ := holds.neighbours proper isNode there
  have inside := holds.sound.node_lt isNode
  have home : ((web.hide node).node node).column = .record (layout.column node) :=
    congrArg Link.record (holds.homes _ (holds.sound.attached_column proper isNode))
  refine (bind_of_ok (web.hide_arena inside (holds.column_lt_count isHeader prevInside)
    (holds.column_lt_count isHeader nextInside))).trans ?_
  refine (bind_of_ok ((web.hide node).read_arena inside)).trans ?_
  rw [home]
  exact bind_of_ok ((web.hide node).resize_arena (holds.sound.header_lt isHeader)
    (holds.header_named isHeader) (-1))

theorem restoreMember_arena (updates : Nat) :
    Arena.restoreMember (.record node) ((web.drop layout node).arena updates) =
      .ok () (web.arena updates) := by
  have isHeader := holds.sound.header_mem proper isNode
  obtain ⟨-, -, nextInside, prevInside⟩ := holds.neighbours proper isNode there
  have inside := holds.sound.node_lt isNode
  have home : ((web.drop layout node).node node).column = .record (layout.column node) :=
    congrArg Link.record (holds.homes _ (holds.sound.attached_column proper isNode))
  have linksInside : (web.along.unlink node).prev node < web.count ∧
      (web.along.unlink node).next node < web.count := by
    simp only [Thread.unlink, update_apply, ite_self]
    exact ⟨holds.column_lt_count isHeader prevInside, holds.column_lt_count isHeader nextInside⟩
  refine (bind_of_ok ((web.drop layout node).read_arena inside)).trans ?_
  rw [home]
  refine (bind_of_ok ((web.drop layout node).resize_arena (holds.sound.header_lt isHeader)
    (holds.header_named isHeader) 1)).trans ?_
  refine (((web.drop layout node).resize (layout.column node) 1).restore_arena inside
    linksInside.1 linksInside.2).trans ?_
  exact congrArg (fun back : Web => EStateM.Result.ok () (back.arena updates))
    (holds.lift_drop proper isNode there)

end

/-! ## One column -/

section

variable {header : Nat} (isHeader : header ∈ layout.headerRings.flatten)
  (uncovered : header ∉ covered)
include isHeader uncovered

/-- The ring and the neighbours of a column that is not taken out. -/
theorem sideways : ∃ ring ∈ layout.headerRings, header ∈ ring.filter (· ∉ covered) ∧
    web.across.next (web.across.prev header) = header ∧
    web.across.prev (web.across.next header) = header ∧
    web.across.next header ∈ ring.filter (· ∉ covered) ∧
    web.across.prev header ∈ ring.filter (· ∉ covered) := by
  obtain ⟨ring, isRing, inRing⟩ := List.mem_flatten.1 isHeader
  have inside : header ∈ ring.filter (· ∉ covered) :=
    List.mem_filter.2 ⟨inRing, by simpa using uncovered⟩
  exact ⟨ring, isRing, inside, (holds.headers ring isRing).next_prev inside⟩

/-- The neighbours of a column are records. -/
theorem sideways_lt :
    web.across.prev header < web.count ∧ web.across.next header < web.count := by
  obtain ⟨ring, isRing, -, -, -, nextInside, prevInside⟩ := holds.sideways isHeader uncovered
  have within : ∀ place ∈ ring.filter (· ∉ covered), place < web.count := fun place inside =>
    holds.sound.lt_count_iff.2
      (.inl (List.mem_flatten.2 ⟨ring, isRing, List.mem_of_mem_filter inside⟩))
  exact ⟨within _ prevInside, within _ nextInside⟩

/-- **Taking a column out of its ring.** -/
theorem hideHeader : (web.hideHeader header).Holds layout (header :: covered) stands := by
  obtain ⟨ring, isRing, inside, -, -, nextInside, prevInside⟩ :=
    holds.sideways isHeader uncovered
  refine { holds with headers := ?_, rows := ?_ }
  · intro other isOther
    have ringOther := holds.headers other isOther
    have less : other.filter (· ∉ header :: covered) =
        (other.filter (· ∉ covered)).filter (· ≠ header) := by
      rw [List.filter_filter]
      apply List.filter_congr
      intro place _
      simp
    rw [less]
    by_cases same : other = ring
    · subst same
      exact ringOther.unlink ((holds.sound.ring_nodup isOther).filter _) inside
    · have apart : ∀ place ∈ ring.filter (· ∉ covered), place ∉ other.filter (· ∉ covered) :=
        fun place inOne inOther => same (holds.sound.ring_unique isOther isRing
          (List.mem_of_mem_filter inOther) (List.mem_of_mem_filter inOne))
      have whole : (other.filter (· ∉ covered)).filter (· ≠ header) =
          other.filter (· ∉ covered) := by
        apply List.filter_eq_self.2
        intro place here
        simpa using fun here' : place = header => apart header inside (here' ▸ here)
      rw [whole]
      exact ringOther.unlink_apart (apart _ nextInside) (apart _ prevInside)
  · intro row isRow
    have apart : ∀ place ∈ ring.filter (· ∉ covered), place ∉ row :=
      fun place inRing inRow => holds.sound.header_not_node
        (List.mem_flatten.2 ⟨ring, isRing, List.mem_of_mem_filter inRing⟩)
        (Layout.mem_nodes.2 ⟨row, isRow, inRow⟩)
    exact (holds.rows row isRow).unlink_apart (apart _ nextInside) (apart _ prevInside)

/-- **A column that was taken out of its ring is put back exactly.** -/
theorem restoreHeader_hideHeader : (web.hideHeader header).restoreHeader header = web := by
  obtain ⟨-, -, -, forward, backward, -, -⟩ := holds.sideways isHeader uncovered
  have across := Thread.relink_unlink forward backward
  obtain ⟨count, name?, across', along, column, size⟩ := web
  simp only [Web.hideHeader, restoreHeader] at across ⊢
  rw [across]

theorem hideHeader_arena (updates : Nat) :
    Arena.hideHeader (.record header) (web.arena updates) =
      .ok () ((web.hideHeader header).arena updates) :=
  have inside := holds.sideways_lt isHeader uncovered
  web.hideHeader_arena (holds.sound.header_lt isHeader) inside.1 inside.2

theorem restoreHeader_arena (updates : Nat) :
    Arena.restoreHeader (.record header) ((web.hideHeader header).arena updates) =
      .ok () (web.arena updates) := by
  have inside := holds.sideways_lt isHeader uncovered
  have linksInside : (web.across.unlink header).prev header < web.count ∧
      (web.across.unlink header).next header < web.count := by
    simp only [Thread.unlink, update_apply, ite_self]
    exact inside
  refine ((web.hideHeader header).restoreHeader_arena (holds.sound.header_lt isHeader)
    linksInside.1 linksInside.2).trans ?_
  exact congrArg (fun back : Web => EStateM.Result.ok () (back.arena updates))
    (holds.restoreHeader_hideHeader isHeader uncovered)

end

end

end Holds

end Web

end ExactCover
