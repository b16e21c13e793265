import ExactCover.Proofs.Layout.Cover
import ExactCover.Solver.Problem

/-!
# Trails

A trail is a list of different columns, the latest first. Covering the columns of a trail one after
the other leads from the web of a built arena to one web only (`Layout.web`), and that web shows what
the trail leaves (`shows_web`).

What is said of one column holds of the root as well, which has a ring too but no records
(`Layout.AreHeaders`). A search never covers the root, so the root is on no trail.

So a search state is told by its trail. Covering or uncovering a column or the rest of a row moves
along the trail, and what a search looks at (the next record of a column, the columns that are left,
their sizes) is read off the layout.
-/

set_option autoImplicit false

namespace ExactCover

namespace Layout

variable {layout : Layout} {start : Web} {covered : List Nat}

/-- The web after columns were covered, the latest first. -/
def web (layout : Layout) (start : Web) : List Nat → Web
  | [] => start
  | last :: earlier => (layout.web start earlier).cover layout earlier last

/-- The updates that are made when more columns are covered, the latest first. -/
def spent (layout : Layout) (covered : List Nat) : List Nat → Nat
  | [] => 0
  | last :: earlier =>
      layout.spent covered earlier + (layout.struck (earlier ++ covered) last).length

/-- Different columns of a layout. -/
structure IsTrail (layout : Layout) (covered : List Nat) : Prop where
  once : covered.Nodup
  columns : ∀ column ∈ covered, column ∈ layout.columns

theorem isTrail_nil : layout.IsTrail [] := ⟨List.nodup_nil, by simp⟩

theorem IsTrail.of_suffix {earlier : List Nat} (trail : layout.IsTrail covered)
    (part : earlier <:+ covered) : layout.IsTrail earlier :=
  ⟨part.sublist.nodup trail.once, fun column inside => trail.columns column (part.subset inside)⟩

theorem isTrail_cons {column : Nat} :
    layout.IsTrail (column :: covered) ↔
      column ∈ layout.columns ∧ column ∉ covered ∧ layout.IsTrail covered := by
  constructor
  · intro trail
    exact ⟨trail.columns column (by simp), (List.nodup_cons.1 trail.once).1,
      trail.of_suffix (List.suffix_cons _ _)⟩
  · rintro ⟨isColumn, uncovered, trail⟩
    refine ⟨List.nodup_cons.2 ⟨uncovered, trail.once⟩, fun other inside => ?_⟩
    rcases List.mem_cons.1 inside with rfl | inside
    · exact isColumn
    · exact trail.columns other inside

@[simp] theorem count_web (covered : List Nat) :
    (layout.web start covered).count = start.count := by
  induction covered with
  | nil => rfl
  | cons last earlier ih =>
      rw [web, Web.cover, Web.count_dropAll, ← ih]
      rfl

/-- The trail with the columns of a row on top, the column of a record first. -/
def withRow (layout : Layout) (covered : List Nat) (node : Nat) : List Nat :=
  (layout.columnsOf node).reverse ++ covered

theorem withRow_eq (node : Nat) :
    layout.withRow covered node =
      ((layout.others node).map layout.column).reverse ++ layout.column node :: covered := by
  simp [withRow, columnsOf]

theorem mem_withRow {node column : Nat} :
    column ∈ layout.withRow covered node ↔ column ∈ layout.columnsOf node ∨ column ∈ covered := by
  simp [withRow]

/-- A row that is not met may be covered. -/
theorem IsTrail.withRow {count node : Nat} (trail : layout.IsTrail covered)
    (sound : layout.Sound count) (proper : layout.Proper) (isNode : node ∈ layout.nodes)
    (free : layout.meets covered node = false) : layout.IsTrail (layout.withRow covered node) := by
  rw [meets_eq_false] at free
  constructor
  · refine List.nodup_append.2 ⟨?_, trail.once, ?_⟩
    · exact List.nodup_reverse.2 (sound.columnsOf_nodup proper isNode)
    · rintro column inRow _ inTrail rfl
      exact free column inTrail (List.mem_reverse.1 inRow)
  · intro column inside
    rcases mem_withRow.1 inside with inRow | inTrail
    · exact sound.mem_columns_of_columnsOf proper isNode inRow
    · exact trail.columns column inTrail

/-! ## Covering columns in any order -/

/-- Different columns, among which the root may be. The root is a column that no record stands in. -/
structure AreHeaders (layout : Layout) (covered : List Nat) : Prop where
  once : covered.Nodup
  headers : ∀ header ∈ covered, header ∈ layout.headerRings.flatten

theorem IsTrail.areHeaders (trail : layout.IsTrail covered) : layout.AreHeaders covered :=
  ⟨trail.once, fun column inside => mem_headerRings_flatten.2 (.inr (trail.columns column inside))⟩

theorem AreHeaders.of_suffix {earlier : List Nat} (areHeaders : layout.AreHeaders covered)
    (part : earlier <:+ covered) : layout.AreHeaders earlier :=
  ⟨part.sublist.nodup areHeaders.once,
    fun header inside => areHeaders.headers header (part.subset inside)⟩

theorem areHeaders_cons {header : Nat} :
    layout.AreHeaders (header :: covered) ↔
      header ∈ layout.headerRings.flatten ∧ header ∉ covered ∧ layout.AreHeaders covered := by
  constructor
  · rintro ⟨once, headers⟩
    obtain ⟨uncovered, once⟩ := List.nodup_cons.1 once
    exact ⟨headers header List.mem_cons_self, uncovered, once,
      fun other inside => headers other (List.mem_cons_of_mem _ inside)⟩
  · rintro ⟨isHeader, uncovered, once, headers⟩
    exact ⟨List.nodup_cons.2 ⟨uncovered, once⟩, List.forall_mem_cons.2 ⟨isHeader, headers⟩⟩

section

variable (proper : layout.Proper) (built : start.Shows layout [])
include proper built

theorem AreHeaders.shows (areHeaders : layout.AreHeaders covered) :
    (layout.web start covered).Shows layout covered := by
  induction covered with
  | nil => exact built
  | cons last earlier ih =>
      obtain ⟨isHeader, uncovered, before⟩ := areHeaders_cons.1 areHeaders
      exact (ih before).cover proper isHeader uncovered

theorem AreHeaders.cover {header : Nat} (areHeaders : layout.AreHeaders (header :: covered))
    (updates : Nat) :
    Arena.cover (.record header) ((layout.web start covered).arena updates) =
      .ok () ((layout.web start (header :: covered)).arena
        (updates + (layout.struck covered header).length)) := by
  obtain ⟨isHeader, uncovered, before⟩ := areHeaders_cons.1 areHeaders
  exact (before.shows proper built).cover_arena proper isHeader uncovered updates

theorem AreHeaders.uncover {header : Nat} (areHeaders : layout.AreHeaders (header :: covered))
    (updates : Nat) :
    Arena.uncover (.record header) ((layout.web start (header :: covered)).arena updates) =
      .ok () ((layout.web start covered).arena updates) := by
  obtain ⟨isHeader, uncovered, before⟩ := areHeaders_cons.1 areHeaders
  exact (before.shows proper built).uncover_arena proper isHeader uncovered updates

/-- **The web of a trail shows what the trail leaves.** -/
theorem shows_web (trail : layout.IsTrail covered) :
    (layout.web start covered).Shows layout covered := trail.areHeaders.shows proper built

theorem cover_web {column : Nat} (trail : layout.IsTrail (column :: covered)) (updates : Nat) :
    Arena.cover (.record column) ((layout.web start covered).arena updates) =
      .ok () ((layout.web start (column :: covered)).arena
        (updates + (layout.struck covered column).length)) :=
  trail.areHeaders.cover proper built updates

theorem uncover_web {column : Nat} (trail : layout.IsTrail (column :: covered)) (updates : Nat) :
    Arena.uncover (.record column) ((layout.web start (column :: covered)).arena updates) =
      .ok () ((layout.web start covered).arena updates) :=
  trail.areHeaders.uncover proper built updates

/-! ## Rows -/

section

variable {node : Nat} (isNode : node ∈ layout.nodes)
  (trail : layout.IsTrail (layout.withRow covered node))
include isNode trail

omit proper built isNode in
/-- The trail on the way along a row whose own column is covered. -/
theorem isTrail_partOfRow {done : List Nat} (part : done <+: layout.others node) :
    layout.IsTrail ((done.map layout.column).reverse ++ layout.column node :: covered) := by
  refine trail.of_suffix ?_
  obtain ⟨rest, split⟩ := part
  exact ⟨(rest.map layout.column).reverse, by simp [withRow_eq, ← split]⟩

/-- On the way along a row its ring stays as it is. -/
theorem partOfRow_ring {done : List Nat} (part : done <+: layout.others node) :
    (layout.web start
      ((done.map layout.column).reverse ++ layout.column node :: covered)).across.Ring
        (node :: layout.others node) :=
  (shows_web proper built (isTrail_partOfRow trail part)).row_ring isNode

omit trail in
/-- A record leads to its column. -/
theorem read_web (trail : layout.IsTrail covered) (updates : Nat) :
    Arena.read (.record node) ((layout.web start covered).arena updates) =
        .ok ((layout.web start covered).node node) ((layout.web start covered).arena updates) ∧
      ((layout.web start covered).node node).column = .record (layout.column node) := by
  have shown := shows_web proper built trail
  refine ⟨(layout.web start covered).read_arena (shown.sound.node_lt isNode), ?_⟩
  exact congrArg Link.record (shown.homes _ (shown.sound.attached_column proper isNode))

/-- **Covering the other columns of a row.** -/
theorem coverRow_web (updates : Nat) :
    Arena.coverRow (.record node)
        ((layout.web start (layout.column node :: covered)).arena updates) =
      .ok () ((layout.web start (layout.withRow covered node)).arena
        (updates + layout.spent (layout.column node :: covered)
          ((layout.others node).map layout.column).reverse)) := by
  rw [withRow_eq]
  refine Web.walk_ring Web.across Web.reads_right
    (fun done => layout.web start
      ((done.map layout.column).reverse ++ layout.column node :: covered))
    (fun done => updates + layout.spent (layout.column node :: covered)
      (done.map layout.column).reverse)
    (fun _ => count_web _) (fun _ part => partOfRow_ring proper built isNode trail part)
    (built.sound.around_nodup isNode) (fun _ inside => built.row_lt_count isNode inside) ?_
  intro done current rest split
  have isCurrent : current ∈ layout.nodes :=
    built.sound.node_of_mem_others isNode (by simp [split])
  have turned : ((done ++ [current]).map layout.column).reverse =
      layout.column current :: (done.map layout.column).reverse := by simp
  have further := isTrail_partOfRow trail (⟨rest, by simp [split]⟩ : done ++ [current] <+: _)
  rw [turned, List.cons_append] at further
  obtain ⟨read, home⟩ := read_web proper built isCurrent (isTrail_cons.1 further).2.2
    (updates + layout.spent (layout.column node :: covered) (done.map layout.column).reverse)
  rw [turned]
  refine (bind_of_ok read).trans ?_
  rw [home]
  refine (cover_web proper built further _).trans ?_
  simp only [List.cons_append, spent, Nat.add_assoc]

/-- **Uncovering them again.** -/
theorem uncoverRow_web (updates : Nat) :
    Arena.uncoverRow (.record node)
        ((layout.web start (layout.withRow covered node)).arena updates) =
      .ok () ((layout.web start (layout.column node :: covered)).arena updates) := by
  rw [withRow_eq]
  refine Web.walk_ring_back Web.across Web.reads_left
    (fun done => layout.web start
      ((done.map layout.column).reverse ++ layout.column node :: covered))
    (fun _ => count_web _) (fun _ part => partOfRow_ring proper built isNode trail part)
    (built.sound.around_nodup isNode) (fun _ inside => built.row_lt_count isNode inside) ?_
  intro done current rest split
  have isCurrent : current ∈ layout.nodes :=
    built.sound.node_of_mem_others isNode (by simp [split])
  have turned : ((done ++ [current]).map layout.column).reverse =
      layout.column current :: (done.map layout.column).reverse := by simp
  have further := isTrail_partOfRow trail (⟨rest, by simp [split]⟩ : done ++ [current] <+: _)
  rw [turned, List.cons_append] at further
  obtain ⟨read, home⟩ := read_web proper built isCurrent further updates
  rw [turned]
  refine (bind_of_ok read).trans ?_
  rw [home]
  exact uncover_web proper built further updates

end

end

end Layout

end ExactCover
