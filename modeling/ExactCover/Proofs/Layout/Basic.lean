import Mathlib.Data.List.Perm.Basic
import Mathlib.Data.List.Lattice
import Mathlib.Data.List.Nodup
import Mathlib.Data.List.Pairwise

/-!
# Layouts

A layout tells as plain lists what was built in an arena: the columns on the ring of the root in
their order, the other rings of columns, the rows, and which record was put into which column, in
the order in which that was done. A record is given by its number, and the root has the number 0.

Everything that the search does depends on the layout and on the columns covered so far. A row is
met once a column of it is covered. Its records then leave their columns, except for the record in
the column that met the row first: that one stays where it is. `linked` says which records stand in
their columns, `live` which of a column do.

Main statements: `mem_live` (the records of an uncovered column are those of the rows that are not
met) and `linked_cons` (what one more covered column takes away).
-/

set_option autoImplicit false

namespace ExactCover

/-- What was built apart from the rows, as plain lists. -/
structure Frame where
  /-- The columns on the ring of the root, in their order behind the root. -/
  primary : List Nat
  /-- The other rings of columns. -/
  secondary : List (List Nat)
  /-- Records with their columns, in the order in which they were put there. -/
  attached : List (Nat × Nat)

/-- What was built, as plain lists. -/
structure Layout extends Frame where
  /-- The records of each row in the order of its ring. -/
  rows : List (List Nat)

namespace Frame

/-- The rings of columns, that of the root first. -/
def headerRings (frame : Frame) : List (List Nat) := (0 :: frame.primary) :: frame.secondary

def columns (frame : Frame) : List Nat := frame.primary ++ frame.secondary.flatten

/-- The column that a record stands in. -/
def column (frame : Frame) (node : Nat) : Nat := (frame.attached.lookup node).getD 0

/-- The records of a column from top to bottom. -/
def members (frame : Frame) (column : Nat) : List Nat :=
  (frame.attached.filter (·.2 == column)).map Prod.fst

theorem mem_members {frame : Frame} {node column : Nat} :
    node ∈ frame.members column ↔ (node, column) ∈ frame.attached := by
  simp [members]

end Frame

namespace Layout

variable {layout : Layout} {count : Nat}

/-- The records that are no columns. -/
def nodes (layout : Layout) : List Nat := layout.rows.flatten

/-- The row of a record. -/
def rowOf (layout : Layout) (node : Nat) : List Nat :=
  (layout.rows.find? (node ∈ ·)).getD []

/-- The other records of a row, from the right side of a record on. -/
def others (layout : Layout) (node : Nat) : List Nat :=
  ((layout.rowOf node).dropWhile (· ≠ node)).tail ++ (layout.rowOf node).takeWhile (· ≠ node)

/-- The columns of a row, from the column of a record on. -/
def columnsOf (layout : Layout) (node : Nat) : List Nat :=
  (node :: layout.others node).map layout.column

/-- A layout of so many records: all of them are numbered, and stand on one ring each and in at most
one column. -/
structure Sound (layout : Layout) (count : Nat) : Prop where
  numbered : (layout.headerRings.flatten ++ layout.nodes).Perm (List.range count)
  rowsInhabited : [] ∉ layout.rows
  attachedOnce : (layout.attached.map Prod.fst).Nodup
  attachedInside : ∀ place ∈ layout.attached, place.1 ∈ layout.nodes ∧ place.2 ∈ layout.columns

/-- A layout that is ready for a search: every record stands in a column, and the records of a row
stand in different columns. -/
structure Proper (layout : Layout) : Prop where
  attached : ∀ node ∈ layout.nodes, node ∈ layout.attached.map Prod.fst
  apart : ∀ row ∈ layout.rows, (row.map layout.column).Nodup

/-- A key that occurs once is found with its value. -/
theorem lookup_of_mem {pairs : List (Nat × Nat)} (once : (pairs.map Prod.fst).Nodup)
    {key value : Nat} (inside : (key, value) ∈ pairs) : pairs.lookup key = some value := by
  induction pairs with
  | nil => simp at inside
  | cons pair rest ih =>
      obtain ⟨first, second⟩ := pair
      rw [List.map_cons, List.nodup_cons] at once
      rcases List.mem_cons.1 inside with here | later
      · obtain ⟨rfl, rfl⟩ := Prod.mk.inj here
        simp
      · have different : (key == first) = false := by
          rw [beq_eq_false_iff_ne]
          exact fun same => once.1 (List.mem_map.2 ⟨(key, value), later, same⟩)
        rw [List.lookup_cons, different]
        exact ih once.2 later

/-- If nothing occurs twice in lists put together, two of them with a common member are one. -/
theorem unique_of_nodup_flatten {lists : List (List Nat)} (once : lists.flatten.Nodup)
    {one other : List Nat} (isOne : one ∈ lists) (isOther : other ∈ lists) {member : Nat}
    (inOne : member ∈ one) (inOther : member ∈ other) : one = other := by
  have apart := (List.nodup_flatten.1 once).2
  have : Std.Symm (List.Disjoint : List Nat → List Nat → Prop) :=
    ⟨fun _ _ disjoint => disjoint.symm⟩
  by_contra different
  exact apart.forall isOne isOther different inOne inOther

/-! ## Numbers -/

theorem mem_nodes {node : Nat} : node ∈ layout.nodes ↔ ∃ row ∈ layout.rows, node ∈ row :=
  List.mem_flatten

theorem mem_headerRings_flatten {header : Nat} :
    header ∈ layout.headerRings.flatten ↔ header = 0 ∨ header ∈ layout.columns := by
  simp [Frame.headerRings, Frame.columns]

namespace Sound

variable (sound : layout.Sound count)
include sound

theorem lt_count_iff {place : Nat} :
    place < count ↔ place ∈ layout.headerRings.flatten ∨ place ∈ layout.nodes := by
  rw [← List.mem_append, sound.numbered.mem_iff, List.mem_range]

theorem nodup : (layout.headerRings.flatten ++ layout.nodes).Nodup :=
  sound.numbered.nodup_iff.2 List.nodup_range

theorem headers_nodup : layout.headerRings.flatten.Nodup := (List.nodup_append.1 sound.nodup).1

theorem nodes_nodup : layout.nodes.Nodup := (List.nodup_append.1 sound.nodup).2.1

theorem columns_nodup : (0 :: layout.columns).Nodup := by
  simpa [Frame.headerRings, Frame.columns] using sound.headers_nodup

theorem header_not_node {header : Nat} (isHeader : header ∈ layout.headerRings.flatten) :
    header ∉ layout.nodes := fun isNode =>
  (List.nodup_append.1 sound.nodup).2.2 _ isHeader _ isNode rfl

theorem column_ne_root {column : Nat} (isColumn : column ∈ layout.columns) : column ≠ 0 := by
  rintro rfl
  exact (List.nodup_cons.1 sound.columns_nodup).1 isColumn

theorem header_lt {header : Nat} (isHeader : header ∈ layout.headerRings.flatten) :
    header < count := sound.lt_count_iff.2 (.inl isHeader)

theorem column_lt {column : Nat} (isColumn : column ∈ layout.columns) : column < count :=
  sound.header_lt (mem_headerRings_flatten.2 (.inr isColumn))

theorem node_lt {node : Nat} (isNode : node ∈ layout.nodes) : node < count :=
  sound.lt_count_iff.2 (.inr isNode)

theorem root_lt : 0 < count :=
  sound.lt_count_iff.2 (.inl (mem_headerRings_flatten.2 (.inl rfl)))

theorem ring_nodup {ring : List Nat} (isRing : ring ∈ layout.headerRings) : ring.Nodup :=
  (List.nodup_flatten.1 sound.headers_nodup).1 ring isRing

theorem row_nodup {row : List Nat} (isRow : row ∈ layout.rows) : row.Nodup :=
  (List.nodup_flatten.1 sound.nodes_nodup).1 row isRow

/-! ## Rows -/

/-- Two rows with a common record are one. -/
theorem row_unique {one other : List Nat} (isOne : one ∈ layout.rows) (isOther : other ∈ layout.rows)
    {node : Nat} (inOne : node ∈ one) (inOther : node ∈ other) : one = other :=
  unique_of_nodup_flatten sound.nodes_nodup isOne isOther inOne inOther

/-- Two rings of columns with a common column are one. -/
theorem ring_unique {one other : List Nat} (isOne : one ∈ layout.headerRings)
    (isOther : other ∈ layout.headerRings) {header : Nat} (inOne : header ∈ one)
    (inOther : header ∈ other) : one = other :=
  unique_of_nodup_flatten sound.headers_nodup isOne isOther inOne inOther

theorem rowOf_eq {row : List Nat} (isRow : row ∈ layout.rows) {node : Nat} (inside : node ∈ row) :
    layout.rowOf node = row := by
  unfold rowOf
  cases found : layout.rows.find? (node ∈ ·) with
  | none => simpa [inside] using List.find?_eq_none.1 found row isRow
  | some other =>
      have isOther := List.mem_of_find?_eq_some found
      have inOther := List.find?_some found
      exact sound.row_unique isOther isRow (by simpa using inOther) inside

theorem rowOf_mem {node : Nat} (isNode : node ∈ layout.nodes) : layout.rowOf node ∈ layout.rows := by
  obtain ⟨row, isRow, inside⟩ := mem_nodes.1 isNode
  rwa [sound.rowOf_eq isRow inside]

theorem mem_rowOf {node : Nat} (isNode : node ∈ layout.nodes) : node ∈ layout.rowOf node := by
  obtain ⟨row, isRow, inside⟩ := mem_nodes.1 isNode
  rwa [sound.rowOf_eq isRow inside]

end Sound

/-- Going round a row from one of its records. -/
theorem others_eq {node : Nat} {front back : List Nat}
    (row : layout.rowOf node = front ++ node :: back) (once : (front ++ node :: back).Nodup) :
    layout.others node = back ++ front := by
  have absent : ∀ member ∈ front, (decide (member ≠ node)) = true := by
    intro member early
    have := (List.nodup_append.1 once).2.2 member early node (by simp)
    simpa using this
  rw [others, row, List.dropWhile_append_of_pos absent, List.takeWhile_append_of_pos absent]
  simp

namespace Sound

variable (sound : layout.Sound count)
include sound

/-- A row is cut where a record stands. -/
theorem exists_split {node : Nat} (isNode : node ∈ layout.nodes) :
    ∃ front back, layout.rowOf node = front ++ node :: back ∧
      layout.others node = back ++ front := by
  obtain ⟨front, back, split⟩ := List.append_of_mem (sound.mem_rowOf isNode)
  have once := sound.row_nodup (sound.rowOf_mem isNode)
  exact ⟨front, back, split, others_eq split (split ▸ once)⟩

theorem around_perm {node : Nat} (isNode : node ∈ layout.nodes) :
    (node :: layout.others node).Perm (layout.rowOf node) := by
  obtain ⟨front, back, split, turned⟩ := sound.exists_split isNode
  rw [split, turned]
  exact (@List.perm_append_comm _ front (node :: back)).symm

theorem around_nodup {node : Nat} (isNode : node ∈ layout.nodes) :
    (node :: layout.others node).Nodup :=
  (sound.around_perm isNode).nodup_iff.2 (sound.row_nodup (sound.rowOf_mem isNode))

theorem mem_others {node other : Nat} (isNode : node ∈ layout.nodes) :
    other ∈ layout.others node ↔ other ∈ layout.rowOf node ∧ other ≠ node := by
  rw [← (sound.around_perm isNode).mem_iff, List.mem_cons]
  have absent := (List.nodup_cons.1 (sound.around_nodup isNode)).1
  constructor
  · intro inside
    exact ⟨.inr inside, fun same => absent (same ▸ inside)⟩
  · rintro ⟨same | inside, different⟩
    · exact absurd same different
    · exact inside

theorem node_of_mem_rowOf {node other : Nat} (isNode : node ∈ layout.nodes)
    (inside : other ∈ layout.rowOf node) : other ∈ layout.nodes :=
  mem_nodes.2 ⟨_, sound.rowOf_mem isNode, inside⟩

theorem rowOf_eq_of_mem {node other : Nat} (isNode : node ∈ layout.nodes)
    (inside : other ∈ layout.rowOf node) : layout.rowOf other = layout.rowOf node :=
  sound.rowOf_eq (sound.rowOf_mem isNode) inside

theorem node_of_mem_others {node other : Nat} (isNode : node ∈ layout.nodes)
    (inside : other ∈ layout.others node) : other ∈ layout.nodes :=
  sound.node_of_mem_rowOf isNode ((sound.mem_others isNode).1 inside).1

/-- The columns of a row, in whatever order. -/
theorem mem_columnsOf {node column : Nat} (isNode : node ∈ layout.nodes) :
    column ∈ layout.columnsOf node ↔ ∃ member ∈ layout.rowOf node, layout.column member = column := by
  rw [columnsOf, ((sound.around_perm isNode).map layout.column).mem_iff, List.mem_map]

/-- The records of one row meet the same columns. -/
theorem mem_columnsOf_congr {node other column : Nat} (isNode : node ∈ layout.nodes)
    (inside : other ∈ layout.rowOf node) :
    column ∈ layout.columnsOf other ↔ column ∈ layout.columnsOf node := by
  rw [sound.mem_columnsOf isNode, sound.mem_columnsOf (sound.node_of_mem_rowOf isNode inside),
    sound.rowOf_eq_of_mem isNode inside]

/-! ## Columns -/

theorem column_eq {node column : Nat} (isAttached : (node, column) ∈ layout.attached) :
    layout.column node = column := by
  rw [Frame.column, lookup_of_mem sound.attachedOnce isAttached, Option.getD_some]

theorem members_nodup (column : Nat) : (layout.members column).Nodup :=
  (List.filter_sublist.map Prod.fst).nodup sound.attachedOnce

theorem node_of_mem_members {node column : Nat} (inside : node ∈ layout.members column) :
    node ∈ layout.nodes ∧ layout.column node = column :=
  ⟨(sound.attachedInside _ (Frame.mem_members.1 inside)).1,
    sound.column_eq (Frame.mem_members.1 inside)⟩

variable (proper : layout.Proper)
include proper

theorem attached_column {node : Nat} (isNode : node ∈ layout.nodes) :
    (node, layout.column node) ∈ layout.attached := by
  obtain ⟨⟨first, home⟩, isAttached, rfl⟩ := List.mem_map.1 (proper.attached node isNode)
  rwa [sound.column_eq isAttached]

theorem column_mem {node : Nat} (isNode : node ∈ layout.nodes) :
    layout.column node ∈ layout.columns :=
  (sound.attachedInside _ (sound.attached_column proper isNode)).2

theorem header_mem {node : Nat} (isNode : node ∈ layout.nodes) :
    layout.column node ∈ layout.headerRings.flatten :=
  mem_headerRings_flatten.2 (.inr (sound.column_mem proper isNode))

/-- A column holds the records that stand in it. -/
theorem mem_members_iff {node column : Nat} :
    node ∈ layout.members column ↔ node ∈ layout.nodes ∧ layout.column node = column := by
  refine ⟨fun inside => sound.node_of_mem_members inside, ?_⟩
  rintro ⟨isNode, rfl⟩
  exact Frame.mem_members.2 (sound.attached_column proper isNode)

theorem columnsOf_nodup {node : Nat} (isNode : node ∈ layout.nodes) :
    (layout.columnsOf node).Nodup :=
  ((sound.around_perm isNode).map layout.column).nodup_iff.2
    (proper.apart _ (sound.rowOf_mem isNode))

theorem mem_columns_of_columnsOf {node column : Nat} (isNode : node ∈ layout.nodes)
    (inside : column ∈ layout.columnsOf node) : column ∈ layout.columns := by
  obtain ⟨member, inRow, rfl⟩ := (sound.mem_columnsOf isNode).1 inside
  exact sound.column_mem proper (sound.node_of_mem_rowOf isNode inRow)

/-- A row has one record in each of its columns. -/
theorem column_injective {node other : Nat} (isNode : node ∈ layout.nodes)
    (inside : other ∈ layout.rowOf node) (same : layout.column other = layout.column node) :
    other = node := by
  by_contra different
  have other' := (sound.mem_others isNode).2 ⟨inside, different⟩
  have once := sound.columnsOf_nodup proper isNode
  rw [columnsOf, List.map_cons, List.nodup_cons] at once
  exact once.1 (List.mem_map.2 ⟨other, other', same⟩)

end Sound

/-! ## What covering takes away -/

/-- Whether one of the covered columns meets the row of a record. -/
def meets (layout : Layout) (covered : List Nat) (node : Nat) : Bool :=
  covered.any (· ∈ layout.columnsOf node)

/-- Whether a record stands in its column when columns are covered, the latest first. A covered
column takes out the records of the rows that it is the first to meet, but not its own. -/
def linked (layout : Layout) : List Nat → Nat → Bool
  | [], _ => true
  | last :: earlier, node =>
      layout.linked earlier node &&
        (layout.meets earlier node || last == layout.column node ||
          !decide (last ∈ layout.columnsOf node))

/-- The records that stand in a column, from top to bottom. -/
def live (layout : Layout) (covered : List Nat) (column : Nat) : List Nat :=
  (layout.members column).filter (layout.linked covered)

/-- The columns that are left on the ring of the root. -/
def active (layout : Layout) (covered : List Nat) : List Nat :=
  layout.primary.filter (· ∉ covered)

theorem meets_eq_true {covered : List Nat} {node : Nat} :
    layout.meets covered node = true ↔ ∃ column ∈ covered, column ∈ layout.columnsOf node := by
  simp [meets]

theorem meets_eq_false {covered : List Nat} {node : Nat} :
    layout.meets covered node = false ↔ ∀ column ∈ covered, column ∉ layout.columnsOf node := by
  simp [meets]

/-- A row that is not met has all its records in their columns. -/
theorem linked_of_not_meets {covered : List Nat} {node : Nat}
    (free : layout.meets covered node = false) : layout.linked covered node = true := by
  induction covered with
  | nil => rfl
  | cons last earlier ih =>
      rw [meets_eq_false] at free
      have apart : last ∉ layout.columnsOf node := free last (by simp)
      have before : layout.meets earlier node = false :=
        meets_eq_false.2 fun column inside => free column (by simp [inside])
      simp [linked, ih before, apart]

/-- In an uncovered column stand the records of the rows that are not met. -/
theorem linked_iff_of_not_mem {covered : List Nat} {node : Nat}
    (uncovered : layout.column node ∉ covered) :
    layout.linked covered node = true ↔ layout.meets covered node = false := by
  refine ⟨?_, linked_of_not_meets⟩
  induction covered with
  | nil => simp [meets]
  | cons last earlier ih =>
      simp only [List.mem_cons, not_or] at uncovered
      intro stands
      simp only [linked, Bool.and_eq_true, Bool.or_eq_true, beq_iff_eq, Bool.not_eq_true',
        decide_eq_false_iff_not] at stands
      have before := ih uncovered.2 stands.1
      rcases stands.2 with (met | own) | apart
      · rw [before] at met
        cases met
      · exact absurd own.symm uncovered.1
      · rw [meets_eq_false] at before ⊢
        intro column inside
        rcases List.mem_cons.1 inside with rfl | inside
        · exact apart
        · exact before column inside

/-- The records that covering a column takes out, in this order. -/
def struck (layout : Layout) (covered : List Nat) (column : Nat) : List Nat :=
  (layout.live covered column).flatMap layout.others

namespace Sound

variable (sound : layout.Sound count)
include sound

theorem node_of_mem_live {covered : List Nat} {node column : Nat}
    (inside : node ∈ layout.live covered column) :
    node ∈ layout.nodes ∧ layout.column node = column :=
  sound.node_of_mem_members (List.mem_of_mem_filter inside)

/-- The row of a record meets the column that the record stands in. -/
theorem mem_columnsOf_of_live {covered : List Nat} {node column : Nat}
    (inside : node ∈ layout.live covered column) : column ∈ layout.columnsOf node := by
  rw [← (sound.node_of_mem_live inside).2, columnsOf, List.map_cons]
  exact List.mem_cons_self

theorem live_nodup (covered : List Nat) (column : Nat) : (layout.live covered column).Nodup :=
  (sound.members_nodup column).filter _

/-- The records of one row are met together. -/
theorem meets_congr {covered : List Nat} {node other : Nat} (isNode : node ∈ layout.nodes)
    (inside : other ∈ layout.rowOf node) :
    layout.meets covered other = layout.meets covered node := by
  rw [Bool.eq_iff_iff, meets_eq_true, meets_eq_true]
  simp only [sound.mem_columnsOf_congr isNode inside]

variable (proper : layout.Proper)
include proper

/-- **An uncovered column holds the records of the rows that are not met.** -/
theorem mem_live {covered : List Nat} {node column : Nat} (uncovered : column ∉ covered) :
    node ∈ layout.live covered column ↔
      node ∈ layout.nodes ∧ layout.column node = column ∧ layout.meets covered node = false := by
  rw [live, List.mem_filter, sound.mem_members_iff proper, and_assoc]
  refine and_congr_right fun _ => and_congr_right ?_
  intro home
  exact linked_iff_of_not_mem (home ▸ uncovered)

/-- Covering a column takes out the records of the rows that it is the first to meet, except for its
own. -/
theorem mem_struck {covered : List Nat} {node column : Nat} (uncovered : column ∉ covered) :
    node ∈ layout.struck covered column ↔ node ∈ layout.nodes ∧
      layout.meets covered node = false ∧ column ∈ layout.columnsOf node ∧
        layout.column node ≠ column := by
  rw [struck, List.mem_flatMap]
  constructor
  · rintro ⟨own, isLive, inside⟩
    obtain ⟨isOwn, home, free⟩ := (sound.mem_live proper uncovered).1 isLive
    obtain ⟨inRow, different⟩ := (sound.mem_others isOwn).1 inside
    refine ⟨sound.node_of_mem_rowOf isOwn inRow, ?_, ?_, ?_⟩
    · rw [sound.meets_congr isOwn inRow, free]
    · rw [sound.mem_columnsOf_congr isOwn inRow]
      simp [columnsOf, home]
    · exact fun same => different (sound.column_injective proper isOwn inRow (same.trans home.symm))
  · rintro ⟨isNode, free, inColumns, different⟩
    obtain ⟨own, inRow, home⟩ := (sound.mem_columnsOf isNode).1 inColumns
    have isOwn := sound.node_of_mem_rowOf isNode inRow
    have sameRow := sound.rowOf_eq_of_mem isNode inRow
    refine ⟨own, (sound.mem_live proper uncovered).2 ⟨isOwn, home, ?_⟩, ?_⟩
    · rw [sound.meets_congr isNode inRow, free]
    · rw [sound.mem_others isOwn, sameRow]
      exact ⟨sound.mem_rowOf isNode, fun same => different (same ▸ home)⟩

/-- Covering a column takes out every record once. -/
theorem struck_nodup (covered : List Nat) (column : Nat) :
    (layout.struck covered column).Nodup := by
  refine List.nodup_flatMap.2 ⟨fun own inside => ?_, ?_⟩
  · exact (List.nodup_cons.1 (sound.around_nodup (sound.node_of_mem_live inside).1)).2
  · refine (sound.live_nodup covered column).pairwise_of_forall_ne
      fun one isOne other isOther different node inOne inOther => different ?_
    obtain ⟨isOne, homeOne⟩ := sound.node_of_mem_live isOne
    obtain ⟨isOther, homeOther⟩ := sound.node_of_mem_live isOther
    have rowOne := ((sound.mem_others isOne).1 inOne).1
    have rowOther := ((sound.mem_others isOther).1 inOther).1
    have sameRow : layout.rowOf one = layout.rowOf other :=
      (sound.rowOf_eq_of_mem isOne rowOne).symm.trans (sound.rowOf_eq_of_mem isOther rowOther)
    refine sound.column_injective proper isOther ?_ (homeOne.trans homeOther.symm)
    exact sameRow ▸ sound.mem_rowOf isOne

/-- **What one more covered column takes away.** -/
theorem linked_cons {covered : List Nat} {node column : Nat} (uncovered : column ∉ covered)
    (isNode : node ∈ layout.nodes) :
    layout.linked (column :: covered) node =
      (layout.linked covered node && !decide (node ∈ layout.struck covered column)) := by
  rw [linked]
  congr 1
  rw [Bool.eq_iff_iff]
  simp only [sound.mem_struck proper uncovered, isNode, true_and, Bool.or_eq_true, beq_iff_eq,
    Bool.not_eq_true', decide_eq_false_iff_not, eq_comm (a := column)]
  cases layout.meets covered node with
  | true => simp
  | false =>
      simp only [Bool.false_eq_true, false_or, true_and, not_and, not_not]
      tauto

/-- The records of a column stay where they are when the column is covered. -/
theorem live_cons_self {covered : List Nat} {column : Nat} (uncovered : column ∉ covered) :
    layout.live (column :: covered) column = layout.live covered column := by
  apply List.filter_congr
  intro node inside
  obtain ⟨isNode, home⟩ := sound.node_of_mem_members inside
  rw [sound.linked_cons proper uncovered isNode]
  simp [sound.mem_struck proper uncovered, home]

end Sound

end Layout

end ExactCover
