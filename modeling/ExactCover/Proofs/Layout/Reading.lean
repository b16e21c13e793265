import Mathlib.Data.List.MinMax
import ExactCover.Proofs.Layout.Trail

/-!
# What a search sees

A search looks at an arena in few ways: at the record below another one, at whether a record is a
column, at whether a column is left on the ring of the root, and at the sizes of the columns that are
left. In the web of a trail all of these are read off the layout. So are rows and the names of columns,
which are the same at every trail: the ring of a row is never taken apart, its records stay with their
columns, and no column changes its name.

Main statements: `chosenColumn_web` (the search takes the first column that is left, or the first one
with the fewest records) and `down_header_web`, `down_node_web` (what is below a column and below one
of its records).
-/

set_option autoImplicit false

namespace ExactCover

namespace Web

variable (web : Web) {layout : Layout}

@[simp] theorem name?_dropAll (nodes : List Nat) : (web.dropAll layout nodes).name? = web.name? := by
  induction nodes generalizing web with
  | nil => rfl
  | cons node nodes ih => exact ih _

/-- The name of a column, or null for any other record. -/
def nameOf (place : Nat) : Value := (web.name? place).getD .null

/-! ## Rows and names -/

namespace Holds

variable {web : Web} {covered : List Nat} {stands : Nat → Bool} (holds : web.Holds layout covered stands)
include holds

/-- The records of a row, from one of them on. -/
theorem row_arena {node : Nat} (isNode : node ∈ layout.nodes) (updates : Nat) :
    (web.arena updates).row (.record node) =
      .ok ((node :: layout.others node).map fun member : Nat => Link.record member) := by
  have ring : (web.arena updates).ring Node.right (.record node) = _ :=
    ring_arena Web.across reads_right (holds.row_ring isNode) (holds.sound.around_nodup isNode)
      fun member inside => holds.row_lt_count isNode inside
  simp only [Arena.row, ring, bind, Except.bind, pure, Except.pure]
  rfl

variable (proper : layout.Proper)
include proper

/-- The column of a record. -/
theorem columnOf_arena {node : Nat} (isNode : node ∈ layout.nodes) (updates : Nat) :
    (web.arena updates).columnOf (.record node) = .ok (.record (layout.column node)) := by
  have isRecord := holds.sound.node_lt isNode
  have home := holds.homes _ (holds.sound.attached_column proper isNode)
  simp only [Arena.columnOf, web.record_arena isRecord, bind, Except.bind]
  exact congrArg (fun link : Int => Except.ok (Link.record link)) home

/-- The name of the column of a record. -/
theorem columnName_arena {node : Nat} (isNode : node ∈ layout.nodes) (updates : Nat) :
    (web.arena updates).columnName (.record (layout.column node)) =
      .ok (web.nameOf (layout.column node)) := by
  have isHeader := holds.sound.header_mem proper isNode
  obtain ⟨name, isName⟩ := Option.isSome_iff_exists.1 (holds.header_named isHeader)
  simp only [Arena.columnName, web.record_arena (holds.sound.header_lt isHeader), bind, Except.bind,
    Web.node, isName, Option.map_some, Web.nameOf, Option.getD_some]

/-- The names of the columns of a row, from the column of a record on. -/
theorem rowNames_arena {node : Nat} (isNode : node ∈ layout.nodes) (updates : Nat) :
    (web.arena updates).rowNames (.record node) =
      .ok ((layout.columnsOf node).map web.nameOf) := by
  have names : ((node :: layout.others node).map fun member : Nat => Link.record member).mapM
      (fun member => do
        (web.arena updates).columnName (← (web.arena updates).columnOf member)) =
      .ok ((node :: layout.others node).map fun member => web.nameOf (layout.column member)) := by
    rw [List.mapM_map]
    apply mapM_of_ok
    intro member inside
    have isMember : member ∈ layout.nodes := by
      rcases List.mem_cons.1 inside with rfl | isOther
      · exact isNode
      · exact holds.sound.node_of_mem_others isNode isOther
    simp only [Function.comp_apply, holds.columnOf_arena proper isMember, bind, Except.bind]
    exact holds.columnName_arena proper isMember updates
  simp only [Arena.rowNames, holds.row_arena isNode, bind, Except.bind] at names ⊢
  rw [names, Layout.columnsOf, List.map_map]
  rfl

end Holds

end Web

namespace Layout

variable {layout : Layout} {start : Web} {covered : List Nat}

/-- The column that a search takes: the first one that is left, or the first one with the fewest
records. -/
def chosen (layout : Layout) (covered : List Nat) : Policy → Option Nat
  | .first => (layout.active covered).head?
  | .smallest => (layout.active covered).argmin fun column => (layout.live covered column).length

theorem mem_active {column : Nat} :
    column ∈ layout.active covered ↔ column ∈ layout.primary ∧ column ∉ covered := by
  simp [active]

@[simp] theorem active_nil : layout.active [] = layout.primary :=
  List.filter_eq_self.2 fun _ _ => by simp

/-- No column is left if all primary columns are covered. -/
theorem active_eq_nil :
    layout.active covered = [] ↔ ∀ column ∈ layout.primary, column ∈ covered := by
  simp [active]

theorem active_withRow (node : Nat) :
    layout.active (layout.withRow covered node) =
      (layout.active covered).filter (· ∉ layout.columnsOf node) := by
  rw [active, active, List.filter_filter]
  apply List.filter_congr
  intro column _
  simp only [mem_withRow, not_or, Bool.decide_and]

/-- What is left gets shorter with every row. -/
theorem length_active_withRow_lt {count node column : Nat} (sound : layout.Sound count)
    (isActive : column ∈ layout.active covered) (inside : node ∈ layout.live covered column) :
    (layout.active (layout.withRow covered node)).length < (layout.active covered).length := by
  have own := sound.mem_columnsOf_of_live inside
  rw [active_withRow]
  exact List.length_filter_lt_length_iff_exists.2 ⟨column, isActive, by simpa using own⟩

/-- A column holds fewer records than there are. -/
theorem length_live_le {count : Nat} (sound : layout.Sound count) (covered : List Nat)
    (column : Nat) : (layout.live covered column).length ≤ count :=
  length_le_of_nodup_of_lt (sound.live_nodup covered column) fun _ inside =>
    sound.node_lt (sound.node_of_mem_live inside).1

/-- The columns that are left are no more than there are records. -/
theorem length_active_le {count : Nat} (sound : layout.Sound count) (covered : List Nat) :
    (layout.active covered).length ≤ count := by
  have once : (layout.active covered).Nodup :=
    (sound.columns_nodup.of_cons.sublist (List.sublist_append_left _ _)).filter _
  exact length_le_of_nodup_of_lt once fun _ inside =>
    sound.column_lt (List.mem_append_left _ (mem_active.1 inside).1)

/-- Columns that were small are still small. -/
theorem live_small
    (small : ∀ column ∈ layout.primary, ((layout.members column).length : Int) < Arena.sizeBound) :
    ∀ column ∈ layout.active covered,
      ((layout.live covered column).length : Int) < Arena.sizeBound := by
  intro column inActive
  have fewer : (layout.live covered column).length ≤ (layout.members column).length :=
    List.length_filter_le _ _
  have := small column (mem_active.1 inActive).1
  omega

theorem column_of_mem_active {column : Nat} (inside : column ∈ layout.active covered) :
    column ∈ layout.columns :=
  List.mem_append_left _ (mem_active.1 inside).1

theorem mem_active_of_chosen {policy : Policy} {column : Nat}
    (isChosen : layout.chosen covered policy = some column) : column ∈ layout.active covered := by
  cases policy with
  | first => exact List.mem_of_mem_head? isChosen
  | smallest => exact List.argmin_mem isChosen

theorem chosen_eq_none {policy : Policy} :
    layout.chosen covered policy = none ↔ layout.active covered = [] := by
  cases policy with
  | first => exact List.head?_eq_none_iff
  | smallest => exact List.argmin_eq_none

/-- No column changes its name. -/
@[simp] theorem name?_web (covered : List Nat) :
    (layout.web start covered).name? = start.name? := by
  induction covered with
  | nil => rfl
  | cons last earlier ih =>
      rw [web, Web.cover, Web.name?_dropAll, ← ih]
      rfl

theorem nameOf_web (covered : List Nat) : (layout.web start covered).nameOf = start.nameOf := by
  funext place
  rw [Web.nameOf, Web.nameOf, name?_web]

section

variable (proper : layout.Proper) (built : start.Shows layout []) (trail : layout.IsTrail covered)
include proper built trail

/-- A record that is no column is none. -/
theorem isHeader_web {place : Nat} (inside : place < start.count) (updates : Nat) :
    ((layout.web start covered).arena updates).isHeader (.record place) =
      .ok (decide (place ∈ layout.headerRings.flatten)) := by
  have shown := shows_web proper built trail
  have within : place < (layout.web start covered).count := by rwa [count_web]
  have named := shown.names place within
  simp only [Arena.isHeader, (layout.web start covered).record_arena within, bind, Except.bind,
    pure, Except.pure, Web.node, Option.isSome_map]
  congr 1
  rw [Bool.eq_iff_iff, named, decide_eq_true_iff]

/-- The column of a record. -/
theorem columnOf_web {node : Nat} (isNode : node ∈ layout.nodes) (updates : Nat) :
    ((layout.web start covered).arena updates).columnOf (.record node) =
      .ok (.record (layout.column node)) :=
  (shows_web proper built trail).columnOf_arena proper isNode updates

/-- The name of the column of a record. -/
theorem columnName_web {node : Nat} (isNode : node ∈ layout.nodes) (updates : Nat) :
    ((layout.web start covered).arena updates).columnName (.record (layout.column node)) =
      .ok (start.nameOf (layout.column node)) := by
  rw [← nameOf_web covered]
  exact (shows_web proper built trail).columnName_arena proper isNode updates

/-- The records of a row, from one of them on. -/
theorem row_web {node : Nat} (isNode : node ∈ layout.nodes) (updates : Nat) :
    ((layout.web start covered).arena updates).row (.record node) =
      .ok ((node :: layout.others node).map fun member : Nat => Link.record member) :=
  (shows_web proper built trail).row_arena isNode updates

/-- The names of the columns of a row, from the column of a record on. -/
theorem rowNames_web {node : Nat} (isNode : node ∈ layout.nodes) (updates : Nat) :
    ((layout.web start covered).arena updates).rowNames (.record node) =
      .ok ((layout.columnsOf node).map start.nameOf) := by
  rw [← nameOf_web covered]
  exact (shows_web proper built trail).rowNames_arena proper isNode updates

/-- What is below a column. -/
theorem down_header_web {column : Nat} (isColumn : column ∈ layout.columns) (updates : Nat) :
    Arena.read (.record column) ((layout.web start covered).arena updates) =
        .ok ((layout.web start covered).node column) ((layout.web start covered).arena updates) ∧
      ((layout.web start covered).node column).down =
        .record ((layout.live covered column).headD column) := by
  have shown := shows_web proper built trail
  have isHeader := mem_headerRings_flatten.2 (.inr isColumn)
  refine ⟨(layout.web start covered).read_arena (shown.sound.header_lt isHeader), ?_⟩
  rw [Web.reads_down, (shown.columns column isHeader).next_first]
  rfl

/-- What is below a record that stands in its column. -/
theorem down_node_web {column node : Nat} {done rest : List Nat} (isColumn : column ∈ layout.columns)
    (split : layout.live covered column = done ++ node :: rest) (updates : Nat) :
    Arena.read (.record node) ((layout.web start covered).arena updates) =
        .ok ((layout.web start covered).node node) ((layout.web start covered).arena updates) ∧
      ((layout.web start covered).node node).down = .record (rest.headD column) := by
  have shown := shows_web proper built trail
  have ring := shown.columns column (mem_headerRings_flatten.2 (.inr isColumn))
  change (layout.web start covered).along.Ring (column :: layout.live covered column) at ring
  have inLive : node ∈ layout.live covered column := by simp [split]
  have isNode := (shown.sound.node_of_mem_live inLive).1
  refine ⟨(layout.web start covered).read_arena (shown.sound.node_lt isNode), ?_⟩
  rw [split] at ring
  rw [Web.reads_down, ring.next_of_append]

/-- The records of a column, from top to bottom. -/
theorem column_web {column : Nat} (isColumn : column ∈ layout.columns) (updates : Nat) :
    ((layout.web start covered).arena updates).column (.record column) =
      .ok ((layout.live covered column).map fun node : Nat => Link.record node) := by
  have shown := shows_web proper built trail
  have isHeader := mem_headerRings_flatten.2 (.inr isColumn)
  exact Web.ring_arena Web.along Web.reads_down (shown.columns column isHeader)
    (shown.column_nodup isHeader) fun member inside => shown.column_lt_count isHeader inside

/-- From bottom to top they come in the opposite order. -/
theorem upward_web {column : Nat} (isColumn : column ∈ layout.columns) (updates : Nat) :
    ((layout.web start covered).arena updates).ring Node.up (.record column) =
      .ok ((layout.live covered column).reverse.map fun node : Nat => Link.record node) := by
  have shown := shows_web proper built trail
  have turned : (column :: (layout.live covered column).reverse).Perm
      (column :: layout.live covered column) := (List.reverse_perm _).cons column
  have isHeader := mem_headerRings_flatten.2 (.inr isColumn)
  exact Web.ring_arena (fun web => web.along.flip) Web.reads_up (shown.columns column isHeader).flip
    (turned.nodup_iff.2 (shown.column_nodup isHeader)) fun member inside =>
      shown.column_lt_count isHeader (turned.subset inside)

/-! ## The ring of the root -/

/-- The ring of the root holds the columns that are left. -/
theorem root_ring : (layout.web start covered).across.Ring (0 :: layout.active covered) := by
  have shown := shows_web proper built trail
  have ring := shown.headers (0 :: layout.primary) (by simp [Frame.headerRings])
  have rootUncovered : 0 ∉ covered := fun inside =>
    shown.sound.column_ne_root (trail.columns 0 inside) rfl
  rwa [List.filter_cons_of_pos (by simpa using rootUncovered)] at ring

/-- The first step along the ring of the root. -/
theorem record_root_web (updates : Nat) :
    ((layout.web start covered).arena updates).record root =
        .ok ((layout.web start covered).node 0) ∧
      ((layout.web start covered).node 0).right = .record ((layout.active covered).headD 0) := by
  have shown := shows_web proper built trail
  refine ⟨(layout.web start covered).record_arena shown.sound.root_lt, ?_⟩
  rw [Web.reads_right, (root_ring proper built trail).next_first]

/-- The columns that are left, in their order. -/
theorem activeHeaders_web (updates : Nat) :
    ((layout.web start covered).arena updates).activeHeaders =
      .ok ((layout.active covered).map fun column : Nat => Link.record column) := by
  have shown := shows_web proper built trail
  have part : (0 :: layout.active covered).Sublist (0 :: layout.columns) :=
    (List.filter_sublist.trans (List.sublist_append_left _ _)).cons_cons 0
  refine Web.ring_arena Web.across Web.reads_right (root_ring proper built trail)
    (part.nodup shown.sound.columns_nodup) fun member inside => ?_
  exact shown.sound.lt_count_iff.2
    (.inl (mem_headerRings_flatten.2 (List.mem_cons.1 (part.subset inside))))

/-- **A problem is clean as long as no primary column is covered**: it counts the columns that are
left. -/
theorem isClean_trail (policy : Policy) (updates : Nat) :
    Problem.isClean ⟨(layout.web start covered).arena updates, policy, layout.primary.length⟩ =
      .ok (decide (∀ column ∈ layout.primary, column ∉ covered)) := by
  have headers := activeHeaders_web proper built trail updates
  have counted : ((layout.active covered).length == layout.primary.length) =
      decide (∀ column ∈ layout.primary, column ∉ covered) := by
    rw [Bool.eq_iff_iff, beq_iff_eq, decide_eq_true_iff, active, List.length_filter_eq_length_iff]
    simp only [decide_eq_true_eq]
  simp only [Problem.isClean, headers, bind, Except.bind, pure, Except.pure, List.length_map, counted]

/-- **The search has found a solution when no column is left.** -/
theorem isSolved_web (updates : Nat) :
    ((layout.web start covered).arena updates).isSolved = .ok (layout.active covered).isEmpty := by
  have shown := shows_web proper built trail
  obtain ⟨found, first⟩ := record_root_web proper built trail updates
  simp only [Arena.isSolved, found, first, bind, Except.bind, pure, Except.pure]
  congr 1
  cases left : layout.active covered with
  | nil => rfl
  | cons column rest =>
      have inActive : column ∈ layout.active covered := by simp [left]
      have different := shown.sound.column_ne_root (column_of_mem_active inActive)
      rw [List.headD_cons, root, Link.same_record, List.isEmpty_cons, decide_eq_false_iff_not]
      exact_mod_cast different

/-- The size of a column that is left. -/
theorem columnSize_web {column : Nat} (isColumn : column ∈ layout.columns) (updates : Nat) :
    ((layout.web start covered).arena updates).columnSize (.record column) =
      .ok ((layout.live covered column).length : Int) := by
  have shown := shows_web proper built trail
  have isHeader := mem_headerRings_flatten.2 (.inr isColumn)
  obtain ⟨name, isName⟩ := Option.isSome_iff_exists.1 (shown.header_named isHeader)
  have inside := shown.sound.header_lt isHeader
  simp only [Arena.columnSize, (layout.web start covered).record_arena inside, bind, Except.bind,
    Web.node, isName, Option.map_some, shown.sizes column isHeader]
  rfl

/-- The first smallest column from the middle of the ring of the root on. `done` holds the columns
that were looked at before. -/
theorem smallestFrom_web
    (small : ∀ column ∈ layout.active covered,
      ((layout.live covered column).length : Int) < Arena.sizeBound)
    (nonempty : layout.active covered ≠ []) (done rest : List Nat)
    (split : layout.active covered = done ++ rest) (fuel updates : Nat)
    (enough : rest.length < fuel) (best : Int) (smallest : Int)
    (before : match done.argmin fun column => (layout.live covered column).length with
      | none => smallest = Arena.sizeBound
      | some column => best = column ∧ smallest = (layout.live covered column).length) :
    ∃ column, layout.chosen covered .smallest = some column ∧
      ((layout.web start covered).arena updates).smallestFrom fuel (.record (rest.headD 0))
        (.record best) smallest = .ok (.record column) := by
  induction rest generalizing done fuel best smallest with
  | nil =>
      cases fuel with
      | zero => omega
      | succ fuel =>
          have all : layout.active covered = done := by simpa using split
          cases found : done.argmin fun column => (layout.live covered column).length with
          | none => exact absurd (List.argmin_eq_none.1 found) (all ▸ nonempty)
          | some column =>
              rw [found] at before
              refine ⟨column, by rw [chosen, all, found], ?_⟩
              simp [Arena.smallestFrom, root, before.1]
  | cons current rest ih =>
      cases fuel with
      | zero => omega
      | succ fuel =>
          have inActive : current ∈ layout.active covered := by simp [split]
          have isColumn := column_of_mem_active inActive
          have shown := shows_web proper built trail
          have size := columnSize_web proper built trail isColumn updates
          have ring := root_ring proper built trail
          rw [split] at ring
          have apart : ¬ Link.same (.record current) root = true := by
            rw [root, Link.same_record, decide_eq_true_iff]
            exact_mod_cast shown.sound.column_ne_root isColumn
          have onward := ih (done ++ [current]) (by simp [split]) fuel (by simpa using enough)
          rw [List.headD_cons, Arena.smallestFrom, if_neg apart]
          simp only [size, (layout.web start covered).record_arena (shown.sound.column_lt isColumn),
            bind, Except.bind, Web.reads_right, ring.next_of_append]
          rw [List.argmin_concat] at onward
          cases found : done.argmin fun column => (layout.live covered column).length with
          | none =>
              rw [found] at before onward
              have less : ((layout.live covered current).length : Int) < smallest := by
                rw [before]
                exact small current inActive
              rw [if_pos less]
              exact onward current _ ⟨rfl, rfl⟩
          | some earlier =>
              rw [found] at before onward
              obtain ⟨isBest, isSmallest⟩ := before
              by_cases less : (layout.live covered current).length <
                  (layout.live covered earlier).length
              · rw [if_pos (by rw [isSmallest]; exact_mod_cast less)]
                simp only [if_pos less] at onward
                exact onward current _ ⟨rfl, rfl⟩
              · rw [if_neg (by rw [isSmallest]; exact_mod_cast less)]
                simp only [if_neg less] at onward
                exact onward best smallest ⟨isBest, isSmallest⟩

/-- **The column that a search takes.** -/
theorem chosenColumn_web {policy : Policy}
    (small : policy = .smallest → ∀ column ∈ layout.active covered,
      ((layout.live covered column).length : Int) < Arena.sizeBound)
    (nonempty : layout.active covered ≠ []) (updates : Nat) :
    ∃ column, layout.chosen covered policy = some column ∧
      ((layout.web start covered).arena updates).chosenColumn policy = .ok (.record column) := by
  have shown := shows_web proper built trail
  obtain ⟨found, first⟩ := record_root_web proper built trail updates
  cases policy with
  | first =>
      obtain ⟨column, rest, left⟩ := List.exists_cons_of_ne_nil nonempty
      refine ⟨column, by rw [chosen, left, List.head?_cons], ?_⟩
      simp only [Arena.chosenColumn, Arena.firstColumn, found, first, left, bind, Except.bind]
      rfl
  | smallest =>
      have short := length_active_le shown.sound covered
      simp only [Arena.chosenColumn, Arena.smallestColumn, found, first, bind, Except.bind]
      refine smallestFrom_web proper built trail (small rfl) nonempty [] (layout.active covered) rfl _
        updates ?_ _ _ rfl
      rw [Web.size_arena]
      omega

end

end Layout

end ExactCover
