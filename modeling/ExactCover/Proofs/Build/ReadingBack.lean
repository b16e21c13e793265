import Mathlib.Data.List.Rotate
import ExactCover.Proofs.Search.Histories
import ExactCover.Proofs.Search.Selection

/-!
# Reading a plan back

Building loses nothing of a plan. Every record of a row was made by one step, and its row and its column
are those of the step. A new record goes to the bottom of its column and behind the last record of its
row. So a column holds the rows of its steps from top to bottom (`map_rowAt_members`), and a row the
columns of its steps from left to right (`map_column_strand`), both in the order of the steps.

An arena that follows the plan gives these lists back, to any reading that tells the records by the
numbers of their rows (`Plan.Tells`). Walking down a column tells the rows of its steps (`Tells.column`),
and going round a row from one of its records lists the records with the same reading (`Tells.row`), in
columns that are those of the row, turned so that the column of this record comes first
(`columns_follows`). What has a reading are the records that the arena tells from columns
(`Tells.exists_read_iff`).
-/

set_option autoImplicit false

namespace ExactCover

/-! ## Lists put together from parts -/

section

variable {α β : Type} {items : List α}

/-- Where only one part has items, they are those of this part. -/
theorem flatMap_eq_of_only {item : α} {parts : α → List β} (once : items.Nodup) (inside : item ∈ items)
    (only : ∀ other ∈ items, other ≠ item → parts other = []) : items.flatMap parts = parts item := by
  obtain ⟨before, after, rfl⟩ := List.append_of_mem inside
  obtain ⟨-, absent, apart⟩ := List.nodup_append.1 once
  have early : before.flatMap parts = [] := List.flatMap_eq_nil_iff.2 fun other isEarly =>
    only other (List.mem_append_left _ isEarly) (apart other isEarly item List.mem_cons_self)
  have late : after.flatMap parts = [] := List.flatMap_eq_nil_iff.2 fun other isLate =>
    only other (List.mem_append_right _ (List.mem_cons_of_mem _ isLate))
      fun same => (List.nodup_cons.1 absent).1 (same ▸ isLate)
  rw [List.flatMap_append, List.flatMap_cons, early, late, List.nil_append, List.append_nil]

/-- Where a part has one item or none, the items are those of the parts that have one. -/
theorem flatMap_ite (keep : α → Bool) (told : α → β) :
    (items.flatMap fun item => if keep item then [told item] else []) =
      (items.filter keep).map told := by
  induction items with
  | nil => rfl
  | cons item items ih =>
      rw [List.flatMap_cons, ih, List.filter_cons]
      split <;> rfl

end

/-! ## Rows and columns -/

/-- A number is that of a record which is no column. -/
def Arena.IsRowRecord (arena : Arena) (place : Int) : Prop :=
  0 ≤ place ∧ arena.isHeader (.record place) = .ok false

namespace Layout

variable {layout : Layout} {count : Nat}

/-- Before anything is covered, a column holds all of its records. -/
@[simp] theorem live_nil (column : Nat) : layout.live [] column = layout.members column :=
  List.filter_eq_self.2 fun _ _ => rfl

/-- Going round a row from one of its records turns the row. -/
theorem Sound.around_isRotated (sound : layout.Sound count) {node : Nat} (isNode : node ∈ layout.nodes) :
    (node :: layout.others node).IsRotated (layout.rowOf node) := by
  obtain ⟨front, back, split, turned⟩ := sound.exists_split isNode
  rw [split, turned, ← List.cons_append]
  exact List.isRotated_append

end Layout

namespace Plan

variable {plan : Plan} {web : Web}

/-! ## The lists of a plan -/

/-- The records of the rows have the numbers from the first one on. -/
theorem mem_nodes_iff {node : Nat} :
    node ∈ plan.layout.nodes ↔ plan.base ≤ node ∧ node < plan.base + plan.steps.length := by
  refine ⟨bounds_of_node, fun bounds => ?_⟩
  obtain ⟨row, inside⟩ := exists_mem_strand.2 bounds
  obtain ⟨column, late, isStep⟩ := mem_strand.1 inside
  exact node_of_step late isStep

/-- What is read off the numbers of some items, if it is told by the items. -/
theorem map_filter_zipIdx {α β : Type} {items : List α} {first : Nat} {read : Nat → β} {told : α → β}
    (keep : α → Bool) (reads : ∀ item ∈ items.zipIdx first, read item.2 = told item.1) :
    (((items.zipIdx first).filter fun item => keep item.1).map Prod.snd).map read =
      (items.filter keep).map told := by
  have same : ((items.zipIdx first).filter fun item => keep item.1).map (read ∘ Prod.snd) =
      ((items.zipIdx first).filter (keep ∘ Prod.fst)).map (told ∘ Prod.fst) :=
    List.map_congr_left fun item inside => reads item (List.mem_filter.1 inside).1
  rw [List.map_map, same, ← List.map_map, ← List.filter_map, List.zipIdx_map_fst]

theorem rowAt_of_mem_zipIdx {step : (Nat × Nat) × Nat} (inside : step ∈ plan.steps.zipIdx plan.base) :
    plan.rowAt step.2 = step.1.1 := by
  obtain ⟨-, isStep⟩ := List.mk_mem_zipIdx_iff_le_and_getElem?_sub.1 inside
  rw [rowAt, List.getD_eq_getElem?_getD, isStep, Option.getD_some]

/-- **From top to bottom** a column holds the rows of its steps. -/
theorem map_rowAt_members (column : Nat) :
    (plan.layout.members column).map plan.rowAt =
      (plan.steps.filter (·.2 == column)).map Prod.fst := by
  have members : plan.layout.members column =
      ((plan.steps.zipIdx plan.base).filter fun step => step.1.2 == column).map Prod.snd := by
    change ((plan.frame.attached).filter _).map _ = _
    rw [frame, List.filter_map, List.map_map]
    rfl
  rw [members]
  exact map_filter_zipIdx (·.2 == column) fun step inside => rowAt_of_mem_zipIdx inside

section

variable (follows : web.Follows plan)
include follows

/-- **From left to right** a row holds the columns of its steps. -/
theorem map_column_strand (row : Nat) :
    (plan.strand row).map plan.layout.column = (plan.steps.filter (·.1 == row)).map Prod.snd := by
  refine map_filter_zipIdx (fun step : Nat × Nat => step.1 == row) fun step inside => ?_
  obtain ⟨late, isStep⟩ := List.mk_mem_zipIdx_iff_le_and_getElem?_sub.1 inside
  exact column_of_step follows late isStep

/-- The columns of a row, from that of one of its records on. -/
theorem columns_follows {node : Nat} (isNode : node ∈ plan.layout.nodes) :
    (plan.layout.columnsOf node).IsRotated
      ((plan.steps.filter (·.1 == plan.rowAt node)).map Prod.snd) := by
  rw [← map_column_strand follows, ← rowOf_eq_strand follows isNode]
  exact (follows.shows.sound.around_isRotated isNode).map plan.layout.column

variable (once : plan.steps.Nodup) (updates : Nat)
include once

/-! ## Reading the arena -/

/-- **The records of the rows** are told from columns. -/
theorem isRowRecord_iff {place : Int} :
    (web.arena updates).IsRowRecord place ↔ ∃ node ∈ plan.layout.nodes, place = (node : Nat) := by
  have proper := plan.proper follows once
  have built := follows.shows
  constructor
  · rintro ⟨notNegative, isHeader⟩
    obtain ⟨node, rfl⟩ := Int.eq_ofNat_of_zero_le notNegative
    exact ⟨node, @Layout.node_of_isHeader _ web [] proper built Layout.isTrail_nil _ _ isHeader, rfl⟩
  · rintro ⟨node, isNode, rfl⟩
    refine ⟨Int.natCast_nonneg _, ?_⟩
    have told := @Layout.isHeader_web _ web [] proper built Layout.isTrail_nil _
      (built.sound.node_lt isNode) updates
    rwa [decide_eq_false fun isHeader => built.sound.header_not_node isHeader isNode] at told

/-- The columns on the ring of the root are the primary ones, in their order. -/
theorem activeHeaders_follows :
    (web.arena updates).activeHeaders = .ok (linksTo plan.primary) := by
  have active := @Layout.activeHeaders_web _ web [] (plan.proper follows once) follows.shows
    Layout.isTrail_nil updates
  rwa [Layout.active_nil] at active

/-- Walking down a column visits its records. -/
theorem column_follows {column : Nat} (isColumn : column ∈ plan.frame.columns) :
    (web.arena updates).column (.record column) = .ok (linksTo (plan.layout.members column)) := by
  have walked := @Layout.column_web _ web [] (plan.proper follows once) follows.shows
    Layout.isTrail_nil column isColumn updates
  rwa [Layout.live_nil] at walked

/-- The size of a column counts its records. -/
theorem columnSize_follows {column : Nat} (isColumn : column ∈ plan.frame.columns) :
    (web.arena updates).columnSize (.record column) =
      .ok ((plan.layout.members column).length : Int) := by
  have size := @Layout.columnSize_web _ web [] (plan.proper follows once) follows.shows
    Layout.isTrail_nil column isColumn updates
  rwa [Layout.live_nil] at size

/-- Going round a row from one of its records lists the records of the row. -/
theorem row_follows {node : Nat} (isNode : node ∈ plan.layout.nodes) :
    ∃ others, (web.arena updates).row (.record node) = .ok (linksTo (node :: others)) ∧
      ∀ member, member ∈ node :: others ↔
        member ∈ plan.layout.nodes ∧ plan.rowAt member = plan.rowAt node := by
  have built := follows.shows
  have turned := built.sound.around_isRotated isNode
  refine ⟨plan.layout.others node, @Layout.row_web _ web [] (plan.proper follows once) built
    Layout.isTrail_nil node isNode updates, fun member => ?_⟩
  rw [turned.mem_iff]
  constructor
  · intro inside
    refine ⟨built.sound.node_of_mem_rowOf isNode inside, ?_⟩
    rw [rowOf_eq_strand follows isNode] at inside
    exact rowAt_of_mem inside
  · rintro ⟨isMember, same⟩
    have inside := built.sound.mem_rowOf isMember
    rwa [rowOf_eq_strand follows isMember, same, ← rowOf_eq_strand follows isNode] at inside

end

/-! ## Readings of rows -/

section

variable {ε α : Type} {read : Link → Except ε α} {key : Nat → α}

/-- A reading tells the records of the rows, and no other records, by the numbers of their rows. -/
def Tells (plan : Plan) (read : Link → Except ε α) (key : Nat → α) : Prop :=
  ∀ (place : Int) (answer : α), read (.record place) = .ok answer ↔
    ∃ node ∈ plan.layout.nodes, place = (node : Nat) ∧ key (plan.rowAt node) = answer

namespace Tells

variable (tells : plan.Tells read key)
include tells

theorem read_node {node : Nat} (isNode : node ∈ plan.layout.nodes) :
    read (.record node) = .ok (key (plan.rowAt node)) :=
  (tells _ _).2 ⟨node, isNode, rfl, rfl⟩

variable (follows : web.Follows plan) (once : plan.steps.Nodup) (updates : Nat)
include follows once

/-- **What has a reading** are the records that are no columns. -/
theorem exists_read_iff (place : Int) :
    (∃ answer, read (.record place) = .ok answer) ↔ (web.arena updates).IsRowRecord place := by
  rw [isRowRecord_iff follows once]
  constructor
  · rintro ⟨answer, reads⟩
    obtain ⟨node, isNode, same, -⟩ := (tells place answer).1 reads
    exact ⟨node, isNode, same⟩
  · rintro ⟨node, isNode, rfl⟩
    exact ⟨_, tells.read_node isNode⟩

/-- **Walking down a column** tells the rows of its steps, from top to bottom. -/
theorem column {column : Nat} (isColumn : column ∈ plan.frame.columns) :
    ∃ walk, (web.arena updates).column (.record column) = .ok walk ∧
      walk.mapM read = .ok (((plan.steps.filter (·.2 == column)).map Prod.fst).map key) ∧
      (web.arena updates).columnSize (.record column) = .ok (walk.length : Int) := by
  refine ⟨_, column_follows follows once updates isColumn, ?_, ?_⟩
  · rw [← map_rowAt_members, List.map_map, linksTo, List.mapM_map]
    refine mapM_of_ok fun node isMember => ?_
    exact tells.read_node (follows.shows.sound.node_of_mem_members isMember).1
  · rw [linksTo, List.length_map]
    exact columnSize_follows follows once updates isColumn

/-- **Going round a row** lists the records with the same reading, from the one asked for on. -/
theorem row (injective : Function.Injective key) {node : Nat} (isNode : node ∈ plan.layout.nodes) :
    ∃ others, (web.arena updates).row (.record node) = .ok (.record node :: others) ∧
      (∀ place : Int, .record place ∈ Link.record node :: others ↔
        read (.record place) = .ok (key (plan.rowAt node))) ∧
      ∀ link ∈ Link.record node :: others, ∃ member ∈ plan.layout.nodes,
        link = .record (member : Nat) ∧ plan.rowAt member = plan.rowAt node := by
  obtain ⟨others, row, members⟩ := row_follows follows once updates isNode
  refine ⟨linksTo others, row, fun place => ?_, fun link isMember => ?_⟩
  · change Link.record place ∈ linksTo (node :: others) ↔ _
    rw [tells, linksTo, List.mem_map]
    constructor
    · rintro ⟨member, inside, same⟩
      obtain rfl := Link.record.inj same
      obtain ⟨isMember, sameRow⟩ := (members member).1 inside
      exact ⟨member, isMember, rfl, congrArg key sameRow⟩
    · rintro ⟨member, isMember, rfl, sameKey⟩
      exact ⟨member, (members member).2 ⟨isMember, injective sameKey⟩, rfl⟩
  · change link ∈ linksTo (node :: others) at isMember
    obtain ⟨member, inside, rfl⟩ := List.mem_map.1 isMember
    obtain ⟨isRecord, sameRow⟩ := (members member).1 inside
    exact ⟨member, isRecord, rfl, sameRow⟩

end Tells

end

end Plan

end ExactCover
