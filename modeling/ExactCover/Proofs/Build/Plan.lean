import Mathlib.Data.List.Dedup
import ExactCover.Proofs.Build.Steps

/-!
# Building row by row

Many problems are built by one step over and over: a new record is put at the bottom of a column and
to the right of the last record of its row, if the row has any. A plan tells the columns and, for each
such step, the number of the row and the column. As the records are numbered one after the other, the
plan determines the rows and what stands in the columns.

Following a plan one step further keeps the rows rings (`Follows.add`), and a web that follows a plan
to its end shows the layout of the plan (`Follows.shows`), which is ready for a search if no step is
made twice (`Plan.proper`).
-/

set_option autoImplicit false

namespace ExactCover

open Function

/-- The columns of a problem, the number of its first record that is no column, and the row and the
column of each such record. -/
structure Plan where
  primary : List Nat
  secondary : List (List Nat)
  base : Nat
  steps : List (Nat × Nat)

namespace Plan

variable {plan : Plan}

/-- What is built apart from the rows. -/
def frame (plan : Plan) : Frame :=
  ⟨plan.primary, plan.secondary, (plan.steps.zipIdx plan.base).map fun step => (step.2, step.1.2)⟩

/-- The records of a row. -/
def strand (plan : Plan) (row : Nat) : List Nat :=
  ((plan.steps.zipIdx plan.base).filter (·.1.1 == row)).map Prod.snd

/-- The row of a record. -/
def rowAt (plan : Plan) (node : Nat) : Nat := (plan.steps.getD (node - plan.base) (0, 0)).1

/-- What is built: the columns, and the rows that have records. -/
def layout (plan : Plan) : Layout :=
  ⟨plan.frame, (plan.steps.map Prod.fst).dedup.map plan.strand⟩

/-- A plan with more steps. -/
def more (plan : Plan) (steps : List (Nat × Nat)) : Plan :=
  { plan with steps := plan.steps ++ steps }

/-- A plan with one step more. -/
def add (plan : Plan) (row column : Nat) : Plan := plan.more [(row, column)]

/-- The last record of a row, if the row has any. -/
def last (plan : Plan) (row : Nat) : Option Link :=
  (plan.strand row).getLast?.map fun node : Nat => .record node

theorem mem_attached {node column : Nat} :
    (node, column) ∈ plan.frame.attached ↔
      ∃ row, plan.base ≤ node ∧ plan.steps[node - plan.base]? = some (row, column) := by
  simp only [frame, List.mem_map, Prod.exists, Prod.mk.injEq, ← List.mk_mem_zipIdx_iff_le_and_getElem?_sub]
  constructor
  · rintro ⟨row, _, _, inside, rfl, rfl⟩
    exact ⟨row, inside⟩
  · rintro ⟨row, inside⟩
    exact ⟨row, column, node, inside, rfl, rfl⟩

theorem mem_strand {node row : Nat} :
    node ∈ plan.strand row ↔
      ∃ column, plan.base ≤ node ∧ plan.steps[node - plan.base]? = some (row, column) := by
  simp only [strand, List.mem_map, List.mem_filter, Prod.exists, beq_iff_eq,
    ← List.mk_mem_zipIdx_iff_le_and_getElem?_sub]
  constructor
  · rintro ⟨_, column, _, ⟨inside, rfl⟩, rfl⟩
    exact ⟨column, inside⟩
  · rintro ⟨column, inside⟩
    exact ⟨row, column, node, ⟨inside, rfl⟩, rfl⟩

/-- Every step has made a record. -/
theorem exists_of_step {row column : Nat} (isStep : (row, column) ∈ plan.steps) :
    ∃ node, plan.base ≤ node ∧ plan.steps[node - plan.base]? = some (row, column) := by
  obtain ⟨index, found⟩ := List.mem_iff_getElem?.1 isStep
  refine ⟨plan.base + index, Nat.le_add_right _ _, ?_⟩
  rw [Nat.add_sub_cancel_left, found]

/-- A row has records if it has steps. -/
theorem exists_mem_strand_iff {row : Nat} :
    (∃ node, node ∈ plan.strand row) ↔ ∃ column, (row, column) ∈ plan.steps := by
  constructor
  · rintro ⟨node, inside⟩
    obtain ⟨column, -, isStep⟩ := mem_strand.1 inside
    exact ⟨column, List.mem_of_getElem? isStep⟩
  · rintro ⟨column, isStep⟩
    obtain ⟨node, isRecord⟩ := exists_of_step isStep
    exact ⟨node, mem_strand.2 ⟨column, isRecord⟩⟩

theorem strand_nodup (row : Nat) : (plan.strand row).Nodup := by
  have part : (plan.strand row).Sublist ((plan.steps.zipIdx plan.base).map Prod.snd) :=
    List.filter_sublist.map Prod.snd
  rw [List.zipIdx_map_snd] at part
  exact part.nodup List.nodup_range'

/-- A record is in one row only. -/
theorem strand_unique {node one other : Nat} (inOne : node ∈ plan.strand one)
    (inOther : node ∈ plan.strand other) : one = other := by
  obtain ⟨_, -, isOne⟩ := mem_strand.1 inOne
  obtain ⟨_, -, isOther⟩ := mem_strand.1 inOther
  rw [isOne] at isOther
  exact congrArg Prod.fst (Option.some.inj isOther)

theorem rowAt_of_mem {node row : Nat} (inside : node ∈ plan.strand row) : plan.rowAt node = row := by
  obtain ⟨_, -, isStep⟩ := mem_strand.1 inside
  rw [rowAt, List.getD_eq_getElem?_getD, isStep]
  rfl

/-- The records of the rows are those from the first one on. -/
theorem exists_mem_strand {node : Nat} :
    (∃ row, node ∈ plan.strand row) ↔
      plan.base ≤ node ∧ node < plan.base + plan.steps.length := by
  constructor
  · rintro ⟨row, inside⟩
    obtain ⟨column, late, isStep⟩ := mem_strand.1 inside
    obtain ⟨early, -⟩ := List.getElem?_eq_some_iff.1 isStep
    omega
  · rintro ⟨late, early⟩
    have inside : node - plan.base < plan.steps.length := by omega
    exact ⟨_, mem_strand.2 ⟨_, late, List.getElem?_eq_getElem inside⟩⟩

/-! ## One step more -/

theorem zipIdx_add (row column : Nat) :
    (plan.add row column).steps.zipIdx plan.base =
      plan.steps.zipIdx plan.base ++ [((row, column), plan.base + plan.steps.length)] := by
  rw [add, more, List.zipIdx_append, List.zipIdx_singleton]

theorem frame_add (row column : Nat) :
    (plan.add row column).frame = plan.frame.attach (plan.base + plan.steps.length) column := by
  simp only [frame, Frame.attach]
  rw [show (plan.add row column).base = plan.base from rfl, zipIdx_add]
  simp [add, more]

theorem strand_add (row column other : Nat) :
    (plan.add row column).strand other =
      if other = row then plan.strand other ++ [plan.base + plan.steps.length]
      else plan.strand other := by
  simp only [strand]
  rw [show (plan.add row column).base = plan.base from rfl, zipIdx_add]
  by_cases same : other = row
  · simp [same]
  · simp [same, Ne.symm same]

theorem last_add (row column other : Nat) :
    (plan.add row column).last other =
      if other = row then some (.record (plan.base + plan.steps.length : Nat)) else plan.last other := by
  rw [last, strand_add]
  split
  · rw [List.getLast?_concat]
    rfl
  · rfl

theorem more_nil : plan.more [] = plan := by
  rw [more, List.append_nil]

theorem more_cons (row column : Nat) (steps : List (Nat × Nat)) :
    plan.more ((row, column) :: steps) = (plan.add row column).more steps := by
  rw [add, more, more, more, List.append_assoc, List.singleton_append]

theorem more_append (steps further : List (Nat × Nat)) :
    plan.more (steps ++ further) = (plan.more steps).more further := by
  rw [more, more, more, List.append_assoc]

/-- Steps of other rows leave the last record of a row as it is. -/
theorem last_more_of_notMem {steps : List (Nat × Nat)} {row : Nat}
    (absent : row ∉ steps.map Prod.fst) : (plan.more steps).last row = plan.last row := by
  induction steps generalizing plan with
  | nil => rw [more_nil]
  | cons step steps ih =>
      rw [List.map_cons, List.mem_cons, not_or] at absent
      rw [more_cons, ih absent.2, last_add, if_neg absent.1]

end Plan

/-- Makes a record at the bottom of a column, to the right of another one if one is given. -/
def Arena.addRecord (column : Link) (last : Option Link) : LinkM Link := do
  let node ← Arena.append column (← Arena.newNode)
  match last with
  | none => return node
  | some neighbour => Arena.insert neighbour node

namespace Web

variable {web : Web} {plan : Plan}

/-- A web follows a plan. -/
structure Follows (web : Web) (plan : Plan) : Prop where
  numbered : plan.frame.headerRings.flatten.Perm (List.range plan.base)
  counted : web.count = plan.base + plan.steps.length
  bears : web.Bears plan.frame
  rings : ∀ row, web.across.Ring (plan.strand row)

namespace Follows

variable (follows : web.Follows plan)
include follows

theorem isNode_iff {place : Nat} :
    plan.frame.IsNode web.count place ↔ ∃ row, place ∈ plan.strand row := by
  rw [Plan.exists_mem_strand, Frame.IsNode, follows.numbered.mem_iff, List.mem_range,
    follows.counted]
  omega

/-- A new record leaves the rows as they are. -/
theorem ring_addNode (row : Nat) : web.addNode.across.Ring (plan.strand row) := by
  have old : ∀ member ∈ plan.strand row, member < web.count := fun member inside =>
    (follows.isNode_iff.2 ⟨row, inside⟩).1
  exact (follows.rings row).congr (fun member inside => (Bears.addNode_next (old member inside)).1)
    fun member inside => (Bears.addNode_next (old member inside)).2.1

/-- The next record is in no row yet. -/
theorem notMem_strand (row : Nat) : web.count ∉ plan.strand row := fun inside =>
  Nat.lt_irrefl _ (follows.isNode_iff.2 ⟨row, inside⟩).1

/-- The next record stands in no column yet. -/
theorem notMem_attached : web.count ∉ plan.frame.attached.map Prod.fst := by
  intro inside
  obtain ⟨place, isAttached, same⟩ := List.mem_map.1 inside
  have old := (follows.bears.attachedInside place isAttached).1.1
  rw [same] at old
  exact Nat.lt_irrefl _ old

/-- The next record once it is made. -/
theorem isNode_count : plan.frame.IsNode web.addNode.count web.count :=
  ⟨Nat.lt_succ_self _, fun isHeader => Nat.lt_irrefl _ (follows.bears.inside _ isHeader)⟩

theorem frame_add (row column : Nat) :
    (plan.add row column).frame = plan.frame.attach web.count column := by
  rw [follows.counted, Plan.frame_add]

theorem strand_add (row column other : Nat) :
    (plan.add row column).strand other =
      if other = row then plan.strand other ++ [web.count] else plan.strand other := by
  rw [follows.counted, Plan.strand_add]

theorem counted_add (row column : Nat) :
    web.count + 1 = plan.base + (plan.add row column).steps.length := by
  rw [follows.counted, Plan.add, Plan.more, List.length_append, List.length_singleton, Nat.add_assoc]

/-- **The next step of a plan.** -/
theorem add {row column : Nat} (isColumn : column ∈ plan.frame.columns) (updates : Nat) :
    ∃ after : Web, after.Follows (plan.add row column) ∧
      Arena.addRecord (.record column) (plan.last row) (web.arena updates) =
        .ok (.record web.count) (after.arena updates) := by
  have isNew := follows.isNode_count
  have attached := follows.bears.addNode.append isNew follows.notMem_attached isColumn
  have appended := @Bears.append_arena _ _ updates follows.bears.addNode _ _ isNew isColumn
  rw [Plan.last]
  cases found : (plan.strand row).getLast? with
  | none =>
      have noRecords : plan.strand row = [] := List.getLast?_eq_none_iff.1 found
      refine ⟨_, ⟨follows.numbered, follows.counted_add row column,
        follows.frame_add row column ▸ attached, ?_⟩, ?_⟩
      · intro other
        rw [follows.strand_add]
        by_cases same : other = row
        · rw [if_pos same, same, noRecords]
          exact Thread.path_cons_cons.2
            ⟨⟨update_self _ _ _, update_self _ _ _⟩, List.isChain_singleton _⟩
        · rw [if_neg same]
          exact follows.ring_addNode other
      · refine (bind_of_ok (web.newNode_arena)).trans ?_
        exact bind_of_ok appended
  | some last =>
      obtain ⟨front, records⟩ := List.getLast?_eq_some_iff.1 found
      have lastInside : last ∈ plan.strand row := by simp [records]
      have isLast : plan.frame.IsNode web.addNode.count last := by
        obtain ⟨isRecord, noHeader⟩ := follows.isNode_iff.2 ⟨row, lastInside⟩
        exact ⟨Nat.lt_succ_of_lt isRecord, noHeader⟩
      have inserted := @Bears.insert_arena _ _ updates attached last web.count isLast isNew
      refine ⟨_, ⟨follows.numbered, follows.counted_add row column,
        follows.frame_add row column ▸ attached.insert isLast isNew, ?_⟩, ?_⟩
      · intro other
        rw [follows.strand_add]
        by_cases same : other = row
        · rw [if_pos same, same, records, List.append_assoc]
          have ring := follows.ring_addNode row
          have once := plan.strand_nodup row
          have absent := follows.notMem_strand row
          rw [records] at ring once absent
          exact ring.link once absent
        · rw [if_neg same]
          have ring := follows.ring_addNode other
          obtain ⟨-, -, nextInside, -⟩ := (follows.ring_addNode row).next_prev lastInside
          refine ring.link_apart (fun here => same ?_) (fun here => same ?_)
            (follows.notMem_strand other)
          · exact Plan.strand_unique here lastInside
          · exact Plan.strand_unique here nextInside
      · refine (bind_of_ok (web.newNode_arena)).trans ?_
        refine (bind_of_ok appended).trans ?_
        exact inserted

/-- **A web that follows a plan shows its layout.** -/
theorem shows : web.Shows plan.layout [] := by
  have inRows : ∀ place, place ∈ plan.layout.nodes ↔ ∃ row, place ∈ plan.strand row := by
    intro place
    simp only [Layout.nodes, Plan.layout, List.mem_flatten, List.mem_map, List.mem_dedup]
    constructor
    · rintro ⟨_, ⟨row, -, rfl⟩, inside⟩
      exact ⟨row, inside⟩
    · rintro ⟨row, inside⟩
      obtain ⟨column, isStep⟩ := Plan.exists_mem_strand_iff.1 ⟨place, inside⟩
      exact ⟨_, ⟨row, ⟨_, isStep, rfl⟩, rfl⟩, inside⟩
  have once : plan.layout.nodes.Nodup := by
    refine List.nodup_flatten.2 ⟨?_, ?_⟩
    · intro row isRow
      obtain ⟨number, -, rfl⟩ := List.mem_map.1 isRow
      exact plan.strand_nodup number
    · refine List.pairwise_map.2 ((List.nodup_dedup _).imp fun different => ?_)
      exact List.disjoint_left.2 fun place inOne inOther =>
        different (Plan.strand_unique inOne inOther)
  refine follows.bears.shows ?_ ?_ ?_
  · have apart : ∀ header ∈ plan.frame.headerRings.flatten, ∀ node ∈ plan.layout.nodes,
        header ≠ node := by
      rintro header isHeader _ isNode rfl
      exact (follows.isNode_iff.2 ((inRows _).1 isNode)).2 isHeader
    refine (List.perm_ext_iff_of_nodup (List.nodup_append.2 ⟨follows.bears.once, once, apart⟩)
      List.nodup_range).2 fun place => ?_
    have isRecord := @Follows.isNode_iff web plan follows place
    have headers := follows.bears.inside place
    rw [Frame.IsNode, ← inRows] at isRecord
    change place ∈ _ ++ plan.layout.nodes ↔ _
    rw [List.mem_append, List.mem_range]
    constructor
    · rintro (isHeader | isNode)
      · exact headers isHeader
      · exact (isRecord.2 isNode).1
    · intro inside
      by_cases isHeader : place ∈ plan.frame.headerRings.flatten
      · exact .inl isHeader
      · exact .inr (isRecord.1 ⟨inside, isHeader⟩)
  · intro isRow
    obtain ⟨row, occurs, empty⟩ := List.mem_map.1 isRow
    rw [List.mem_dedup, List.mem_map] at occurs
    obtain ⟨step, isStep, rfl⟩ := occurs
    obtain ⟨node, inside⟩ := Plan.exists_mem_strand_iff.2 ⟨step.2, isStep⟩
    rw [empty] at inside
    cases inside
  · intro row isRow
    obtain ⟨number, -, rfl⟩ := List.mem_map.1 isRow
    exact follows.rings number

end Follows

end Web

namespace Plan

variable {plan : Plan} {web : Web} (follows : web.Follows plan)
include follows

/-- The column of a record. -/
theorem column_of_step {node row column : Nat} (late : plan.base ≤ node)
    (isStep : plan.steps[node - plan.base]? = some (row, column)) :
    plan.layout.column node = column :=
  follows.shows.sound.column_eq (mem_attached.2 ⟨row, late, isStep⟩)

/-- A row stands in the columns of its steps. -/
theorem mem_columns_strand {row column : Nat} :
    column ∈ (plan.strand row).map plan.layout.column ↔ (row, column) ∈ plan.steps := by
  rw [List.mem_map]
  constructor
  · rintro ⟨node, inside, rfl⟩
    obtain ⟨column, late, isStep⟩ := mem_strand.1 inside
    rw [column_of_step follows late isStep]
    exact List.mem_of_getElem? isStep
  · intro isStep
    obtain ⟨node, late, found⟩ := exists_of_step isStep
    exact ⟨node, mem_strand.2 ⟨column, late, found⟩, column_of_step follows late found⟩

/-- **A layout in which no step is made twice is ready for a search.** -/
theorem proper (once : plan.steps.Nodup) : plan.layout.Proper := by
  have shown := follows.shows
  constructor
  · intro node isNode
    obtain ⟨row, isRow, inside⟩ := Layout.mem_nodes.1 isNode
    obtain ⟨number, -, rfl⟩ := List.mem_map.1 isRow
    obtain ⟨column, isStep⟩ := mem_strand.1 inside
    exact List.mem_map.2 ⟨(node, column), mem_attached.2 ⟨number, isStep⟩, rfl⟩
  · intro row isRow
    obtain ⟨number, -, rfl⟩ := List.mem_map.1 isRow
    refine (plan.strand_nodup number).map_on ?_
    intro one isOne other isOther same
    obtain ⟨column, late, isStep⟩ := mem_strand.1 isOne
    obtain ⟨column', late', isStep'⟩ := mem_strand.1 isOther
    rw [column_of_step follows late isStep, column_of_step follows late' isStep'] at same
    subst same
    obtain ⟨early, -⟩ := List.getElem?_eq_some_iff.1 isStep
    have := (List.getElem?_inj early once).1 (isStep.trans isStep'.symm)
    omega

end Plan

end ExactCover
