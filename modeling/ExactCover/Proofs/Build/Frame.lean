import ExactCover.Proofs.Layout.Cover

/-!
# Building a web

When a web bears a frame: every column is on its ring, every record that was put into a column is on
the ring of the column from top to bottom, the sizes count these records, and links to the right never
lead from a record to a column. The root is a column in which no record stands. Nothing is said of rows.
They are made by putting records to the right of others in whatever order, and what comes of that only
shows in the end.

Every step of building keeps this: a new record (`Bears.addNode`), a new column (`Bears.addRing`,
`Bears.addBeside`), a record at the bottom of a column (`Bears.append`), and a record to the right of
another (`Bears.insert`). If the rows have come out as rings, the web shows the layout that is made up
of the frame and these rows (`Bears.shows`).
-/

set_option autoImplicit false

namespace ExactCover

open Function

/-- Puts a new number into a list, behind another one. -/
def insertAfter (place new : Nat) : List Nat → List Nat
  | [] => []
  | first :: rest =>
      if first = place then first :: new :: rest else first :: insertAfter place new rest

theorem insertAfter_append {place new : Nat} {front back : List Nat} (fresh : place ∉ front) :
    insertAfter place new (front ++ place :: back) = front ++ place :: new :: back := by
  induction front with
  | nil => simp [insertAfter]
  | cons first front ih =>
      rw [List.mem_cons, not_or] at fresh
      rw [List.cons_append, insertAfter, if_neg (Ne.symm fresh.1), ih fresh.2, List.cons_append]

theorem insertAfter_of_notMem {place new : Nat} {members : List Nat} (absent : place ∉ members) :
    insertAfter place new members = members := by
  induction members with
  | nil => rfl
  | cons first rest ih =>
      rw [List.mem_cons, not_or] at absent
      rw [insertAfter, if_neg (Ne.symm absent.1), ih absent.2]

theorem mem_insertAfter {place new member : Nat} {members : List Nat} :
    member ∈ insertAfter place new members ↔ member ∈ members ∨ member = new ∧ place ∈ members := by
  induction members with
  | nil => simp [insertAfter]
  | cons first rest ih =>
      rw [insertAfter]
      by_cases here : first = place
      · rw [if_pos here]
        simp only [List.mem_cons, here, true_or, and_true]
        tauto
      · rw [if_neg here]
        simp only [List.mem_cons, ih, Ne.symm here, false_or]
        tauto

namespace Frame

variable {frame : Frame} {header neighbour : Nat}

/-- No columns but the root. -/
def empty : Frame := ⟨[], [], []⟩

/-- A column more, on a ring of its own. -/
def addRing (frame : Frame) (header : Nat) : Frame :=
  { frame with secondary := frame.secondary ++ [[header]] }

/-- A column more, to the right of another one or of the root. -/
def addBeside (frame : Frame) (neighbour header : Nat) : Frame :=
  { frame with
    primary := (insertAfter neighbour header (0 :: frame.primary)).tail
    secondary := frame.secondary.map (insertAfter neighbour header) }

/-- A record put at the bottom of a column. -/
def attach (frame : Frame) (node column : Nat) : Frame :=
  { frame with attached := frame.attached ++ [(node, column)] }

/-- One of `count` records that is no column. -/
def IsNode (frame : Frame) (count place : Nat) : Prop :=
  place < count ∧ place ∉ frame.headerRings.flatten

theorem addRing_perm :
    (frame.addRing header).headerRings.flatten.Perm (header :: frame.headerRings.flatten) := by
  have behind : (frame.addRing header).headerRings.flatten =
      frame.headerRings.flatten ++ [header] := by
    simp [headerRings, addRing]
  rw [behind]
  exact List.perm_append_comm

theorem headerRings_addBeside :
    (frame.addBeside neighbour header).headerRings =
      frame.headerRings.map (insertAfter neighbour header) := by
  have head : 0 :: (insertAfter neighbour header (0 :: frame.primary)).tail =
      insertAfter neighbour header (0 :: frame.primary) := by
    rw [insertAfter]
    split <;> rfl
  simp only [headerRings, addBeside, List.map_cons, head]

theorem addBeside_perm (once : frame.headerRings.flatten.Nodup)
    (inside : neighbour ∈ frame.headerRings.flatten) :
    (frame.addBeside neighbour header).headerRings.flatten.Perm
      (header :: frame.headerRings.flatten) := by
  rw [headerRings_addBeside]
  generalize frame.headerRings = rings at once inside
  induction rings with
  | nil => cases inside
  | cons ring rings ih =>
      rw [List.flatten_cons, List.nodup_append] at once
      rw [List.map_cons, List.flatten_cons, List.flatten_cons]
      rcases List.mem_append.1 inside with here | later
      · have elsewhere : rings.map (insertAfter neighbour header) = rings := by
          refine (List.map_congr_left fun other isOther => ?_).trans (List.map_id _)
          refine insertAfter_of_notMem fun inOther => once.2.2 _ here _ ?_ rfl
          exact List.mem_flatten.2 ⟨other, isOther, inOther⟩
        obtain ⟨front, back, rfl⟩ := List.append_of_mem here
        have fresh : neighbour ∉ front := fun early =>
          (List.nodup_append.1 once.1).2.2 _ early _ (by simp) rfl
        rw [elsewhere, insertAfter_append fresh, ← List.cons_append]
        refine List.Perm.append_right _ ?_
        rw [List.append_cons, List.append_cons front neighbour back]
        exact List.perm_middle
      · have absent : neighbour ∉ ring := fun here => once.2.2 _ here _ later rfl
        rw [insertAfter_of_notMem absent]
        exact ((ih once.2.1 later).append_left ring).trans List.perm_middle

/-- A new column is on the ring of the root if its neighbour is. -/
theorem mem_primary_addBeside {column : Nat} :
    column ∈ 0 :: (frame.addBeside neighbour header).primary ↔
      column ∈ 0 :: frame.primary ∨ column = header ∧ neighbour ∈ 0 :: frame.primary := by
  have rings := @headerRings_addBeside frame header neighbour
  rw [(List.cons.inj rings).1, mem_insertAfter]

theorem members_attach {node column other : Nat} :
    (frame.attach node column).members other =
      if other = column then frame.members other ++ [node] else frame.members other := by
  by_cases same : other = column
  · simp [members, attach, same]
  · simp [members, attach, same, Ne.symm same]

end Frame

namespace Web

variable {web : Web} {frame : Frame}

/-- A web bears a frame. -/
structure Bears (web : Web) (frame : Frame) : Prop where
  once : frame.headerRings.flatten.Nodup
  inside : ∀ header ∈ frame.headerRings.flatten, header < web.count
  attachedOnce : (frame.attached.map Prod.fst).Nodup
  attachedInside : ∀ place ∈ frame.attached,
    frame.IsNode web.count place.1 ∧ place.2 ∈ frame.columns
  headers : ∀ ring ∈ frame.headerRings, web.across.Ring ring
  columns : ∀ header ∈ frame.headerRings.flatten, web.along.Ring (header :: frame.members header)
  sizes : ∀ header ∈ frame.headerRings.flatten, web.size header = (frame.members header).length
  homes : ∀ place ∈ frame.attached, web.column place.1 = place.2
  names : ∀ place, place < web.count →
    ((web.name? place).isSome ↔ place ∈ frame.headerRings.flatten)
  nodes : ∀ node, frame.IsNode web.count node → frame.IsNode web.count (web.across.next node)

namespace Bears

variable (bears : web.Bears frame)
include bears

theorem column_lt {column : Nat} (isColumn : column ∈ frame.columns) : column < web.count :=
  bears.inside column (List.mem_cons_of_mem _ isColumn)

/-- The ring of a column has records only. -/
theorem ring_lt {header place : Nat} (isHeader : header ∈ frame.headerRings.flatten)
    (here : place ∈ header :: frame.members header) : place < web.count := by
  rcases List.mem_cons.1 here with rfl | here
  · exact bears.inside _ isHeader
  · exact (bears.attachedInside _ (Frame.mem_members.1 here)).1.1

/-! ## New records -/

omit bears in
/-- The threads of a web with one more record. -/
theorem addNode_next {place : Nat} (old : place < web.count) :
    web.addNode.across.next place = web.across.next place ∧
      web.addNode.across.prev place = web.across.prev place ∧
      web.addNode.along.next place = web.along.next place ∧
      web.addNode.along.prev place = web.along.prev place := by
  have different := Nat.ne_of_lt old
  simp [Web.addNode, update_of_ne different]

/-- **A new record.** -/
theorem addNode : web.addNode.Bears frame := by
  refine { bears with
    inside := ?_, attachedInside := ?_, headers := ?_, columns := ?_, homes := ?_, names := ?_,
    nodes := ?_ }
  · exact fun header isHeader => Nat.lt_succ_of_lt (bears.inside header isHeader)
  · intro place isAttached
    obtain ⟨⟨isRecord, noHeader⟩, isColumn⟩ := bears.attachedInside place isAttached
    exact ⟨⟨Nat.lt_succ_of_lt isRecord, noHeader⟩, isColumn⟩
  · intro ring isRing
    have old : ∀ member ∈ ring, member < web.count := fun member inRing =>
      bears.inside member (List.mem_flatten.2 ⟨ring, isRing, inRing⟩)
    exact (bears.headers ring isRing).congr (fun member inRing => (addNode_next (old member inRing)).1)
      fun member inRing => (addNode_next (old member inRing)).2.1
  · intro header isHeader
    exact (bears.columns header isHeader).congr
      (fun member inRing => (addNode_next (bears.ring_lt isHeader inRing)).2.2.1)
      fun member inRing => (addNode_next (bears.ring_lt isHeader inRing)).2.2.2
  · intro place isAttached
    have different := Nat.ne_of_lt (bears.attachedInside place isAttached).1.1
    exact (update_of_ne different _ _).trans (bears.homes place isAttached)
  · intro place isRecord
    by_cases new : place = web.count
    · subst new
      have noHeader : web.count ∉ frame.headerRings.flatten := fun isHeader =>
        Nat.lt_irrefl _ (bears.inside _ isHeader)
      simp [Web.addNode, noHeader]
    · have old : place < web.count := Nat.lt_of_le_of_ne (Nat.le_of_lt_succ isRecord) new
      simpa [Web.addNode, update_of_ne new] using bears.names place old
  · rintro node ⟨isRecord, noHeader⟩
    by_cases new : node = web.count
    · subst new
      simpa [Web.addNode, Frame.IsNode] using noHeader
    · have old : node < web.count := Nat.lt_of_le_of_ne (Nat.le_of_lt_succ isRecord) new
      rw [(addNode_next old).1]
      obtain ⟨isRecord, noHeader⟩ := bears.nodes node ⟨old, noHeader⟩
      exact ⟨Nat.lt_succ_of_lt isRecord, noHeader⟩

/-! ## New columns -/

/-- A new column, wherever it is put among the other columns. -/
theorem addColumn {name : Value} {across : Thread} {more : Frame}
    (sameAttached : more.attached = frame.attached)
    (oneMore : more.headerRings.flatten.Perm (web.count :: frame.headerRings.flatten))
    (headers : ∀ ring ∈ more.headerRings, across.Ring ring)
    (sameNodes : ∀ node, frame.IsNode web.count node → across.next node = web.across.next node) :
    Web.Bears { web.addHeader name with across := across } more := by
  have isHeader : ∀ place, place ∈ more.headerRings.flatten ↔
      place = web.count ∨ place ∈ frame.headerRings.flatten := fun place => by
    rw [oneMore.mem_iff, List.mem_cons]
  have noHeader : web.count ∉ frame.headerRings.flatten := fun isHeader =>
    Nat.lt_irrefl _ (bears.inside _ isHeader)
  have isNode : ∀ place, more.IsNode (web.count + 1) place ↔ frame.IsNode web.count place := by
    intro place
    constructor
    · rintro ⟨isRecord, apart⟩
      rw [isHeader, not_or] at apart
      exact ⟨by omega, apart.2⟩
    · rintro ⟨isRecord, apart⟩
      refine ⟨Nat.lt_succ_of_lt isRecord, fun here => ?_⟩
      rcases (isHeader place).1 here with rfl | here
      · exact Nat.lt_irrefl _ isRecord
      · exact apart here
  have isColumn : ∀ column, column ∈ more.columns ↔ column = web.count ∨ column ∈ frame.columns := by
    have perm : more.columns.Perm (web.count :: frame.columns) := by
      have := oneMore.trans (List.Perm.swap 0 web.count frame.columns)
      exact List.Perm.cons_inv this
    intro column
    rw [perm.mem_iff, List.mem_cons]
  have members : ∀ column, more.members column = frame.members column := fun column => by
    rw [Frame.members, Frame.members, sameAttached]
  have noMembers : frame.members web.count = [] := by
    apply List.eq_nil_iff_forall_not_mem.2
    intro node here
    have attached := (bears.attachedInside _ (Frame.mem_members.1 here)).2
    exact Nat.lt_irrefl _ (bears.column_lt attached)
  constructor
  · exact oneMore.nodup_iff.2 (List.nodup_cons.2 ⟨noHeader, bears.once⟩)
  · intro place here
    rcases (isHeader place).1 here with rfl | here
    · exact Nat.lt_succ_self _
    · exact Nat.lt_succ_of_lt (bears.inside place here)
  · rw [sameAttached]
    exact bears.attachedOnce
  · intro place here
    rw [sameAttached] at here
    obtain ⟨node, column⟩ := bears.attachedInside place here
    exact ⟨(isNode _).2 node, (isColumn _).2 (.inr column)⟩
  · exact headers
  · intro header here
    rw [members]
    rcases (isHeader header).1 here with rfl | here
    · rw [noMembers]
      exact Thread.path_cons_cons.2 ⟨⟨update_self _ _ _, update_self _ _ _⟩, List.isChain_singleton _⟩
    · refine (bears.columns header here).congr (fun member inRing => ?_) fun member inRing => ?_
      · exact update_of_ne (Nat.ne_of_lt (bears.ring_lt here inRing)) _ _
      · exact update_of_ne (Nat.ne_of_lt (bears.ring_lt here inRing)) _ _
  · intro header here
    rw [members]
    rcases (isHeader header).1 here with rfl | here
    · rw [noMembers]
      simp [Web.addHeader]
    · have different := Nat.ne_of_lt (bears.inside _ here)
      exact (update_of_ne different _ _).trans (bears.sizes header here)
  · intro place here
    rw [sameAttached] at here
    have different := Nat.ne_of_lt (bears.attachedInside place here).1.1
    exact (update_of_ne different _ _).trans (bears.homes place here)
  · intro place isRecord
    rw [isHeader]
    by_cases new : place = web.count
    · subst new
      simp [Web.addHeader]
    · have old : place < web.count := Nat.lt_of_le_of_ne (Nat.le_of_lt_succ isRecord) new
      simpa [Web.addHeader, update_of_ne new, new] using bears.names place old
  · intro node here
    have old := (isNode node).1 here
    refine (isNode _).2 ?_
    change frame.IsNode web.count (across.next node)
    rw [sameNodes node old]
    exact bears.nodes node old

/-- A new column leaves the rings of columns as they are. -/
theorem ring_addHeader (name : Value) {ring : List Nat} (isRing : ring ∈ frame.headerRings) :
    (web.addHeader name).across.Ring ring := by
  have different : ∀ member ∈ ring, member ≠ web.count := fun member inRing =>
    Nat.ne_of_lt (bears.inside member (List.mem_flatten.2 ⟨ring, isRing, inRing⟩))
  exact (bears.headers ring isRing).congr (fun member inRing => update_of_ne (different member inRing) _ _)
    fun member inRing => update_of_ne (different member inRing) _ _

/-- **A new column on a ring of its own.** -/
theorem addRing (name : Value) : (web.addHeader name).Bears (frame.addRing web.count) := by
  refine bears.addColumn rfl Frame.addRing_perm ?_ fun node isNode => ?_
  · intro ring isRing
    have behind : (frame.addRing web.count).headerRings = frame.headerRings ++ [[web.count]] := rfl
    rw [behind, List.mem_append, List.mem_singleton] at isRing
    rcases isRing with isRing | rfl
    · exact bears.ring_addHeader name isRing
    · exact Thread.path_cons_cons.2 ⟨⟨update_self _ _ _, update_self _ _ _⟩, List.isChain_singleton _⟩
  · exact update_of_ne (Nat.ne_of_lt isNode.1) _ _

/-- **A new column to the right of another one.** -/
theorem addBeside (name : Value) {neighbour : Nat} (inside : neighbour ∈ frame.headerRings.flatten) :
    ((web.addHeader name).insert neighbour web.count).Bears
      (frame.addBeside neighbour web.count) := by
  refine bears.addColumn rfl (Frame.addBeside_perm bears.once inside) ?_ fun node isNode => ?_
  · intro other isOther
    rw [Frame.headerRings_addBeside] at isOther
    obtain ⟨ring, isRing, rfl⟩ := List.mem_map.1 isOther
    have fresh : web.count ∉ ring := fun inRing =>
      Nat.lt_irrefl _ (bears.inside _ (List.mem_flatten.2 ⟨ring, isRing, inRing⟩))
    have once := (List.nodup_flatten.1 bears.once).1 ring isRing
    by_cases here : neighbour ∈ ring
    · obtain ⟨front, back, rfl⟩ := List.append_of_mem here
      have early : neighbour ∉ front := fun early =>
        (List.nodup_append.1 once).2.2 _ early _ (by simp) rfl
      rw [insertAfter_append early]
      exact (bears.ring_addHeader name isRing).link once fresh
    · obtain ⟨own, isOwn, inOwn⟩ := List.mem_flatten.1 inside
      obtain ⟨-, -, nextInOwn, -⟩ := (bears.ring_addHeader name isOwn).next_prev inOwn
      rw [insertAfter_of_notMem here]
      refine (bears.ring_addHeader name isRing).link_apart here (fun nextHere => here ?_) fresh
      exact Layout.unique_of_nodup_flatten bears.once isOwn isRing nextInOwn nextHere ▸ inOwn
  · have notNeighbour : node ≠ neighbour := fun same => isNode.2 (same ▸ inside)
    have notNew := Nat.ne_of_lt isNode.1
    simp [Thread.link, Web.addHeader, update_of_ne notNeighbour, update_of_ne notNew]

/-! ## Putting records into columns and rows -/

/-- The rings of two columns have no record in common. -/
theorem column_unique {one other place : Nat} (isOne : one ∈ frame.headerRings.flatten)
    (isOther : other ∈ frame.headerRings.flatten) (inOne : place ∈ one :: frame.members one)
    (inOther : place ∈ other :: frame.members other) : one = other := by
  have noHeader : ∀ {header : Nat}, place ∈ frame.members header →
      place ∉ frame.headerRings.flatten :=
    fun here => (bears.attachedInside _ (Frame.mem_members.1 here)).1.2
  rcases List.mem_cons.1 inOne with rfl | inOne
  · rcases List.mem_cons.1 inOther with same | inOther
    · exact same
    · exact absurd isOne (noHeader inOther)
  · rcases List.mem_cons.1 inOther with rfl | inOther
    · exact absurd isOther (noHeader inOne)
    · have here := bears.homes _ (Frame.mem_members.1 inOne)
      have there := bears.homes _ (Frame.mem_members.1 inOther)
      exact Int.ofNat_inj.1 (here.symm.trans there)

/-- **A record at the bottom of a column.** -/
theorem append {node column : Nat} (isNode : frame.IsNode web.count node)
    (free : node ∉ frame.attached.map Prod.fst) (isColumn : column ∈ frame.columns) :
    (web.append column node).Bears (frame.attach node column) := by
  have notMember : ∀ other, node ∉ frame.members other := fun other here =>
    free (List.mem_map.2 ⟨_, Frame.mem_members.1 here, rfl⟩)
  have isHeader : column ∈ frame.headerRings.flatten := List.mem_cons_of_mem _ isColumn
  have notInRing : ∀ other ∈ frame.headerRings.flatten, node ∉ other :: frame.members other := by
    intro other isOther here
    rcases List.mem_cons.1 here with rfl | here
    · exact isNode.2 isOther
    · exact notMember other here
  have onceIn : ∀ other ∈ frame.headerRings.flatten, (other :: frame.members other).Nodup := by
    intro other isOther
    refine List.nodup_cons.2 ⟨fun here => ?_, ?_⟩
    · exact (bears.attachedInside _ (Frame.mem_members.1 here)).1.2 isOther
    · exact (List.filter_sublist.map Prod.fst).nodup bears.attachedOnce
  refine
    { bears with attachedOnce := ?_, attachedInside := ?_, columns := ?_, sizes := ?_, homes := ?_ }
  · have behind : (frame.attach node column).attached.map Prod.fst =
        frame.attached.map Prod.fst ++ [node] := by simp [Frame.attach]
    rw [behind]
    exact List.nodup_append.2 ⟨bears.attachedOnce, List.nodup_singleton _,
      fun one isOne other isOther same => free (by
        rw [List.mem_singleton] at isOther
        exact isOther ▸ same ▸ isOne)⟩
  · intro place here
    rcases List.mem_append.1 here with here | here
    · exact bears.attachedInside place here
    · obtain rfl := List.mem_singleton.1 here
      exact ⟨isNode, isColumn⟩
  · intro other isOther
    have ring := bears.columns other isOther
    rw [Frame.members_attach]
    by_cases same : other = column
    · subst same
      rw [if_pos rfl]
      exact ring.link_last (onceIn other isOther) (notInRing other isOther)
    · rw [if_neg same]
      obtain ⟨forward, -, -, bottomInside⟩ :=
        (bears.columns column isHeader).next_prev List.mem_cons_self
      refine ring.link_apart (fun here => same ?_) (fun here => same ?_) (notInRing other isOther)
      · exact bears.column_unique isOther isHeader here bottomInside
      · rw [forward] at here
        exact bears.column_unique isOther isHeader here List.mem_cons_self
  · intro other isOther
    rw [Frame.members_attach]
    by_cases same : other = column
    · subst same
      simp [Web.append, bears.sizes other isOther]
    · rw [if_neg same]
      exact (update_of_ne same _ _).trans (bears.sizes other isOther)
  · intro place here
    rcases List.mem_append.1 here with here | here
    · have different : place.1 ≠ node := fun same =>
        free (List.mem_map.2 ⟨place, here, same⟩)
      exact (update_of_ne different _ _).trans (bears.homes place here)
    · obtain rfl := List.mem_singleton.1 here
      simp [Web.append]

/-- **A record to the right of another.** -/
theorem insert {place node : Nat} (isPlace : frame.IsNode web.count place)
    (isNode : frame.IsNode web.count node) : (web.insert place node).Bears frame := by
  refine { bears with headers := ?_, nodes := ?_ }
  · intro ring isRing
    have apart : ∀ other, frame.IsNode web.count other → other ∉ ring := fun other isOther inRing =>
      isOther.2 (List.mem_flatten.2 ⟨ring, isRing, inRing⟩)
    exact (bears.headers ring isRing).link_apart (apart _ isPlace)
      (apart _ (bears.nodes _ isPlace)) (apart _ isNode)
  · intro other isOther
    by_cases isSame : other = place
    · subst isSame
      simpa [Web.insert, Thread.link] using isNode
    · by_cases isNew : other = node
      · subst isNew
        simpa [Web.insert, Thread.link, update_of_ne isSame] using bears.nodes _ isPlace
      · simpa [Web.insert, Thread.link, update_of_ne isSame, update_of_ne isNew] using
          bears.nodes _ isOther

/-- **The web shows its frame with the rows**, if the rows have come out as rings and hold every other
record once. -/
theorem shows {rows : List (List Nat)}
    (numbered : (frame.headerRings.flatten ++ rows.flatten).Perm (List.range web.count))
    (inhabited : [] ∉ rows) (cycles : ∀ row ∈ rows, web.across.Ring row) :
    web.Shows ⟨frame, rows⟩ [] := by
  have inRows : ∀ place, frame.IsNode web.count place → place ∈ rows.flatten := by
    rintro place ⟨isRecord, noHeader⟩
    have := numbered.mem_iff.2 (List.mem_range.2 isRecord)
    exact (List.mem_append.1 this).resolve_left noHeader
  have members : ∀ column, (frame.members column).filter ((⟨frame, rows⟩ : Layout).linked []) =
      frame.members column := fun column => List.filter_eq_self.2 fun _ _ => rfl
  exact
    { sound :=
        { numbered := numbered
          rowsInhabited := inhabited
          attachedOnce := bears.attachedOnce
          attachedInside := fun place isAttached =>
            ⟨inRows _ (bears.attachedInside place isAttached).1,
              (bears.attachedInside place isAttached).2⟩ }
      headers := fun ring isRing => by
        have whole : ring.filter (· ∉ ([] : List Nat)) = ring :=
          List.filter_eq_self.2 fun _ _ => by simp
        rw [whole]
        exact bears.headers ring isRing
      rows := cycles
      columns := fun header isHeader => by
        rw [members]
        exact bears.columns header isHeader
      sizes := fun header isHeader => by
        rw [members]
        exact bears.sizes header isHeader
      homes := bears.homes
      names := bears.names }

end Bears

end Web

end ExactCover
