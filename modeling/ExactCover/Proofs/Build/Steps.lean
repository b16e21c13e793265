import ExactCover.Proofs.Build.Frame
import ExactCover.Solver.Problem

/-!
# Building a problem

A problem is built by the operations of its arena: new columns next to the root, on rings of their
own, or next to columns made before; new records; records put at the bottom of columns; and records
put to the right of others. `Built` says that a problem has come out of such steps, and with which
frame. The steps may come in any order, and rows may be put together in any way.

In the end every row has to be a cycle (`BuiltAs`). The arena is then the arena of a web that shows
the layout (`BuiltAs.shows`). That is all that a search has to know of how a problem was built.
-/

set_option autoImplicit false

namespace ExactCover

namespace Web

variable {web : Web} {frame : Frame} {updates : Nat}

/-! ## Meeting the root -/

/-- The way along a ring meets the root or comes back to where it began. -/
theorem meetsRootFrom_arena {start : Nat} {members : List Nat}
    (ring : web.across.Ring (start :: members)) (once : (start :: members).Nodup)
    (inside : ∀ member ∈ members, member < web.count) (done rest : List Nat)
    (split : members = done ++ rest) (fuel : Nat) (enough : rest.length < fuel) :
    (web.arena updates).meetsRootFrom (.record start) fuel (.record (rest.headD start)) =
      .ok (decide (0 ∈ rest)) := by
  induction rest generalizing done fuel with
  | nil =>
      cases fuel with
      | zero => omega
      | succ fuel => simp [Arena.meetsRootFrom]
  | cons current rest ih =>
      cases fuel with
      | zero => omega
      | succ fuel =>
          have different : current ≠ start := by
            rintro rfl
            exact (List.nodup_cons.1 once).1 (by simp [split])
          have here : current < web.count := inside current (by simp [split])
          have moved : (web.node current).right = .record (rest.headD start) := by
            rw [split] at ring
            rw [reads_right, ring.next_of_append]
          have onward := ih (done ++ [current]) (by simp [split]) fuel (by simpa using enough)
          have apart : ¬ Link.same (.record current) (.record start) = true := by
            rw [same_place, decide_eq_true_iff]
            exact different
          rw [List.headD_cons, Arena.meetsRootFrom, if_neg apart]
          by_cases isRoot : current = 0
          · subst isRoot
            rw [if_pos (by rw [root, Link.same_record]; simp)]
            simp
          · have notRoot : ¬ Link.same (.record current) root = true := by
              rw [root, Link.same_record, decide_eq_true_iff]
              exact_mod_cast isRoot
            rw [if_neg notRoot, web.record_arena here]
            simp only [bind, Except.bind, moved, onward, List.mem_cons, Ne.symm isRoot, false_or]

/-- **Whether a ring holds the root.** -/
theorem meetsRoot_arena {start : Nat} {members : List Nat}
    (ring : web.across.Ring (start :: members)) (once : (start :: members).Nodup)
    (inside : ∀ member ∈ start :: members, member < web.count) :
    (web.arena updates).meetsRoot (.record start) = .ok (decide (0 ∈ members)) := by
  have others : ∀ member ∈ members, member < web.count := fun member within =>
    inside member (List.mem_cons_of_mem _ within)
  have short : members.length ≤ web.count :=
    length_le_of_nodup_of_lt (List.nodup_cons.1 once).2 others
  have first : (web.node start).right = .record (members.headD start) := by
    rw [reads_right, ring.next_first]
  simp only [Arena.meetsRoot, web.record_arena (inside start (by simp)), bind, Except.bind, first]
  refine meetsRootFrom_arena ring once others [] members rfl _ ?_
  simp only [size_arena]
  omega

namespace Bears

variable (bears : web.Bears frame)
include bears

/-! ## One step -/

theorem append_arena {node column : Nat} (isNode : frame.IsNode web.count node)
    (isColumn : column ∈ frame.columns) :
    Arena.append (.record column) (.record node) (web.arena updates) =
      .ok (.record node) ((web.append column node).arena updates) := by
  have isHeader : column ∈ frame.headerRings.flatten := List.mem_cons_of_mem _ isColumn
  have columnInside := bears.column_lt isColumn
  obtain ⟨forward, -, -, bottomInside⟩ :=
    (bears.columns column isHeader).next_prev List.mem_cons_self
  have different : column ≠ node := by
    rintro rfl
    exact isNode.2 isHeader
  exact web.append_arena columnInside isNode.1 ((bears.names column columnInside).2 isHeader)
    (bears.ring_lt isHeader bottomInside) forward different

theorem insert_arena {place node : Nat} (isPlace : frame.IsNode web.count place)
    (isNode : frame.IsNode web.count node) :
    Arena.insert (.record place) (.record node) (web.arena updates) =
      .ok (.record node) ((web.insert place node).arena updates) :=
  web.insert_arena isPlace.1 isNode.1 (bears.nodes place isPlace).1

/-- The ring that a new column is put on, from the new column on. -/
theorem beside_ring (name : Value) {neighbour : Nat}
    (inside : neighbour ∈ frame.headerRings.flatten) :
    ∃ members, ((web.addHeader name).insert neighbour web.count).across.Ring
        (web.count :: members) ∧ (web.count :: members).Nodup ∧
      (∀ member ∈ web.count :: members, member < web.count + 1) ∧
      (0 ∈ members ↔ neighbour ∈ 0 :: frame.primary) := by
  have after := bears.addBeside name inside
  have isNew : web.count ∈ (frame.addBeside neighbour web.count).headerRings.flatten :=
    (Frame.addBeside_perm bears.once inside).mem_iff.2 List.mem_cons_self
  obtain ⟨ring, isRing, inRing⟩ := List.mem_flatten.1 isNew
  have once := (List.nodup_flatten.1 after.once).1 ring isRing
  have within : ∀ member ∈ ring, member < web.count + 1 := fun member here =>
    after.inside member (List.mem_flatten.2 ⟨ring, isRing, here⟩)
  have rootInside : 0 < web.count := bears.inside 0 (by simp [Frame.headerRings])
  have meets : 0 ∈ ring ↔ neighbour ∈ 0 :: frame.primary := by
    rw [Frame.headerRings_addBeside] at isRing
    obtain ⟨old, isOld, rfl⟩ := List.mem_map.1 isRing
    have fresh : web.count ∉ old := fun here =>
      Nat.lt_irrefl _ (bears.inside _ (List.mem_flatten.2 ⟨old, isOld, here⟩))
    have neighbourHere : neighbour ∈ old := by
      by_contra absent
      rw [insertAfter_of_notMem absent] at inRing
      exact fresh inRing
    have isFirst : 0 :: frame.primary ∈ frame.headerRings := by simp [Frame.headerRings]
    have rootIff : 0 ∈ insertAfter neighbour web.count old ↔ 0 ∈ old := by
      rw [mem_insertAfter]
      exact or_iff_left fun new => Nat.ne_of_lt rootInside new.1
    rw [rootIff]
    constructor
    · intro rootHere
      exact Layout.unique_of_nodup_flatten bears.once isOld isFirst rootHere (by simp) ▸ neighbourHere
    · intro neighbourFirst
      exact Layout.unique_of_nodup_flatten bears.once isFirst isOld neighbourFirst neighbourHere ▸
        List.mem_cons_self
  obtain ⟨front, back, rfl⟩ := List.append_of_mem inRing
  have turned : (front ++ web.count :: back).Perm (web.count :: (back ++ front)) :=
    List.perm_append_comm.trans (by simp)
  refine ⟨back ++ front, ?_, turned.nodup_iff.1 once, fun member here => ?_, ?_⟩
  · have ring := after.headers _ isRing
    exact Thread.ring_rotate.1 ring
  · exact within member (turned.mem_iff.2 here)
  · have notNew : 0 ≠ web.count := Nat.ne_of_lt rootInside
    rw [← meets, turned.mem_iff, List.mem_cons]
    simp [notNew]

end Bears

end Web

namespace Frame

/-- A column is primary if it is put next to the root or to a primary column. -/
theorem length_primary_addBeside (frame : Frame) (neighbour header : Nat) :
    (frame.addBeside neighbour header).primary.length =
      if neighbour ∈ 0 :: frame.primary then frame.primary.length + 1 else frame.primary.length := by
  change (insertAfter neighbour header (0 :: frame.primary)).tail.length = _
  split
  · rename_i inside
    have longer : ∀ {members : List Nat}, neighbour ∈ members →
        (insertAfter neighbour header members).length = members.length + 1 := by
      intro members here
      induction members with
      | nil => cases here
      | cons first rest ih =>
          rw [insertAfter]
          split
          · rfl
          · rename_i different
            have later := (List.mem_cons.1 here).resolve_left (Ne.symm different)
            rw [List.length_cons, ih later, List.length_cons]
    rw [List.length_tail, longer inside, List.length_cons, Nat.add_sub_cancel]
  · rename_i absent
    rw [insertAfter_of_notMem absent, List.tail_cons]

end Frame

namespace Problem

variable {web : Web} {frame : Frame} {updates primaryCount : Nat} {policy : Policy}

/-- Running a computation on the arena of a problem. -/
theorem links_of_ok {α : Type} {action : LinkM α} {arena after : Arena} {answer : α}
    (succeeds : action arena = .ok answer after) :
    links action ⟨arena, policy, primaryCount⟩ = .ok answer ⟨after, policy, primaryCount⟩ := by
  simp only [links, succeeds]

theorem newColumn_ring (name : Value) :
    newColumn name none ⟨web.arena updates, policy, primaryCount⟩ =
      .ok (.record web.count) ⟨(web.addHeader name).arena updates, policy, primaryCount⟩ :=
  bind_of_ok (links_of_ok (web.newHeader_arena name))

/-- **A column next to another one is counted as primary if it is.** -/
theorem newColumn_beside (bears : web.Bears frame) (name : Value) {neighbour : Nat}
    (inside : neighbour ∈ frame.headerRings.flatten) :
    newColumn name (some (.record neighbour))
        ⟨web.arena updates, policy, frame.primary.length⟩ =
      .ok (.record web.count)
        ⟨((web.addHeader name).insert neighbour web.count).arena updates, policy,
          (frame.addBeside neighbour web.count).primary.length⟩ := by
  obtain ⟨members, ring, once, within, meets⟩ := bears.beside_ring name inside
  have neighbourInside := bears.inside neighbour inside
  have nextInside : (web.addHeader name).across.next neighbour < web.count + 1 := by
    obtain ⟨own, isOwn, inOwn⟩ := List.mem_flatten.1 inside
    obtain ⟨-, -, nextInOwn, -⟩ := (bears.headers own isOwn).next_prev inOwn
    have old : (web.addHeader name).across.next neighbour = web.across.next neighbour :=
      Function.update_of_ne (Nat.ne_of_lt neighbourInside) _ _
    rw [old]
    exact Nat.lt_succ_of_lt (bears.inside _ (List.mem_flatten.2 ⟨own, isOwn, nextInOwn⟩))
  have created := @Web.newHeader_arena web updates name
  have inserted := @Web.insert_arena (web.addHeader name) updates neighbour web.count
    (Nat.lt_succ_of_lt neighbourInside) (Nat.lt_succ_self web.count) nextInside
  have asked : Arena.ask (·.meetsRoot (.record web.count))
      (((web.addHeader name).insert neighbour web.count).arena updates) =
        .ok (decide (neighbour ∈ 0 :: frame.primary))
          (((web.addHeader name).insert neighbour web.count).arena updates) := by
    rw [← decide_eq_decide.2 meets]
    exact Arena.ask_of_ok (Web.meetsRoot_arena ring once within)
  rw [Frame.length_primary_addBeside]
  refine (bind_of_ok (links_of_ok created)).trans ?_
  refine (bind_of_ok (links_of_ok inserted)).trans ?_
  refine (bind_of_ok (links_of_ok asked)).trans ?_
  by_cases isPrimary : neighbour ∈ 0 :: frame.primary
  · rw [decide_eq_true isPrimary, if_pos isPrimary]
    rfl
  · rw [decide_eq_false isPrimary, if_neg isPrimary]
    rfl

end Problem

/-! ## Problems that were built -/

/-- The web of the root alone. -/
def Web.root : Web :=
  { count := 1
    name? := fun _ => some .null
    across := ⟨fun _ => 0, fun _ => 0⟩
    along := ⟨fun _ => 0, fun _ => 0⟩
    column := fun _ => 0
    size := fun _ => 0 }

theorem Web.root_bears : Web.root.Bears Frame.empty := by
  have only : ∀ place, place ∈ Frame.empty.headerRings.flatten ↔ place = 0 := by
    simp [Frame.empty, Frame.headerRings]
  constructor
  · exact List.nodup_singleton 0
  · intro header isHeader
    rw [(only header).1 isHeader]
    exact Nat.one_pos
  · exact List.nodup_nil
  · simp [Frame.empty]
  · intro ring isRing
    obtain rfl := List.mem_singleton.1 isRing
    exact Thread.path_cons_cons.2 ⟨⟨rfl, rfl⟩, List.isChain_singleton 0⟩
  · intro header isHeader
    rw [(only header).1 isHeader]
    exact Thread.path_cons_cons.2 ⟨⟨rfl, rfl⟩, List.isChain_singleton 0⟩
  · intro header isHeader
    rfl
  · simp [Frame.empty]
  · intro place inside
    rw [only, Nat.lt_one_iff.1 inside]
    simp [Web.root]
  · rintro node ⟨inside, noHeader⟩
    exact absurd ((only node).2 (Nat.lt_one_iff.1 inside)) noHeader

/-- A problem that has come out of steps of building, with the frame that was built. -/
inductive Built : Problem → Frame → Prop
  | empty (policy : Policy) : Built (Problem.empty policy) .empty
  /-- A new column on a ring of its own. -/
  | ring {problem after : Problem} {frame : Frame} {name : Value} {header : Nat} :
      Built problem frame → Problem.newColumn name none problem = .ok (.record header) after →
      Built after (frame.addRing header)
  /-- A new column next to the root or next to a column made before. -/
  | beside {problem after : Problem} {frame : Frame} {name : Value} {neighbour header : Nat} :
      Built problem frame → neighbour = 0 ∨ neighbour ∈ frame.columns →
      Problem.newColumn name (some (.record neighbour)) problem = .ok (.record header) after →
      Built after (frame.addBeside neighbour header)
  /-- A new record. -/
  | node {problem after : Problem} {frame : Frame} {link : Link} :
      Built problem frame → Problem.links Arena.newNode problem = .ok link after → Built after frame
  /-- A record that stands in no column is put at the bottom of one. -/
  | append {problem after : Problem} {frame : Frame} {node column : Nat} {link : Link} :
      Built problem frame → frame.IsNode problem.arena.size node →
      node ∉ frame.attached.map Prod.fst → column ∈ frame.columns →
      Problem.links (Arena.append (.record column) (.record node)) problem = .ok link after →
      Built after (frame.attach node column)
  /-- A record is put to the right of another. -/
  | insert {problem after : Problem} {frame : Frame} {place node : Nat} {link : Link} :
      Built problem frame → frame.IsNode problem.arena.size place →
      frame.IsNode problem.arena.size node →
      Problem.links (Arena.insert (.record place) (.record node)) problem = .ok link after →
      Built after frame

/-- **A problem that was built has the arena of a web that bears the frame**, and counts its primary
columns. -/
theorem Built.bears {problem : Problem} {frame : Frame} (built : Built problem frame) :
    ∃ (web : Web) (updates : Nat) (policy : Policy),
      problem = ⟨web.arena updates, policy, frame.primary.length⟩ ∧ web.Bears frame := by
  induction built with
  | empty policy => exact ⟨Web.root, 0, policy, rfl, Web.root_bears⟩
  | @ring _ _ frame name header _ step ih =>
      obtain ⟨web, updates, policy, rfl, bears⟩ := ih
      rw [Problem.newColumn_ring] at step
      obtain ⟨same, rfl⟩ := EStateM.Result.ok.inj step
      obtain rfl := Int.ofNat_inj.1 (Link.record.inj same)
      exact ⟨_, updates, policy, rfl, bears.addRing name⟩
  | @beside _ _ frame name neighbour header _ isHeader step ih =>
      obtain ⟨web, updates, policy, rfl, bears⟩ := ih
      have inside : neighbour ∈ frame.headerRings.flatten := List.mem_cons.2 isHeader
      rw [Problem.newColumn_beside bears name inside] at step
      obtain ⟨same, rfl⟩ := EStateM.Result.ok.inj step
      obtain rfl := Int.ofNat_inj.1 (Link.record.inj same)
      exact ⟨_, updates, policy, rfl, bears.addBeside name inside⟩
  | node _ step ih =>
      obtain ⟨web, updates, policy, rfl, bears⟩ := ih
      rw [Problem.links_of_ok web.newNode_arena] at step
      obtain ⟨-, rfl⟩ := EStateM.Result.ok.inj step
      exact ⟨_, updates, policy, rfl, bears.addNode⟩
  | append _ isNode free isColumn step ih =>
      obtain ⟨web, updates, policy, rfl, bears⟩ := ih
      rw [Web.size_arena] at isNode
      rw [Problem.links_of_ok (bears.append_arena isNode isColumn)] at step
      obtain ⟨-, rfl⟩ := EStateM.Result.ok.inj step
      exact ⟨_, updates, policy, rfl, bears.append isNode free isColumn⟩
  | insert _ isPlace isNode step ih =>
      obtain ⟨web, updates, policy, rfl, bears⟩ := ih
      rw [Web.size_arena] at isPlace isNode
      rw [Problem.links_of_ok (bears.insert_arena isPlace isNode)] at step
      obtain ⟨-, rfl⟩ := EStateM.Result.ok.inj step
      exact ⟨_, updates, policy, rfl, bears.insert isPlace isNode⟩

/-- Two records stand side by side: the link to the right leads from the one to the other, and the link
to the left leads back. -/
def Arena.Adjoins (arena : Arena) (one other : Nat) : Prop :=
  ∃ left right, arena.record (.record one) = .ok left ∧ arena.record (.record other) = .ok right ∧
    left.right = .record other ∧ right.left = .record one

/-- What a web says of neighbours is what its arena says. -/
theorem Web.adjoins_iff {web : Web} {updates one other : Nat} :
    (web.arena updates).Adjoins one other ↔ (one < web.count ∧ other < web.count) ∧
      web.across.next one = other ∧ web.across.prev other = one := by
  constructor
  · rintro ⟨left, right, foundLeft, foundRight, toRight, toLeft⟩
    have oneInside := Arena.lt_size_of_record foundLeft
    have otherInside := Arena.lt_size_of_record foundRight
    rw [size_arena] at oneInside otherInside
    rw [web.record_arena oneInside] at foundLeft
    rw [web.record_arena otherInside] at foundRight
    cases foundLeft
    cases foundRight
    exact ⟨⟨oneInside, otherInside⟩, Int.ofNat_inj.1 (Link.record.inj toRight),
      Int.ofNat_inj.1 (Link.record.inj toLeft)⟩
  · rintro ⟨⟨oneInside, otherInside⟩, forward, backward⟩
    exact ⟨_, _, web.record_arena oneInside, web.record_arena otherInside,
      congrArg (fun place : Nat => Link.record place) forward,
      congrArg (fun place : Nat => Link.record place) backward⟩

/-- The links to the right run round a list of records, and the links to the left run back. -/
def Arena.Cycle (arena : Arena) : List Nat → Prop
  | [] => True
  | first :: rest => (first :: (rest ++ [first])).IsChain fun one other : Nat =>
      ∃ left right, arena.record (.record one) = .ok left ∧ arena.record (.record other) = .ok right ∧
        left.right = .record other ∧ right.left = .record one

/-- **A problem that was built as a layout says.** Every record that is no column is in one row, every
row is a cycle of links to the right and to the left, and its records stand in different columns. -/
structure BuiltAs (problem : Problem) (layout : Layout) : Prop where
  built : Built problem layout.toFrame
  numbered : (layout.headerRings.flatten ++ layout.nodes).Perm (List.range problem.arena.size)
  inhabited : [] ∉ layout.rows
  cycles : ∀ row ∈ layout.rows, problem.arena.Cycle row
  proper : layout.Proper

/-- A cycle of an arena is a ring of its web. -/
theorem Web.ring_of_cycle {web : Web} {updates : Nat} {members : List Nat}
    (cycle : (web.arena updates).Cycle members) : web.across.Ring members := by
  cases members with
  | nil => trivial
  | cons first rest => exact List.IsChain.imp (fun _ _ adjoins => (adjoins_iff.1 adjoins).2) cycle

/-- **The arena of a problem that was built is that of a web that shows the layout.** -/
theorem BuiltAs.shows {problem : Problem} {layout : Layout} (builtAs : BuiltAs problem layout) :
    ∃ (web : Web) (updates : Nat) (policy : Policy),
      problem = ⟨web.arena updates, policy, layout.primary.length⟩ ∧ web.Shows layout [] := by
  obtain ⟨web, updates, policy, rfl, bears⟩ := builtAs.built.bears
  have numbered := builtAs.numbered
  rw [Web.size_arena] at numbered
  exact ⟨web, updates, policy, rfl, bears.shows numbered builtAs.inhabited fun row isRow =>
    Web.ring_of_cycle (builtAs.cycles row isRow)⟩

/-- A layout with two primary columns, a secondary column and three rows, the first and the last of
which meet in the secondary column. -/
def Layout.small : Layout :=
  ⟨⟨[1, 2], [[3]], [(4, 1), (5, 3), (6, 2), (7, 2), (8, 3)]⟩, [[4, 5], [6], [7, 8]]⟩

/-- It can be built. -/
theorem exists_builtAs_small : ∃ problem, BuiltAs problem .small ∧ problem.policy = .smallest := by
  have one := @Built.beside _ _ _ .null 0 1 (.empty .smallest) (.inl rfl) rfl
  have two := @Built.beside _ _ _ .null 1 2 one (.inr (by decide)) rfl
  have three := @Built.ring _ _ _ .null 3 two rfl
  have four := @Built.append _ _ _ 4 1 _ (.node three rfl) ⟨by decide, by decide⟩ (by decide)
    (by decide) rfl
  have five := @Built.append _ _ _ 5 3 _ (.node four rfl) ⟨by decide, by decide⟩ (by decide)
    (by decide) rfl
  have firstRow := @Built.insert _ _ _ 4 5 _ five ⟨by decide, by decide⟩ ⟨by decide, by decide⟩ rfl
  have six := @Built.append _ _ _ 6 2 _ (.node firstRow rfl) ⟨by decide, by decide⟩ (by decide)
    (by decide) rfl
  have seven := @Built.append _ _ _ 7 2 _ (.node six rfl) ⟨by decide, by decide⟩ (by decide)
    (by decide) rfl
  have eight := @Built.append _ _ _ 8 3 _ (.node seven rfl) ⟨by decide, by decide⟩ (by decide)
    (by decide) rfl
  have lastRow := @Built.insert _ _ _ 7 8 _ eight ⟨by decide, by decide⟩ ⟨by decide, by decide⟩ rfl
  refine ⟨_, ⟨lastRow, by decide, by decide, fun row isRow => ?_, ⟨by decide, by decide⟩⟩, rfl⟩
  simp only [Layout.small, List.mem_cons, List.not_mem_nil, or_false] at isRow
  rcases isRow with rfl | rfl | rfl
  · exact .cons_cons ⟨_, _, rfl, rfl, rfl, rfl⟩ (.cons_cons ⟨_, _, rfl, rfl, rfl, rfl⟩ (.singleton _))
  · exact .cons_cons ⟨_, _, rfl, rfl, rfl, rfl⟩ (.singleton _)
  · exact .cons_cons ⟨_, _, rfl, rfl, rfl, rfl⟩ (.cons_cons ⟨_, _, rfl, rfl, rfl, rfl⟩ (.singleton _))

end ExactCover
