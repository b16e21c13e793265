import ExactCover.Proofs.Search.Collecting
import ExactCover.Proofs.Search.Replay

/-!
# Histories

Whoever works with a problem holds lists of decisions: lists of rows committed by hand, and answers that
a call has returned or that a cursor stands on (`Hold`). A list lies on top of those begun before it, and
only the last one is changed: a row is committed that shares no column with any row in force, the last
decisions are undone, a call goes on from the answer. What is done beside that, such as collecting
solutions or closing a cursor, leaves the lists below as they are (`Problem.Reached`).

Whatever has been done, the arena is told by the lists that are held. They lead along one trail
(`Layout.Carries`), and the arena is the web of that trail (`reached_web`). So nothing remains of what was
searched and undone in the meantime, but for the number of updates.
-/

set_option autoImplicit false

namespace ExactCover

/-! ## What is held -/

/-- A list of decisions that is held. -/
inductive Hold where
  /-- Decisions made by hand, or what is left of a list once its last decisions are undone. -/
  | committed (decisions : List Link)
  /-- An answer of a call, or the one that a cursor stands on. -/
  | found (answer : List Link)

/-- The decisions of a list. -/
def Hold.decisions : Hold → List Link
  | .committed decisions => decisions
  | .found answer => answer

/-- All decisions in force. -/
def inForce (held : List Hold) : List Link := held.flatMap Hold.decisions

/-- The columns of the row of a record. -/
def Arena.rowColumns (arena : Arena) (node : Link) : Except LinkError (List Link) := do
  (← arena.row node).mapM arena.columnOf

/-- Two records whose rows share no column. -/
def Arena.RowsApart (arena : Arena) (one other : Link) : Prop :=
  ∃ columns others, arena.rowColumns one = .ok columns ∧ arena.rowColumns other = .ok others ∧
    columns.Disjoint others

/-- What can be done with a problem, step by step: the lists that are held then, the last one first, and
the problem as it is then. -/
inductive Problem.Reached (start : Problem) : List Hold → Problem → Prop
  /-- Nothing has been done. -/
  | start : Reached start [] start
  /-- A new list is begun. -/
  | begin {held : List Hold} {current : Problem} :
      Reached start held current → Reached start (.committed [] :: held) current
  /-- A list without decisions is given up. -/
  | drop {hold : Hold} {held : List Hold} {current : Problem} :
      Reached start (hold :: held) current → hold.decisions = [] → Reached start held current
  /-- A list is put behind the one below it. -/
  | join {last earlier : Hold} {held : List Hold} {current : Problem} :
      Reached start (last :: earlier :: held) current →
      Reached start (.committed (earlier.decisions ++ last.decisions) :: held) current
  /-- A row is committed that shares no column with those in force. -/
  | commit {node : Nat} {hold : Hold} {held : List Hold} {decisions : List Link}
      {current after : Problem} :
      Reached start (hold :: held) current →
      start.arena.isHeader (.record node) = .ok false →
      (∀ decision ∈ inForce (hold :: held), start.arena.RowsApart decision (.record node)) →
      Problem.commit (.record node) hold.decisions current = .ok decisions after →
      Reached start (.committed decisions :: held) after
  /-- The last decisions of a list are undone. -/
  | undo {early late : List Link} {hold : Hold} {held : List Hold} {current after : Problem} :
      Reached start (hold :: held) current → hold.decisions = early ++ late →
      Problem.undo late current = .ok () after → Reached start (.committed early :: held) after
  | search {answer : List Link} {held : List Hold} {current after : Problem} :
      Reached start held current → Problem.search current = .ok answer after →
      Reached start (.found answer :: held) after
  | next {answer later : List Link} {held : List Hold} {current after : Problem} :
      Reached start (.found answer :: held) current →
      Problem.next answer current = .ok later after → Reached start (.found later :: held) after
  /-- A random search with any source. -/
  | sample {σ : Type} {draw : σ → Nat → Nat × σ} {source later : σ} {answer : List Link}
      {held : List Hold} {current after : Problem} :
      Reached start held current →
      Problem.sample draw source current = (.ok answer after, later) →
      Reached start (.found answer :: held) after
  /-- Solutions are collected, up to a limit. -/
  | solutions {limit : Option Int} {answers : List (List Link)} {held : List Hold}
      {current after : Problem} :
      Reached start held current → Problem.solutions limit current = .ok answers after →
      Reached start held after
  /-- A new cursor goes to the first solution. -/
  | first {outcome : Option (List Link)} {held : List Hold} {current after : Problem} :
      Reached start held current → Cursor.advance .fresh current = .ok outcome after →
      Reached start (.found (outcome.getD []) :: held) after
  /-- A cursor goes on to the next solution. -/
  | advance {answer : List Link} {outcome : Option (List Link)} {held : List Hold}
      {current after : Problem} :
      Reached start (.found answer :: held) current →
      Cursor.advance (.on answer) current = .ok outcome after →
      Reached start (.found (outcome.getD []) :: held) after
  /-- A cursor is closed. -/
  | close {answer : List Link} {held : List Hold} {current after : Problem} :
      Reached start (.found answer :: held) current →
      Cursor.close (.on answer) current = .ok () after → Reached start held after

/-- Only records are told from columns. -/
theorem Arena.lt_size_of_isHeader {arena : Arena} {place : Nat} {isHeader : Bool}
    (told : arena.isHeader (.record place) = .ok isHeader) : place < arena.size := by
  obtain ⟨node, found, -⟩ := ok_of_bind told
  exact lt_size_of_record found

namespace Layout

variable {layout : Layout} {start : Web} {covered path : List Nat} {policy : Policy} {hold : Hold}
  {held : List Hold}

/-! ## The trail of what is held -/

/-- Lists of decisions lead along a trail. Rows committed by hand are not met when their turn comes, and
answers are answers from where the lists below them lead to. -/
inductive Carries (layout : Layout) : List Hold → List Nat → Prop
  | none : Carries layout [] []
  | committed {held : List Hold} {covered path : List Nat} :
      Carries layout held covered → layout.Allows covered path →
      Carries layout (.committed (linksTo path) :: held) (layout.withRows covered path)
  | found {held : List Hold} {covered path : List Nat} :
      Carries layout held covered → layout.IsAnswer covered path →
      Carries layout (.found (linksTo path) :: held) (layout.withRows covered path)

/-- Any list that is held could have been committed by hand. -/
theorem Carries.allows (carries : layout.Carries (hold :: held) covered) :
    ∃ below path, layout.Carries held below ∧ layout.Allows below path ∧
      hold.decisions = linksTo path ∧ covered = layout.withRows below path := by
  cases carries with
  | committed below allowed => exact ⟨_, _, below, allowed, rfl, rfl⟩
  | found below isAnswer => exact ⟨_, _, below, isAnswer.allowed, rfl, rfl⟩

theorem Carries.trail {count : Nat} (sound : layout.Sound count) (proper : layout.Proper)
    (carries : layout.Carries held covered) : layout.IsTrail covered := by
  induction carries with
  | none => exact isTrail_nil
  | committed _ allowed ih => exact ih.withRows sound proper allowed
  | found _ isAnswer ih => exact ih.withRows sound proper isAnswer.allowed

/-- The trail holds the columns of the decisions in force, and no others. -/
theorem Carries.exists_decision (carries : layout.Carries held covered) {column : Nat}
    (isCovered : column ∈ covered) :
    ∃ node ∈ layout.nodes, Link.record node ∈ inForce held ∧ column ∈ layout.columnsOf node ∧
      ∀ other ∈ layout.columnsOf node, other ∈ covered := by
  induction held generalizing covered with
  | nil =>
      cases carries
      cases isCovered
  | cons hold held ih =>
      obtain ⟨below, path, under, allowed, decides, rfl⟩ := carries.allows
      rcases mem_withRows.1 isCovered with isOwn | isEarlier
      · obtain ⟨node, inPath, here⟩ := List.mem_flatMap.1 isOwn
        have isDecision : Link.record node ∈ inForce (hold :: held) := by
          rw [inForce, List.flatMap_cons, decides]
          exact List.mem_append_left _ (List.mem_map.2 ⟨node, inPath, rfl⟩)
        exact ⟨node, node_of_allows allowed node inPath, isDecision, here,
          fun other isOther => mem_withRows.2 (.inl (List.mem_flatMap.2 ⟨node, inPath, isOther⟩))⟩
      · obtain ⟨node, isNode, isDecision, here, all⟩ := ih under isEarlier
        exact ⟨node, isNode, List.mem_append_right _ isDecision, here,
          fun other isOther => mem_withRows.2 (.inr (all other isOther))⟩

/-- A decision in force covers a column at least, that of its record. -/
theorem Carries.exists_column (carries : layout.Carries held covered) {decision : Link}
    (isDecision : decision ∈ inForce held) : ∃ column, column ∈ covered := by
  induction held generalizing covered with
  | nil => cases isDecision
  | cons hold held ih =>
      obtain ⟨below, path, under, -, decides, rfl⟩ := carries.allows
      rcases List.mem_append.1 isDecision with isOwn | isEarlier
      · rw [decides] at isOwn
        obtain ⟨node, inPath, rfl⟩ := List.mem_map.1 isOwn
        have here : layout.column node ∈ layout.columnsOf node := by simp [columnsOf]
        exact ⟨_, mem_withRows.2 (.inl (List.mem_flatMap.2 ⟨node, inPath, here⟩))⟩
      · obtain ⟨column, isCovered⟩ := ih under isEarlier
        exact ⟨column, mem_withRows.2 (.inr isCovered)⟩

/-- Nothing is covered if no decision is in force. -/
theorem Carries.eq_nil_iff (carries : layout.Carries held covered) :
    covered = [] ↔ inForce held = [] := by
  constructor
  · rintro rfl
    by_contra nonempty
    obtain ⟨decision, isDecision⟩ := List.exists_mem_of_ne_nil _ nonempty
    obtain ⟨column, isCovered⟩ := carries.exists_column isDecision
    cases isCovered
  · intro empty
    by_contra nonempty
    obtain ⟨column, isCovered⟩ := List.exists_mem_of_ne_nil _ nonempty
    obtain ⟨node, -, isDecision, -⟩ := carries.exists_decision isCovered
    rw [empty] at isDecision
    cases isDecision

section

variable (proper : layout.Proper) (built : start.Shows layout []) (trail : layout.IsTrail covered)
include proper built trail

/-- The columns of a row are the same at every trail. -/
theorem rowColumns_web {node : Nat} (isNode : node ∈ layout.nodes) (updates : Nat) :
    ((layout.web start covered).arena updates).rowColumns (.record node) =
      .ok (linksTo (layout.columnsOf node)) := by
  have columns : ((node :: layout.others node).map fun member : Nat => Link.record member).mapM
      ((layout.web start covered).arena updates).columnOf =
        .ok ((node :: layout.others node).map fun member => .record (layout.column member)) := by
    rw [List.mapM_map]
    apply mapM_of_ok
    intro member inside
    have isMember : member ∈ layout.nodes := by
      rcases List.mem_cons.1 inside with rfl | isOther
      · exact isNode
      · exact built.sound.node_of_mem_others isNode isOther
    exact columnOf_web proper built trail isMember updates
  simp only [Arena.rowColumns, row_web proper built trail isNode, bind, Except.bind, columns]
  simp [linksTo, columnsOf, Function.comp_def]

omit trail in
/-- Rows share no column in the arena if they share none in the layout. -/
theorem rowsApart_iff {one other : Nat} (isOne : one ∈ layout.nodes) (isOther : other ∈ layout.nodes)
    {updates : Nat} :
    (start.arena updates).RowsApart (.record one) (.record other) ↔
      (layout.columnsOf one).Disjoint (layout.columnsOf other) := by
  have ofOne := @rowColumns_web _ start [] proper built isTrail_nil one isOne updates
  have ofOther := @rowColumns_web _ start [] proper built isTrail_nil other isOther updates
  constructor
  · rintro ⟨columns, others, readOne, readOther, apart⟩ column inOne inOther
    cases ofOne.symm.trans readOne
    cases ofOther.symm.trans readOther
    exact apart (List.mem_map.2 ⟨column, inOne, rfl⟩) (List.mem_map.2 ⟨column, inOther, rfl⟩)
  · intro apart
    refine ⟨_, _, ofOne, ofOther, List.disjoint_map (fun column column' same => ?_) apart⟩
    exact Int.ofNat.inj (Link.record.inj same)

/-- What is told from a column is a record of a row. -/
theorem node_of_isHeader {place updates : Nat}
    (isHeader : ((layout.web start covered).arena updates).isHeader (.record place) = .ok false) :
    place ∈ layout.nodes := by
  have inside := Arena.lt_size_of_isHeader isHeader
  rw [Web.size_arena, count_web] at inside
  rw [isHeader_web proper built trail inside] at isHeader
  have noHeader := of_decide_eq_false (Except.ok.inj isHeader)
  exact (built.sound.lt_count_iff.1 inside).resolve_left noHeader

omit trail in
/-- A row that shares no column with those in force is not met. -/
theorem Carries.free {node : Nat} (carries : layout.Carries held covered)
    (isNode : node ∈ layout.nodes) {updates : Nat}
    (apart : ∀ decision ∈ inForce held,
      (start.arena updates).RowsApart decision (.record node)) :
    layout.meets covered node = false := by
  rw [meets_eq_false]
  intro column isCovered isOwn
  obtain ⟨other, isOther, isDecision, here, -⟩ := carries.exists_decision isCovered
  exact (rowsApart_iff proper built isOther isNode).1 (apart _ isDecision) here isOwn

end

/-! ## What is done keeps to the trail -/

section

variable (proper : layout.Proper) (built : start.Shows layout [])
  (small : ∀ column ∈ layout.primary,
    ((layout.members column).length : Int) < Arena.sizeBound)
include proper built small

/-- A cursor goes from an answer to the next one. -/
theorem goOn_web (trail : layout.IsTrail covered) (isAnswer : layout.IsAnswer covered path)
    (updates primaryCount : Nat) :
    ∃ outcome answer more, outcome.getD [] = linksTo answer ∧ layout.IsAnswer covered answer ∧
      Cursor.goOn (linksTo path)
          ⟨(layout.web start (layout.withRows covered path)).arena updates, policy, primaryCount⟩ =
        .ok outcome
          ⟨(layout.web start (layout.withRows covered answer)).arena more, policy, primaryCount⟩ := by
  obtain ⟨answer, more, advances, -⟩ := advances_of_isAnswer proper built (fun _ => small) trail
    isAnswer updates primaryCount
  refine ⟨_, answer, more, ?_, advances.1, goOn_of_advances advances primaryCount⟩
  cases answer <;> rfl

/-- **The arena is told by what is held.** -/
theorem reached_web {updates primaryCount : Nat} {current : Problem}
    (reached : Problem.Reached ⟨start.arena updates, policy, primaryCount⟩ held current) :
    ∃ covered more, layout.Carries held covered ∧
      current = ⟨(layout.web start covered).arena more, policy, primaryCount⟩ := by
  induction reached with
  | start => exact ⟨[], updates, .none, rfl⟩
  | begin _ ih =>
      obtain ⟨covered, more, carries, rfl⟩ := ih
      exact ⟨_, more, @Carries.committed _ _ _ [] carries trivial, rfl⟩
  | drop _ empty ih =>
      obtain ⟨_, more, carries, rfl⟩ := ih
      obtain ⟨below, path, under, -, decides, rfl⟩ := carries.allows
      obtain rfl : path = [] := linksTo_injective (decides.symm.trans empty)
      exact ⟨below, more, under, rfl⟩
  | join _ ih =>
      obtain ⟨_, more, carries, rfl⟩ := ih
      obtain ⟨_, path, between, allowed, decides, rfl⟩ := carries.allows
      obtain ⟨below, earlier, under, allowed', decides', rfl⟩ := between.allows
      rw [decides, decides', ← linksTo_append, ← withRows_append]
      exact ⟨_, more, .committed under (allows_append.2 ⟨allowed', allowed⟩), rfl⟩
  | @commit node _ _ _ _ _ _ isRow apart committed ih =>
      obtain ⟨_, more, carries, rfl⟩ := ih
      have isNode := @node_of_isHeader _ _ [] proper built isTrail_nil _ _ isRow
      have free := carries.free proper built isNode apart
      obtain ⟨between, commits⟩ := commit_web proper built isNode
        ((carries.trail built.sound proper).withRow built.sound proper isNode free) more
        primaryCount _
      cases committed.symm.trans commits
      obtain ⟨below, path, under, allowed, decides, rfl⟩ := carries.allows
      rw [decides]
      have further := Carries.committed under (allows_concat.2 ⟨allowed, isNode, free⟩)
      rw [linksTo_append, withRows_append] at further
      exact ⟨_, between, further, rfl⟩
  | undo _ split undone ih =>
      obtain ⟨_, more, carries, rfl⟩ := ih
      obtain ⟨below, path, under, allowed, decides, rfl⟩ := carries.allows
      obtain ⟨early, late, rfl, rfl, rfl⟩ := List.map_eq_append_iff.1 (decides.symm.trans split)
      obtain ⟨first, second⟩ := allows_append.1 allowed
      have trail := (under.trail built.sound proper).withRows built.sound proper first
      rw [withRows_append] at undone
      cases undone.symm.trans (undone_web proper built trail second more primaryCount)
      exact ⟨_, more, .committed under first, rfl⟩
  | search _ returned ih =>
      obtain ⟨below, more, carries, rfl⟩ := ih
      obtain ⟨path, isAnswer, calls⟩ := next_of_isAnswer proper built small
        (carries.trail built.sound proper) policy isAnswer_nil
      obtain ⟨later, called⟩ := calls more primaryCount
      cases returned.symm.trans called
      exact ⟨_, later, .found carries isAnswer, rfl⟩
  | next _ returned ih =>
      obtain ⟨_, more, carries, rfl⟩ := ih
      obtain _ | _ | ⟨under, isAnswer⟩ := carries
      obtain ⟨path, isNext, calls⟩ := next_of_isAnswer proper built small
        (under.trail built.sound proper) policy isAnswer
      obtain ⟨later, called⟩ := calls more primaryCount
      cases returned.symm.trans called
      exact ⟨_, later, .found under isNext, rfl⟩
  | @sample σ draw source _ _ _ _ _ _ returned ih =>
      obtain ⟨below, more, carries, rfl⟩ := ih
      obtain ⟨path, later, -, isAnswer, called⟩ := @sample_web σ draw layout start below proper
        built small (carries.trail built.sound proper) more primaryCount policy source
      cases returned.symm.trans called
      exact ⟨_, later, .found carries isAnswer, rfl⟩
  | @solutions limit _ _ _ _ _ returned ih =>
      obtain ⟨below, more, carries, rfl⟩ := ih
      obtain ⟨later, collected⟩ := @solutions_web layout start below policy proper built
        (fun _ => small) (carries.trail built.sound proper) limit more primaryCount
      cases returned.symm.trans collected
      exact ⟨below, later, carries, rfl⟩
  | first _ returned ih =>
      obtain ⟨below, more, carries, rfl⟩ := ih
      obtain ⟨outcome, path, later, gives, isAnswer, advanced⟩ := goOn_web proper built small
        (carries.trail built.sound proper) isAnswer_nil more primaryCount
      cases returned.symm.trans advanced
      rw [gives]
      exact ⟨_, later, .found carries isAnswer, rfl⟩
  | advance _ returned ih =>
      obtain ⟨_, more, carries, rfl⟩ := ih
      obtain _ | _ | ⟨under, isAnswer⟩ := carries
      obtain ⟨outcome, path, later, gives, isNext, advanced⟩ := goOn_web proper built small
        (under.trail built.sound proper) isAnswer more primaryCount
      cases returned.symm.trans advanced
      rw [gives]
      exact ⟨_, later, .found under isNext, rfl⟩
  | close _ returned ih =>
      obtain ⟨_, more, carries, rfl⟩ := ih
      obtain _ | _ | ⟨under, isAnswer⟩ := carries
      rw [Cursor.close] at returned
      cases returned.symm.trans (undone_web proper built (under.trail built.sound proper)
        isAnswer.allowed more primaryCount)
      exact ⟨_, more, under, rfl⟩

/-- **Committing a row never fails**, if it shares no column with those in force. -/
theorem commit_reached {updates primaryCount : Nat} {current : Problem}
    (reached : Problem.Reached ⟨start.arena updates, policy, primaryCount⟩ (hold :: held) current)
    {node : Nat} (isNode : node ∈ layout.nodes)
    (apart : ∀ decision ∈ inForce (hold :: held),
      (start.arena updates).RowsApart decision (.record node)) :
    ∃ after, Problem.Reached ⟨start.arena updates, policy, primaryCount⟩
      (.committed (hold.decisions ++ [.record node]) :: held) after := by
  obtain ⟨covered, more, carries, rfl⟩ := reached_web proper built small reached
  have isRow : (start.arena updates).isHeader (.record node) = .ok false := by
    have told := @isHeader_web _ _ [] proper built isTrail_nil _ (built.sound.node_lt isNode) updates
    rwa [decide_eq_false fun isHeader => built.sound.header_not_node isHeader isNode] at told
  have further := (carries.trail built.sound proper).withRow built.sound proper isNode
    (carries.free proper built isNode apart)
  obtain ⟨later, commits⟩ := commit_web proper built isNode further more primaryCount hold.decisions
  exact ⟨_, reached.commit isRow apart commits⟩

/-- **Undoing the last decisions never fails.** -/
theorem undo_reached {updates primaryCount : Nat} {current : Problem}
    (reached : Problem.Reached ⟨start.arena updates, policy, primaryCount⟩ (hold :: held) current)
    {early late : List Link} (split : hold.decisions = early ++ late) :
    ∃ after, Problem.Reached ⟨start.arena updates, policy, primaryCount⟩
      (.committed early :: held) after := by
  obtain ⟨_, more, carries, rfl⟩ := reached_web proper built small reached
  obtain ⟨below, path, under, allowed, decides, rfl⟩ := carries.allows
  obtain ⟨before, rest, rfl, rfl, rfl⟩ := List.map_eq_append_iff.1 (decides.symm.trans split)
  obtain ⟨first, second⟩ := allows_append.1 allowed
  have trail := (under.trail built.sound proper).withRows built.sound proper first
  have undoes := @undone_web layout start _ rest policy proper built trail second more primaryCount
  rw [← withRows_append] at undoes
  exact ⟨_, reached.undo split undoes⟩

end

end Layout

end ExactCover
