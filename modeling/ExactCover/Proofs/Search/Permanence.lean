import ExactCover.Matrix.Problem
import ExactCover.Proofs.CommandLine.Printing
import ExactCover.Proofs.Search.Histories
import ExactCover.Proofs.Search.Progress
import ExactCover.Proofs.Search.Trying
import ExactCover.Queens.Problem

/-!
# What never changes

Solutions are read off an arena of which most is taken out of its rings at that moment. They are read
along the rows, and what is said there never changes: the records of a row keep their neighbours to the
left and to the right and their columns, and columns keep their names.

Covering a column does write links to the left and to the right, namely those of the neighbours of the
column on its own ring. These are columns themselves, as long as every covered column was on its ring
when it was covered (`AreHeaders.across_web`). So what counts is that columns are covered and uncovered
in order, whoever does it: a caller by hand, by committing rows or by undoing them (`Problem.Worked`), or
a search with each of its actions (`Problem.Moment`). At any moment the arena is the web of different
columns that were covered one after the other (`worked_web`, `moment_web`).

Main statement: `rows_stay_readable`.
-/

set_option autoImplicit false

namespace ExactCover

/-! ## What is done -/

/-- The columns of the rows of decisions, in the order in which they are covered. -/
def Arena.decisionColumns (arena : Arena) (decisions : List Link) : Except LinkError (List Link) := do
  return (← decisions.mapM arena.rowColumns).flatten

/-- What can be done with a problem, step by step: the columns that are covered then, the latest first,
and the problem as it is then. Columns may be covered by hand, the root among them, and whatever covered
a column, it may be uncovered by hand if it was covered last. Nothing is decided or searched while the
root is covered. -/
inductive Problem.Worked (start : Problem) : List Link → Problem → Prop
  /-- Nothing has been done. -/
  | start : Worked start [] start
  | cover {column : Nat} {covered : List Link} {current after : Problem} :
      Worked start covered current →
      start.arena.isHeader (.record column) = .ok true → .record column ∉ covered →
      Problem.links (Arena.cover (.record column)) current = .ok () after →
      Worked start (.record column :: covered) after
  | uncover {column : Link} {covered : List Link} {current after : Problem} :
      Worked start (column :: covered) current →
      Problem.links (Arena.uncover column) current = .ok () after → Worked start covered after
  /-- A row is committed that has no column covered. -/
  | commit {node : Nat} {decisions later columns covered : List Link} {current after : Problem} :
      Worked start covered current → root ∉ covered →
      start.arena.isHeader (.record node) = .ok false →
      start.arena.rowColumns (.record node) = .ok columns → columns.Disjoint covered →
      Problem.commit (.record node) decisions current = .ok later after →
      Worked start (columns.reverse ++ covered) after
  /-- Decisions are undone whose columns were covered last. -/
  | undo {path : List Nat} {columns covered : List Link} {current after : Problem} :
      Worked start (columns.reverse ++ covered) current → root ∉ covered →
      (∀ node ∈ path, start.arena.isHeader (.record node) = .ok false) →
      start.arena.decisionColumns (linksTo path) = .ok columns →
      Problem.undo (linksTo path) current = .ok () after → Worked start covered after
  | search {answer columns covered : List Link} {current after : Problem} :
      Worked start covered current → root ∉ covered →
      Problem.search current = .ok answer after → start.arena.decisionColumns answer = .ok columns →
      Worked start (columns.reverse ++ covered) after
  /-- The search goes on from an answer that was found where the other columns were covered. -/
  | next {answer later columns others covered : List Link} {before found current after : Problem} :
      Worked start covered before → root ∉ covered → Problem.Found before answer found →
      start.arena.decisionColumns answer = .ok columns →
      Worked start (columns.reverse ++ covered) current →
      Problem.next answer current = .ok later after → start.arena.decisionColumns later = .ok others →
      Worked start (others.reverse ++ covered) after
  /-- A random search with any source. -/
  | sample {σ : Type} {draw : σ → Nat → Nat × σ} {source later : σ} {answer columns covered : List Link}
      {current after : Problem} :
      Worked start covered current → root ∉ covered →
      Problem.sample draw source current = (.ok answer after, later) →
      start.arena.decisionColumns answer = .ok columns →
      Worked start (columns.reverse ++ covered) after

/-- A problem at any moment: between two calls, or within a call before one of its actions. -/
inductive Problem.Moment (start : Problem) : Problem → Prop
  | between {covered : List Link} {current : Problem} :
      Worked start covered current → Moment start current
  /-- Within the call that finds the first answer. -/
  | searching {covered : List Link} {current : Problem} {number : Nat} {action : Action}
      {search : Search} :
      Worked start covered current → root ∉ covered →
      Search.ComesTo current.policy ⟨current.arena, []⟩ number action search →
      Moment start { current with arena := search.arena }
  /-- Within a call that goes on from an answer. -/
  | goingOn {answer columns covered : List Link} {before found current : Problem} {number : Nat}
      {action : Action} {search : Search} :
      Worked start covered before → root ∉ covered → Problem.Found before answer found →
      start.arena.decisionColumns answer = .ok columns →
      Worked start (columns.reverse ++ covered) current →
      Search.ComesTo current.policy ⟨current.arena, answer.reverse⟩ number action search →
      Moment start { current with arena := search.arena }
  /-- Within a random search. -/
  | sampling {σ : Type} {draw : σ → Nat → Nat × σ} {source : σ} {tried : List (List Link)}
      {covered : List Link} {current : Problem} {action : Action} {sampling : Sampling σ} :
      Worked start covered current → root ∉ covered → current.arena.isSolved = .ok false →
      Sampling.Passes draw ⟨current.arena, [], [], source⟩ (some action) sampling tried →
      Moment start { current with arena := sampling.arena }

/-! ## What covering leaves alone -/

@[simp] theorem Web.column_dropAll {layout : Layout} (web : Web) (nodes : List Nat) :
    (web.dropAll layout nodes).column = web.column := by
  induction nodes generalizing web with
  | nil => rfl
  | cons node nodes ih => exact ih _

/-- What is read off rows is all that is printed of decisions. -/
theorem Arena.decisionsText_congr {one other : Arena} {decisions : List Link}
    (same : ∀ decision ∈ decisions, one.rowNames decision = other.rowNames decision) :
    one.decisionsText decisions = other.decisionsText decisions := by
  have texts : decisions.mapM one.rowText = decisions.mapM other.rowText := by
    induction decisions with
    | nil => rfl
    | cons decision decisions ih =>
        obtain ⟨first, rest⟩ := List.forall_mem_cons.1 same
        have text : one.rowText decision = other.rowText decision := by
          rw [Arena.rowText, Arena.rowText, first]
        rw [List.mapM_cons, List.mapM_cons, text, ih rest]
  rw [Arena.decisionsText, Arena.decisionsText, texts]

namespace Layout

variable {layout : Layout} {start : Web} {covered path : List Nat} {policy : Policy}

/-- No record changes its column. -/
theorem home_web (covered : List Nat) : (layout.web start covered).column = start.column := by
  induction covered with
  | nil => rfl
  | cons last earlier ih =>
      rw [web, Web.cover, Web.column_dropAll, ← ih]
      rfl

/-- Decisions cover the columns of their rows. -/
theorem withRows_eq (covered path : List Nat) :
    layout.withRows covered path = (path.flatMap layout.columnsOf).reverse ++ covered := by
  induction path generalizing covered with
  | nil => rfl
  | cons node path ih =>
      rw [withRows_cons, ih, withRow, List.flatMap_cons, List.reverse_append, List.append_assoc]

/-- Columns other than the root make a trail. -/
theorem AreHeaders.isTrail (areHeaders : layout.AreHeaders covered) (isRoot : root ∉ linksTo covered) :
    layout.IsTrail covered := by
  refine ⟨areHeaders.once, fun column inside => ?_⟩
  rcases mem_headerRings_flatten.1 (areHeaders.headers column inside) with rfl | isColumn
  · exact absurd (List.mem_map.2 ⟨0, inside, rfl⟩) isRoot
  · exact isColumn

/-- Rows can be decided for if their columns are different ones. -/
theorem allows_of_once (areNodes : ∀ node ∈ path, node ∈ layout.nodes)
    (once : (layout.withRows covered path).Nodup) : layout.Allows covered path := by
  induction path generalizing covered with
  | nil => trivial
  | cons node path ih =>
      obtain ⟨isNode, others⟩ := List.forall_mem_cons.1 areNodes
      refine ⟨isNode, meets_eq_false.2 fun column isCovered isOwn => ?_, ih others once⟩
      rw [withRows_cons, withRows_eq] at once
      have apart := (List.nodup_append.1 (List.nodup_append.1 once).2.1).2.2
      exact apart column (List.mem_reverse.2 isOwn) column isCovered rfl

section

variable (proper : layout.Proper) (built : start.Shows layout [])
include proper built

/-- **Covering writes links to the left and to the right of columns only.** -/
theorem AreHeaders.across_web (areHeaders : layout.AreHeaders covered) {node : Nat}
    (isNode : node ∈ layout.nodes) :
    (layout.web start covered).across.next node = start.across.next node ∧
      (layout.web start covered).across.prev node = start.across.prev node := by
  induction covered with
  | nil => exact ⟨rfl, rfl⟩
  | cons last earlier ih =>
      obtain ⟨isHeader, uncovered, before⟩ := areHeaders_cons.1 areHeaders
      have shown := before.shows proper built
      obtain ⟨ring, isRing, -, -, -, nextInside, prevInside⟩ := shown.sideways isHeader uncovered
      have apart : ∀ place ∈ ring.filter (· ∉ earlier), node ≠ place := by
        rintro place inside rfl
        exact shown.sound.header_not_node
          (List.mem_flatten.2 ⟨ring, isRing, List.mem_of_mem_filter inside⟩) isNode
      have spliced : (layout.web start (last :: earlier)).across =
          (layout.web start earlier).across.unlink last := by
        rw [web, Web.cover, Web.across_dropAll]
        rfl
      obtain ⟨toRight, toLeft⟩ := ih before
      rw [spliced, ← toRight, ← toLeft]
      exact ⟨Function.update_of_ne (apart _ prevInside) _ _,
        Function.update_of_ne (apart _ nextInside) _ _⟩

/-- A record that is told to be a column is one. -/
theorem header_of_isHeader {place updates : Nat}
    (isHeader : (start.arena updates).isHeader (.record place) = .ok true) :
    place ∈ layout.headerRings.flatten := by
  have inside := Arena.lt_size_of_isHeader isHeader
  rw [Web.size_arena] at inside
  have told := @isHeader_web layout start [] proper built isTrail_nil place inside updates
  exact of_decide_eq_true (Except.ok.inj (told.symm.trans isHeader))

/-- The columns of decisions. -/
theorem decisionColumns_web (areNodes : ∀ node ∈ path, node ∈ layout.nodes) (updates : Nat) :
    (start.arena updates).decisionColumns (linksTo path) =
      .ok (linksTo (path.flatMap layout.columnsOf)) := by
  have columns : (linksTo path).mapM (start.arena updates).rowColumns =
      .ok (path.map fun node => linksTo (layout.columnsOf node)) := by
    rw [linksTo, List.mapM_map]
    exact mapM_of_ok fun node inside =>
      @rowColumns_web layout start [] proper built isTrail_nil node (areNodes node inside) updates
  simp only [Arena.decisionColumns, columns, bind, Except.bind, pure, Except.pure, List.flatMap]
  rw [linksTo_flatten, List.map_map]
  rfl

/-- Decisions lead to where their columns are covered on top of the others. -/
theorem linksTo_withRows (areNodes : ∀ node ∈ path, node ∈ layout.nodes) {updates : Nat}
    {columns : List Link}
    (read : (start.arena updates).decisionColumns (linksTo path) = .ok columns) :
    columns.reverse ++ linksTo covered = linksTo (layout.withRows covered path) := by
  obtain rfl := Except.ok.inj ((decisionColumns_web proper built areNodes updates).symm.trans read)
  rw [withRows_eq, linksTo_append, linksTo_reverse]

/-- Where the columns of decisions are covered on top of others, the decisions have led there. -/
theorem eq_withRows (areNodes : ∀ node ∈ path, node ∈ layout.nodes) {updates : Nat}
    {columns below : List Link} {all : List Nat}
    (read : (start.arena updates).decisionColumns (linksTo path) = .ok columns)
    (same : columns.reverse ++ below = linksTo all) :
    ∃ covered, below = linksTo covered ∧ all = layout.withRows covered path := by
  obtain ⟨_, covered, -, -, rfl⟩ := List.map_eq_append_iff.1 same.symm
  exact ⟨covered, rfl,
    linksTo_injective (same.symm.trans (linksTo_withRows proper built areNodes read))⟩

variable (small : ∀ column ∈ layout.primary, ((layout.members column).length : Int) < Arena.sizeBound)
include small

/-- **What is covered tells the arena**, whatever has been done to cover it. -/
theorem worked_web {updates primaryCount : Nat} {columns : List Link} {current : Problem}
    (worked : Problem.Worked ⟨start.arena updates, policy, primaryCount⟩ columns current) :
    ∃ covered more, columns = linksTo covered ∧ layout.AreHeaders covered ∧
      current = ⟨(layout.web start covered).arena more, policy, primaryCount⟩ := by
  induction worked with
  | start => exact ⟨[], updates, rfl, isTrail_nil.areHeaders, rfl⟩
  | @cover column _ _ _ _ isHeader uncovered covers ih =>
      obtain ⟨covered, more, rfl, areHeaders, rfl⟩ := ih
      have further : layout.AreHeaders (column :: covered) := areHeaders_cons.2
        ⟨header_of_isHeader proper built isHeader,
          fun inside => uncovered (List.mem_map.2 ⟨column, inside, rfl⟩), areHeaders⟩
      cases covers.symm.trans (Problem.links_of_ok (further.cover proper built more))
      exact ⟨column :: covered, _, rfl, further, rfl⟩
  | uncover _ uncovers ih =>
      obtain ⟨all, more, same, areHeaders, rfl⟩ := ih
      obtain ⟨column, covered, rfl, rfl, rfl⟩ := List.map_eq_cons_iff.1 same.symm
      cases uncovers.symm.trans (Problem.links_of_ok (areHeaders.uncover proper built more))
      exact ⟨covered, more, rfl, (areHeaders_cons.1 areHeaders).2.2, rfl⟩
  | @commit node decisions _ _ _ _ _ _ noRoot isRow read apart commits ih =>
      obtain ⟨covered, more, rfl, areHeaders, rfl⟩ := ih
      have isNode := @node_of_isHeader layout start [] proper built isTrail_nil _ _ isRow
      obtain rfl := Except.ok.inj
        ((@rowColumns_web layout start [] proper built isTrail_nil node isNode updates).symm.trans read)
      have free : layout.meets covered node = false := meets_eq_false.2 fun column isCovered isOwn =>
        apart (List.mem_map.2 ⟨column, isOwn, rfl⟩) (List.mem_map.2 ⟨column, isCovered, rfl⟩)
      have further := (areHeaders.isTrail noRoot).withRow built.sound proper isNode free
      obtain ⟨later, committed⟩ :=
        @commit_web layout start covered policy proper built node isNode further more primaryCount decisions
      cases commits.symm.trans committed
      refine ⟨layout.withRow covered node, later, ?_, further.areHeaders, rfl⟩
      rw [withRow, linksTo_append, linksTo_reverse]
  | @undo path _ _ _ _ _ noRoot areRows read undoes ih =>
      obtain ⟨all, more, same, areHeaders, rfl⟩ := ih
      have areNodes : ∀ node ∈ path, node ∈ layout.nodes := fun node inside =>
        @node_of_isHeader layout start [] proper built isTrail_nil _ _ (areRows node inside)
      obtain ⟨covered, rfl, rfl⟩ := eq_withRows proper built areNodes read same
      have before : layout.AreHeaders covered :=
        areHeaders.of_suffix (withRows_eq covered path ▸ List.suffix_append _ _)
      cases undoes.symm.trans (undone_web proper built (before.isTrail noRoot)
        (allows_of_once areNodes areHeaders.once) more primaryCount)
      exact ⟨covered, more, rfl, before, rfl⟩
  | search _ noRoot returned read ih =>
      obtain ⟨covered, more, rfl, areHeaders, rfl⟩ := ih
      have trail := areHeaders.isTrail noRoot
      obtain ⟨path, isAnswer, calls⟩ := next_of_isAnswer proper built small trail policy isAnswer_nil
      obtain ⟨later, called⟩ := calls more primaryCount
      cases returned.symm.trans called
      exact ⟨_, later, linksTo_withRows proper built (node_of_allows isAnswer.allowed) read,
        (trail.withRows built.sound proper isAnswer.allowed).areHeaders, rfl⟩
  | next _ noRoot found read _ returned readLater ihBefore ih =>
      obtain ⟨covered, _, rfl, areHeaders, rfl⟩ := ihBefore
      obtain ⟨_, more, same, -, rfl⟩ := ih
      have trail := areHeaders.isTrail noRoot
      obtain ⟨path, _, rfl, isAnswer, rfl⟩ := found_web proper built small trail found
      obtain ⟨_, isBelow, rfl⟩ :=
        eq_withRows proper built (node_of_allows isAnswer.allowed) read same
      obtain rfl := linksTo_injective isBelow
      obtain ⟨answer, isNext, calls⟩ := next_of_isAnswer proper built small trail policy isAnswer
      obtain ⟨later, called⟩ := calls more primaryCount
      cases returned.symm.trans called
      exact ⟨_, later, linksTo_withRows proper built (node_of_allows isNext.allowed) readLater,
        (trail.withRows built.sound proper isNext.allowed).areHeaders, rfl⟩
  | @sample σ draw source _ _ _ _ _ _ _ noRoot returned read ih =>
      obtain ⟨covered, more, rfl, areHeaders, rfl⟩ := ih
      have trail := areHeaders.isTrail noRoot
      obtain ⟨path, later, -, isAnswer, called⟩ := @sample_web σ draw layout start covered proper
        built small trail more primaryCount policy source
      cases returned.symm.trans called
      exact ⟨_, later, linksTo_withRows proper built (node_of_allows isAnswer.allowed) read,
        (trail.withRows built.sound proper isAnswer.allowed).areHeaders, rfl⟩

omit small in
/-- The machine of a search stands at a trail. -/
theorem Stands.web (trail : layout.IsTrail covered) {action : Action} {search : Search}
    (stands : layout.Stands start covered action search) :
    ∃ beyond more, layout.AreHeaders beyond ∧ search.arena = (layout.web start beyond).arena more := by
  cases stands with
  | choose isPath _ =>
      exact ⟨_, _, (trail.withRows built.sound proper isPath.allowed).areHeaders, rfl⟩
  | enter isPath isActive _ =>
      have further := trail.withRows built.sound proper isPath.allowed
      exact ⟨_, _, (isTrail_cons.2
        ⟨column_of_mem_active isActive, (mem_active.1 isActive).2, further⟩).areHeaders, rfl⟩
  | retry isPath =>
      exact ⟨_, _, (trail.withRows built.sound proper isPath.allowed).areHeaders, rfl⟩

omit small in
/-- So does the machine of a random search. -/
theorem Stocked.web {σ : Type} (trail : layout.IsTrail covered) {action : Action}
    {sampling : Sampling σ} {tried : List (List Link)}
    (stocked : layout.Stocked start covered (some action) sampling tried) :
    ∃ beyond more, layout.AreHeaders beyond ∧
      sampling.arena = (layout.web start beyond).arena more := by
  cases stocked with
  | choose shelved _ => exact ⟨_, _, (shelved.isTrail proper built trail).areHeaders, rfl⟩
  | row shelved isActive _ =>
      exact ⟨_, _, (shelved.isTrail_cons proper built trail isActive).areHeaders, rfl⟩
  | column shelved isActive _ =>
      exact ⟨_, _, (shelved.isTrail_cons proper built trail isActive).areHeaders, rfl⟩
  | retry shelved => exact ⟨_, _, (shelved.isTrail proper built trail).areHeaders, rfl⟩

/-- Within a call the arena is told by what is covered as well. -/
theorem comesTo_web (trail : layout.IsTrail covered) (isAnswer : layout.IsAnswer covered path)
    {updates number : Nat} {action : Action} {search : Search}
    (comes : Search.ComesTo policy
      ⟨(layout.web start (layout.withRows covered path)).arena updates, (linksTo path).reverse⟩
      number action search) :
    ∃ beyond more, layout.AreHeaders beyond ∧ search.arena = (layout.web start beyond).arena more := by
  obtain ⟨solved, isSolved, run⟩ := comes
  have stands := stands_of_isAnswer proper built trail isAnswer isSolved
  exact (stands.of_runs proper built (fun _ => small) trail run).web proper built trail

/-- **At any moment the arena is the web of different columns** that were covered one after the other. -/
theorem moment_web {updates primaryCount : Nat} {now : Problem}
    (moment : Problem.Moment ⟨start.arena updates, policy, primaryCount⟩ now) :
    ∃ covered more, layout.AreHeaders covered ∧
      now.arena = (layout.web start covered).arena more := by
  cases moment with
  | between worked =>
      obtain ⟨covered, more, -, areHeaders, rfl⟩ := worked_web proper built small worked
      exact ⟨covered, more, areHeaders, rfl⟩
  | searching worked noRoot comes =>
      obtain ⟨covered, more, rfl, areHeaders, rfl⟩ := worked_web proper built small worked
      exact comesTo_web proper built small (areHeaders.isTrail noRoot) isAnswer_nil comes
  | goingOn before noRoot found read worked comes =>
      obtain ⟨covered, _, rfl, areHeaders, rfl⟩ := worked_web proper built small before
      obtain ⟨_, more, same, -, rfl⟩ := worked_web proper built small worked
      have trail := areHeaders.isTrail noRoot
      obtain ⟨path, _, rfl, isAnswer, rfl⟩ := found_web proper built small trail found
      obtain ⟨_, isBelow, rfl⟩ :=
        eq_withRows proper built (node_of_allows isAnswer.allowed) read same
      obtain rfl := linksTo_injective isBelow
      exact comesTo_web proper built small trail isAnswer comes
  | @sampling σ draw source _ _ _ _ _ worked noRoot unsolved passes =>
      obtain ⟨covered, more, rfl, areHeaders, rfl⟩ := worked_web proper built small worked
      have trail := areHeaders.isTrail noRoot
      have nonempty : layout.active covered ≠ [] := fun empty => by
        rw [isSolved_web proper built trail more, empty] at unsolved
        cases unsolved
      exact (stocked_of_passes proper built trail small nonempty passes).web proper built trail

end

end Layout

/-! ## Problems that were built -/

/-- **Rows stay readable.** At any moment, whatever is covered by hand, by committed rows or by a search,
no record has changed its column or its name, and no record of a row its neighbours to the left and to
the right. So for every record of a row its row, the names of the columns of its row and its column are
what they were when the problem was built; and so are the text of any decisions, the matrix rows that
they stand for, the square of a record and the board of any decisions. (No column has more rows than a
search can count.) -/
theorem rows_stay_readable {problem : Problem} {layout : Layout} (builtAs : BuiltAs problem layout)
    (small : ∀ column ∈ layout.primary, ((layout.members column).length : Int) < Arena.sizeBound)
    {now : Problem} (moment : problem.Moment now) :
    now.arena.size = problem.arena.size ∧
    (∀ place < problem.arena.size, ∃ before after : Node,
      problem.arena.record (.record place) = .ok before ∧ now.arena.record (.record place) = .ok after ∧
        after.column = before.column ∧
        after.header.map Header.name = before.header.map Header.name ∧
        (place ∈ layout.nodes → after.left = before.left ∧ after.right = before.right)) ∧
    (∀ node ∈ layout.nodes, ∃ members names column,
      problem.arena.row (.record node) = .ok members ∧ now.arena.row (.record node) = .ok members ∧
        problem.arena.rowNames (.record node) = .ok names ∧
        now.arena.rowNames (.record node) = .ok names ∧
        problem.arena.columnOf (.record node) = .ok column ∧
        now.arena.columnOf (.record node) = .ok column) ∧
    (∀ path : List Nat, (∀ node ∈ path, node ∈ layout.nodes) → ∃ text,
      problem.arena.decisionsText (linksTo path) = .ok text ∧
        now.arena.decisionsText (linksTo path) = .ok text) ∧
    (∀ (matrix : MatrixProblem) (decisions : List Link),
      { matrix with problem := now }.rowsOf decisions = { matrix with problem }.rowsOf decisions) ∧
    ∀ queens : QueensProblem,
      (∀ node : Link,
        { queens with problem := now }.placement node = { queens with problem }.placement node) ∧
      ∀ decisions : List Link,
        { queens with problem := now }.board decisions = { queens with problem }.board decisions := by
  obtain ⟨web, updates, policy, rfl, shown⟩ := builtAs.shows
  have proper := builtAs.proper
  obtain ⟨covered, more, areHeaders, isArena⟩ := Layout.moment_web proper shown small moment
  have later := areHeaders.shows proper shown
  have names : ∀ node ∈ layout.nodes,
      now.arena.rowNames (.record node) = (web.arena updates).rowNames (.record node) := by
    intro node isNode
    rw [isArena, later.rowNames_arena proper isNode, shown.rowNames_arena proper isNode,
      Layout.nameOf_web]
  refine ⟨?_, ?_, ?_, ?_, fun _ _ => rfl, fun _ => ⟨fun _ => rfl, fun _ => rfl⟩⟩
  · rw [isArena, Web.size_arena, Web.size_arena, Layout.count_web]
  · intro place inside
    rw [Web.size_arena] at inside
    have within : place < (layout.web web covered).count := by rwa [Layout.count_web]
    refine ⟨web.node place, (layout.web web covered).node place, web.record_arena inside, ?_, ?_, ?_, ?_⟩
    · rw [isArena, Web.record_arena _ within]
    · exact congrArg (fun home => Link.record (home place)) (Layout.home_web covered)
    · simp [Web.node, Function.comp_def]
    · intro isNode
      obtain ⟨toRight, toLeft⟩ := areHeaders.across_web proper shown isNode
      exact ⟨congrArg (fun place : Nat => Link.record place) toLeft,
        congrArg (fun place : Nat => Link.record place) toRight⟩
  · intro node isNode
    refine ⟨_, _, _, shown.row_arena isNode updates, ?_, shown.rowNames_arena proper isNode updates, ?_,
      shown.columnOf_arena proper isNode updates, ?_⟩
    · rw [isArena, later.row_arena isNode]
    · rw [names node isNode, shown.rowNames_arena proper isNode]
    · rw [isArena, later.columnOf_arena proper isNode]
  · intro path areNodes
    have told := @Layout.decisionsText_web layout web [] path proper shown Layout.isTrail_nil areNodes
      updates
    refine ⟨_, told, Eq.trans (Arena.decisionsText_congr fun decision inside => ?_) told⟩
    obtain ⟨node, inPath, rfl⟩ := List.mem_map.1 inside
    exact names node (areNodes node inPath)

/-- With the row of the record 6 committed, the search comes upon the row of the record 4. Every row is
out of some of its columns then, and all are read as before. -/
theorem rows_stay_readable_small : ∃ problem committed found : Problem, BuiltAs problem .small ∧
    Problem.commit (.record 6) [] problem = .ok [.record 6] committed ∧
    Problem.search committed = .ok [.record 4] found ∧
    found.arena.row (.record 7) = .ok [.record 7, .record 8] ∧
    found.arena.rowNames (.record 4) = problem.arena.rowNames (.record 4) ∧
    found.arena.decisionsText [.record 6, .record 4] =
      problem.arena.decisionsText [.record 6, .record 4] := by
  obtain ⟨problem, builtAs, isSmallest⟩ := exists_builtAs_small
  obtain ⟨web, updates, policy, rfl, shown⟩ := builtAs.shows
  obtain rfl : policy = .smallest := isSmallest
  have proper := builtAs.proper
  have isNode : 6 ∈ Layout.small.nodes := by decide
  have isRow : (web.arena updates).isHeader (.record 6) = _ :=
    Layout.isHeader_web proper shown Layout.isTrail_nil (shown.sound.node_lt isNode) updates
  rw [decide_eq_false (by decide)] at isRow
  have further := Layout.isTrail_nil.withRow shown.sound proper isNode rfl
  obtain ⟨between, commits⟩ := @Layout.commit_web _ web [] .smallest proper shown _ isNode further
    updates Layout.small.primary.length []
  obtain ⟨more, searched⟩ := search_small proper shown between Layout.small.primary.length
  have columns := @Layout.rowColumns_web _ web [] proper shown Layout.isTrail_nil 6 isNode updates
  have committed := @Problem.Worked.commit ⟨web.arena updates, .smallest, Layout.small.primary.length⟩
    6 _ _ _ _ _ _ .start List.not_mem_nil isRow columns (List.disjoint_nil_right _) commits
  have rootLeft : root ∉ (linksTo (Layout.small.columnsOf 6)).reverse ++ [] := by
    rw [show Layout.small.columnsOf 6 = [2] from rfl]
    simp [root]
  have found := committed.search rootLeft searched
    (@Layout.decisionColumns_web _ web [4] proper shown (by decide) updates)
  have small : ∀ column ∈ Layout.small.primary,
      ((Layout.small.members column).length : Int) < Arena.sizeBound := by decide
  obtain ⟨-, -, reads, texts, -⟩ := rows_stay_readable builtAs small (.between found)
  obtain ⟨_, _, _, row, row', -⟩ := reads 7 (by decide)
  obtain ⟨_, _, _, -, -, names, names', -⟩ := reads 4 (by decide)
  obtain ⟨_, text, text'⟩ := texts [6, 4] (by decide)
  have members := shown.row_arena (by decide : 7 ∈ Layout.small.nodes) updates
  exact ⟨_, _, _, builtAs, commits, searched, row'.trans (row.symm.trans members),
    names'.trans names.symm, text'.trans text.symm⟩

end ExactCover
