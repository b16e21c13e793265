import ExactCover.Proofs.Search.Histories

/-!
# Calls come to an end

A call of `next` is a loop of actions over an arena that each of them changes, and every action walks
along rings that it is changing. Nothing in that goes wrong as long as a caller keeps to what
`Problem.Reached` allows. The machine stands where its decisions say (`Layout.Stands`), and there it finds
all that an action asks for (`Search.Secure`, `Stands.secure`): a decision to try, a column on the ring of
the root to take, and a size wherever one is read or changed. So every action is done, and its walks come
to their ends: a walk that did not, or that left the records, would be a failure of the action.

That every action is done does not yet end the loop. It ends since what remains to be tried is finite: a
call takes fewer actions than the limit that is set for it, and so the limit never stops it
(`next_comes_to_an_end`).
-/

set_option autoImplicit false

namespace ExactCover

namespace Search

variable {policy : Policy} {count number fuel : Nat} {action last : Action}
  {search between final : Search}

/-- Where a call of `next` comes to: after so many actions it stands before one more. -/
def ComesTo (policy : Policy) (search : Search) (number : Nat) (action : Action)
    (between : Search) : Prop :=
  ∃ solved, search.arena.isSolved = .ok solved ∧
    Runs policy search.arena.size number (if solved then .retry else .choose) search [] action between

/-- An action finds what it asks for. -/
structure Secure (policy : Policy) (action : Action) (search : Search) : Prop where
  /-- The action is done: nothing fails, and every walk comes to its end. -/
  done : ∃ outcome after, step policy action search = .ok outcome after
  /-- There is a decision to try. -/
  decided : action = .enter → search.stack ≠ []
  /-- A column is taken that is on the ring of the root, and all of these have sizes to compare. -/
  taken : action = .choose → ∃ column active, search.arena.chosenColumn policy = .ok column ∧
    search.arena.activeHeaders = .ok active ∧ column ∈ active ∧
      ∀ other ∈ active, search.arena.isHeader other = .ok true ∧
        ∃ size, search.arena.columnSize other = .ok size
  /-- Every record of a row stands in a column that has a size to change. -/
  sized : ∀ node : Nat, search.arena.isHeader (.record node) = .ok false →
    ∃ column size, search.arena.columnOf (.record node) = .ok column ∧
      search.arena.columnSize column = .ok size

/-- A run that comes to an end does no more actions than it was allowed. -/
theorem Runs.lt_of_run (run : Runs policy count number action search [] last between)
    (finished : Search.run policy fuel action search = .ok () final) : number < fuel := by
  generalize none' : ([] : List (List Link)) = answers at run
  induction run generalizing fuel with
  | here =>
      cases fuel with
      | zero => cases finished
      | succ fuel => exact Nat.succ_pos fuel
  | act done _ ih =>
      cases fuel with
      | zero => cases finished
      | succ fuel =>
          have onward : Search.run policy (fuel + 1) _ _ = _ := bind_of_ok done
          rw [onward] at finished
          exact Nat.succ_lt_succ (ih finished none')
  | found => cases none'

/-- A run that comes to an end does so by its last action. -/
theorem exists_runs_of_run (count : Nat)
    (finished : Search.run policy fuel action search = .ok () final) :
    ∃ number last between, Runs policy count number action search [] last between ∧
      step policy last between = .ok none final := by
  induction fuel generalizing action search with
  | zero => cases finished
  | succ fuel ih =>
      cases stepped : step policy action search with
      | error problem after => simp [Search.run, bind, EStateM.bind, stepped] at finished
      | ok outcome after =>
          have onward : Search.run policy (fuel + 1) action search = _ := bind_of_ok stepped
          rw [onward] at finished
          cases outcome with
          | none =>
              cases finished
              exact ⟨0, action, search, .here, stepped⟩
          | some next =>
              obtain ⟨number, last, between, run, ended⟩ := ih finished
              exact ⟨number + 1, last, between, .act stepped run, ended⟩

/-- **A call that returns does so by its last action**, and it takes fewer actions than the limit. -/
theorem next_ends {solved : Bool} (called : next policy search = .ok () final)
    (isSolved : search.arena.isSolved = .ok solved) :
    (∃ number last between, ComesTo policy search number last between ∧
        step policy last between = .ok none final) ∧
      ∀ number action between, ComesTo policy search number action between →
        number < actionLimit search.arena := by
  rw [next_eq isSolved rfl] at called
  constructor
  · obtain ⟨number, last, between, run, ended⟩ := exists_runs_of_run search.arena.size called
    exact ⟨number, last, between, ⟨solved, isSolved, run⟩, ended⟩
  · rintro number action between ⟨_, isSolved', run⟩
    obtain rfl := Except.ok.inj (isSolved'.symm.trans isSolved)
    exact run.lt_of_run called

end Search

namespace Layout

variable {layout : Layout} {start : Web} {covered path : List Nat} {policy : Policy}
  {action : Action} {search : Search}

/-! ## What an action finds -/

section

variable (proper : layout.Proper) (built : start.Shows layout []) (trail : layout.IsTrail covered)
include proper built trail

/-- A column is told from a record, and has a size. -/
theorem header_web {column : Nat} (isColumn : column ∈ layout.columns) (updates : Nat) :
    ((layout.web start covered).arena updates).isHeader (.record column) = .ok true ∧
      ∃ size, ((layout.web start covered).arena updates).columnSize (.record column) = .ok size := by
  have told := isHeader_web proper built trail (built.sound.column_lt isColumn) updates
  rw [decide_eq_true (mem_headerRings_flatten.2 (.inr isColumn))] at told
  exact ⟨told, _, columnSize_web proper built trail isColumn updates⟩

/-- The column of a record of a row has a size. -/
theorem sized_web {node updates : Nat}
    (isRow : ((layout.web start covered).arena updates).isHeader (.record node) = .ok false) :
    ∃ column size,
      ((layout.web start covered).arena updates).columnOf (.record node) = .ok column ∧
        ((layout.web start covered).arena updates).columnSize column = .ok size := by
  have isNode := node_of_isHeader proper built trail isRow
  obtain ⟨-, size, counts⟩ :=
    header_web proper built trail (built.sound.column_mem proper isNode) updates
  exact ⟨_, size, columnOf_web proper built trail isNode updates, counts⟩

end

section

variable (proper : layout.Proper) (built : start.Shows layout [])
  (small : policy = .smallest → ∀ column ∈ layout.primary,
    ((layout.members column).length : Int) < Arena.sizeBound)
  (trail : layout.IsTrail covered)
include proper built small trail

/-- **Wherever the machine may stand an action finds what it asks for.** -/
theorem Stands.secure (stands : layout.Stands start covered action search) :
    Search.Secure policy action search := by
  obtain ⟨outcome, after, acts, -⟩ := stands.acts proper built small trail
  cases stands with
  | @choose path updates isPath nonempty =>
      have further := trail.withRows built.sound proper isPath.allowed
      refine ⟨⟨_, _, acts⟩, nofun, fun _ => ?_, fun node => sized_web proper built further⟩
      obtain ⟨column, isChosen, found⟩ := chosenColumn_web proper built further
        (fun isSmallest => live_small (small isSmallest)) nonempty updates
      refine ⟨_, _, found, activeHeaders_web proper built further updates,
        List.mem_map.2 ⟨column, mem_active_of_chosen isChosen, rfl⟩, ?_⟩
      intro other isActive
      obtain ⟨header, inActive, rfl⟩ := List.mem_map.1 isActive
      exact header_web proper built further (column_of_mem_active inActive) updates
  | @enter path column top updates isPath isActive isTop =>
      have further := isTrail_cons.2 ⟨column_of_mem_active isActive, (mem_active.1 isActive).2,
        trail.withRows built.sound proper isPath.allowed⟩
      exact ⟨⟨_, _, acts⟩, fun _ => List.cons_ne_nil _ _, nofun,
        fun node => sized_web proper built further⟩
  | @retry path updates isPath =>
      have further := trail.withRows built.sound proper isPath.allowed
      exact ⟨⟨_, _, acts⟩, nofun, nofun, fun node => sized_web proper built further⟩

/-- The machine comes only to where it may stand. -/
theorem Stands.of_runs {count number : Nat} {last : Action} {between : Search}
    (stands : layout.Stands start covered action search)
    (run : Search.Runs policy count number action search [] last between) :
    layout.Stands start covered last between := by
  generalize none' : ([] : List (List Link)) = answers at run
  induction run with
  | here => exact stands
  | act done _ ih =>
      rcases stands.step proper built small trail done with ⟨next, same, stands'⟩ | ⟨ended, -⟩
      · obtain rfl := Option.some.inj same
        exact ih stands' none'
      · cases ended
  | found => cases none'

omit small in
/-- A call begins where the machine may stand. -/
theorem stands_of_isAnswer (isAnswer : layout.IsAnswer covered path) {updates : Nat} {solved : Bool}
    (isSolved : ((layout.web start (layout.withRows covered path)).arena updates).isSolved =
      .ok solved) :
    layout.Stands start covered (if solved then .retry else .choose)
      (layout.search start (layout.withRows covered path) updates (linksTo path).reverse) := by
  have further := trail.withRows built.sound proper isAnswer.allowed
  cases (isSolved_web proper built further updates).symm.trans isSolved
  by_cases ended : layout.active (layout.withRows covered path) = []
  · rw [ended]
    exact .retry isAnswer.toIsPath
  · rw [List.isEmpty_eq_false_iff.2 ended]
    exact .choose isAnswer.toIsPath ended

end

/-- What is on top of the decisions in force is an answer from where the others lead to. -/
theorem Carries.isAnswer {count : Nat} (sound : layout.Sound count) (proper : layout.Proper)
    {held : List Hold} {answer : List Link} (carries : layout.Carries held covered)
    (onTop : answer = [] ∨ held.head? = some (.found answer)) :
    ∃ below path, layout.IsTrail below ∧ layout.IsAnswer below path ∧ answer = linksTo path ∧
      covered = layout.withRows below path := by
  rcases onTop with rfl | isTop
  · exact ⟨covered, [], carries.trail sound proper, isAnswer_nil, rfl, rfl⟩
  · cases carries with
    | none => cases isTop
    | committed => cases isTop
    | found under isAnswer =>
        cases isTop
        exact ⟨_, _, under.trail sound proper, isAnswer, rfl, rfl⟩

end Layout

/-! ## Calls -/

/-- **Every call of `next` comes to an end**, on a problem with which nothing has been done but what may
be done: on top of the rows committed, or from the answer that was returned last. After a number of
actions the last one returns an answer. Whatever action is done on the way finds what it asks for, and
fewer are done than the limit allows. (No column has more rows than a search can count.) -/
theorem next_comes_to_an_end {problem : Problem} {layout : Layout} (builtAs : BuiltAs problem layout)
    (small : ∀ column ∈ layout.primary, ((layout.members column).length : Int) < Arena.sizeBound)
    {held : List Hold} {current : Problem} (reached : problem.Reached held current)
    {answer : List Link} (onTop : answer = [] ∨ held.head? = some (.found answer)) :
    ∃ later after, Problem.next answer current = .ok later after ∧
      (∃ number action between,
        Search.ComesTo current.policy ⟨current.arena, answer.reverse⟩ number action between ∧
          Search.step current.policy action between = .ok none ⟨after.arena, later.reverse⟩) ∧
      ∀ number action between,
        Search.ComesTo current.policy ⟨current.arena, answer.reverse⟩ number action between →
          number < Search.actionLimit current.arena ∧
            Search.Secure current.policy action between := by
  obtain ⟨web, updates, policy, rfl, shown⟩ := builtAs.shows
  have proper := builtAs.proper
  obtain ⟨_, more, carries, rfl⟩ := Layout.reached_web proper shown small reached
  obtain ⟨below, path, trail, isAnswer, rfl, rfl⟩ := carries.isAnswer shown.sound proper onTop
  obtain ⟨later, -, calls⟩ :=
    Layout.next_of_isAnswer proper shown small trail policy isAnswer
  obtain ⟨spent, called⟩ := calls more layout.primary.length
  have further := trail.withRows shown.sound proper isAnswer.allowed
  obtain ⟨ends, fewer⟩ := Search.next_ends (Search.next_of_problem called)
    (Layout.isSolved_web proper shown further more)
  refine ⟨_, _, called, ends, fun number action between comes => ⟨fewer _ _ _ comes, ?_⟩⟩
  obtain ⟨solved, isSolved, run⟩ := comes
  have stands := Layout.stands_of_isAnswer proper shown trail isAnswer isSolved
  exact (stands.of_runs proper shown (fun _ => small) trail run).secure proper shown
    (fun _ => small) trail

/-- With the row of the record 6 committed, the search returns the row of the record 4, and the call from
there on comes to an end as well. -/
theorem next_comes_to_an_end_small :
    ∃ problem committed found, BuiltAs problem .small ∧
      problem.Reached [.committed [.record 6]] committed ∧
      Problem.search committed = .ok [.record 4] found ∧
      (∃ later after, Problem.next [.record 4] found = .ok later after) ∧
      ∀ number action between,
        Search.ComesTo found.policy ⟨found.arena, [.record 4]⟩ number action between →
          number < Search.actionLimit found.arena ∧ Search.Secure found.policy action between := by
  obtain ⟨problem, builtAs, isSmallest⟩ := exists_builtAs_small
  obtain ⟨web, updates, policy, rfl, shown⟩ := builtAs.shows
  obtain rfl : policy = .smallest := isSmallest
  have isNode : 6 ∈ Layout.small.nodes := by decide
  have small : ∀ column ∈ Layout.small.primary,
      ((Layout.small.members column).length : Int) < Arena.sizeBound := by decide
  have isRow : (web.arena updates).isHeader (.record 6) = _ :=
    Layout.isHeader_web builtAs.proper shown Layout.isTrail_nil (shown.sound.node_lt isNode) updates
  rw [decide_eq_false (by decide)] at isRow
  have further := Layout.isTrail_nil.withRow shown.sound builtAs.proper isNode rfl
  obtain ⟨between, commits⟩ := @Layout.commit_web _ web [] .smallest builtAs.proper shown _ isNode
    further updates Layout.small.primary.length []
  have begun : Problem.Reached ⟨web.arena updates, .smallest, Layout.small.primary.length⟩
      [.committed []] ⟨web.arena updates, .smallest, Layout.small.primary.length⟩ := .begin .start
  have committed := begun.commit isRow (by simp [inForce, Hold.decisions]) commits
  obtain ⟨more, searched⟩ :=
    search_small builtAs.proper shown between Layout.small.primary.length
  obtain ⟨later, after, called, -, secure⟩ :=
    next_comes_to_an_end builtAs small (committed.search searched) (.inr rfl)
  exact ⟨_, _, _, builtAs, committed, searched, ⟨later, after, called⟩, secure⟩

end ExactCover
