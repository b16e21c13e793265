import ExactCover.Proofs.Search.Decisions

/-!
# Going on from an answer

The search keeps nothing between two calls but the arena and the decisions. An answer is a path: rows
that were decided for one after the other, each in a primary column that was left by then
(`Layout.IsPath`). What the search does after an answer follows from the answer alone.

First, the decisions tell what is covered. The machine always stands at the trail of its decisions,
with one column more when a row of that column is about to be tried (`Layout.Stands`). Every action
keeps this (`Stands.acts`), so a call that comes to an end leaves the web of its own answer
(`Stands.run`), whatever was tried and given up on the way.

Second, the decisions tell what is left to try: in every column taken, the rows below the one decided
for, from the latest decision to the first (`Layout.remaining`). From an answer on the machine gives
these answers and no others, and uses up no more actions than a search that begins anew
(`runs_retry`).

Together, a call of `next` returns, and it returns the next answer in the web of that answer
(`next_web`, `next_web_fresh`, `next_web_answer`).
-/

set_option autoImplicit false

namespace ExactCover

namespace Layout

variable {layout : Layout} {start : Web} {covered path : List Nat} {policy : Policy} {count : Nat}

/-! ## Paths -/

/-- Decisions that a search can make one after the other: each row stands in the column that was taken
for it, and that is a primary one. -/
structure IsPath (layout : Layout) (covered path : List Nat) : Prop where
  allowed : layout.Allows covered path
  driven : ∀ node ∈ path, layout.column node ∈ layout.primary

theorem isPath_nil : layout.IsPath covered [] := ⟨trivial, by simp⟩

/-- What a call returns: a path that leaves no column, or no decisions at all. -/
structure IsAnswer (layout : Layout) (covered path : List Nat) : Prop
    extends IsPath layout covered path where
  ended : path = [] ∨ layout.active (layout.withRows covered path) = []

theorem isAnswer_nil : layout.IsAnswer covered [] := ⟨isPath_nil, .inl rfl⟩

section

variable (sound : layout.Sound count) (proper : layout.Proper)
include sound proper

/-- A row can be decided for in a primary column if that is left and the row stands in it. -/
theorem mem_active_live_iff {node : Nat} :
    layout.column node ∈ layout.active covered ∧ node ∈ layout.live covered (layout.column node) ↔
      node ∈ layout.nodes ∧ layout.meets covered node = false ∧
        layout.column node ∈ layout.primary := by
  constructor
  · rintro ⟨isActive, isLive⟩
    obtain ⟨isPrimary, uncovered⟩ := mem_active.1 isActive
    obtain ⟨isNode, -, free⟩ := (sound.mem_live proper uncovered).1 isLive
    exact ⟨isNode, free, isPrimary⟩
  · rintro ⟨isNode, free, isPrimary⟩
    have uncovered : layout.column node ∉ covered := fun isCovered =>
      meets_eq_false.1 free _ isCovered (by simp [columnsOf])
    exact ⟨mem_active.2 ⟨isPrimary, uncovered⟩,
      (sound.mem_live proper uncovered).2 ⟨isNode, rfl, free⟩⟩

/-- A path from its first decision on. -/
theorem isPath_cons {node : Nat} :
    layout.IsPath covered (node :: path) ↔
      (layout.column node ∈ layout.active covered ∧
        node ∈ layout.live covered (layout.column node)) ∧
          layout.IsPath (layout.withRow covered node) path := by
  rw [mem_active_live_iff sound proper]
  constructor
  · rintro ⟨⟨isNode, free, allowed⟩, driven⟩
    exact ⟨⟨isNode, free, driven node List.mem_cons_self⟩, allowed,
      fun other isLater => driven other (List.mem_cons_of_mem _ isLater)⟩
  · rintro ⟨⟨isNode, free, isPrimary⟩, allowed, driven⟩
    exact ⟨⟨isNode, free, allowed⟩, List.forall_mem_cons.2 ⟨isPrimary, driven⟩⟩

/-- A path up to its last decision. -/
theorem isPath_concat {node : Nat} :
    layout.IsPath covered (path ++ [node]) ↔ layout.IsPath covered path ∧
      layout.column node ∈ layout.active (layout.withRows covered path) ∧
        node ∈ layout.live (layout.withRows covered path) (layout.column node) := by
  rw [mem_active_live_iff sound proper]
  constructor
  · rintro ⟨allowed, driven⟩
    obtain ⟨before, isNode, free⟩ := allows_concat.1 allowed
    exact ⟨⟨before, fun other isEarlier => driven other (List.mem_append_left _ isEarlier)⟩,
      isNode, free, driven node (by simp)⟩
  · rintro ⟨⟨before, driven⟩, isNode, free, isPrimary⟩
    refine ⟨allows_concat.2 ⟨before, isNode, free⟩, fun other inside => ?_⟩
    rcases List.mem_append.1 inside with isEarlier | isLast
    · exact driven other isEarlier
    · rwa [List.mem_singleton.1 isLast]

end

/-! ## The decisions tell what is covered -/

/-- Where the machine stands when it began at a trail without decisions. -/
inductive Stands (layout : Layout) (start : Web) (covered : List Nat) : Action → Search → Prop
  /-- Before a column is taken. -/
  | choose {path : List Nat} {updates : Nat} :
      layout.IsPath covered path → layout.active (layout.withRows covered path) ≠ [] →
      Stands layout start covered .choose
        (layout.search start (layout.withRows covered path) updates (linksTo path).reverse)
  /-- Before a row of a column is tried, or when the column is used up. -/
  | enter {path : List Nat} {column top updates : Nat} :
      layout.IsPath covered path → column ∈ layout.active (layout.withRows covered path) →
      top = column ∨ top ∈ layout.live (layout.withRows covered path) column →
      Stands layout start covered .enter
        (layout.search start (column :: layout.withRows covered path) updates
          (.record top :: (linksTo path).reverse))
  /-- Before the latest decision is given up. -/
  | retry {path : List Nat} {updates : Nat} :
      layout.IsPath covered path →
      Stands layout start covered .retry
        (layout.search start (layout.withRows covered path) updates (linksTo path).reverse)

/-- The machine behind one decision more. -/
theorem search_concat (node updates : Nat) :
    layout.search start (layout.withRows covered (path ++ [node])) updates
        (linksTo (path ++ [node])).reverse =
      layout.search start (layout.withRow (layout.withRows covered path) node) updates
        (.record node :: (linksTo path).reverse) := by simp

/-- Where the machine rests: at the decisions of an answer. -/
def Rests (layout : Layout) (start : Web) (covered : List Nat) (search : Search) : Prop :=
  ∃ (path : List Nat) (updates : Nat), layout.IsAnswer covered path ∧
    search = layout.search start (layout.withRows covered path) updates (linksTo path).reverse

/-- The first of some records, or else the column they stand in. -/
theorem headD_mem {column : Nat} {rows all : List Nat} (part : rows ⊆ all) :
    rows.headD column = column ∨ rows.headD column ∈ all := by
  cases rows with
  | nil => exact .inl rfl
  | cons node rows => exact .inr (part List.mem_cons_self)

section

variable (proper : layout.Proper) (built : start.Shows layout [])
  (small : policy = .smallest → ∀ column ∈ layout.primary,
    ((layout.members column).length : Int) < Arena.sizeBound)
  (trail : layout.IsTrail covered)
include proper built small trail

/-- **Every action leads from where the machine may stand to where it may stand**, without fail, or it
ends the search where it may rest. -/
theorem Stands.acts {action : Action} {search : Search}
    (stands : layout.Stands start covered action search) :
    ∃ outcome after, Search.step policy action search = .ok outcome after ∧
      ((∃ next, outcome = some next ∧ layout.Stands start covered next after) ∨
        outcome = none ∧ layout.Rests start covered after) := by
  have sound := built.sound
  cases stands with
  | @choose path updates isPath nonempty =>
      have trail' := trail.withRows sound proper isPath.allowed
      obtain ⟨column, more, isChosen, chooses⟩ := step_choose proper built trail'
        (fun isSmallest => live_small (small isSmallest)) nonempty updates (linksTo path).reverse
      exact ⟨_, _, chooses, .inl ⟨.enter, rfl,
        .enter isPath (mem_active_of_chosen isChosen) (headD_mem (List.Subset.refl _))⟩⟩
  | @enter path column top updates isPath isActive isTop =>
      have trail' := trail.withRows sound proper isPath.allowed
      have uncovered := (mem_active.1 isActive).2
      rcases isTop with rfl | isLive
      · have further := isTrail_cons.2 ⟨column_of_mem_active isActive, uncovered, trail'⟩
        exact ⟨_, _, step_enter_column proper built further updates _,
          .inl ⟨.retry, rfl, .retry isPath⟩⟩
      · obtain ⟨more, enters⟩ := step_enter_node proper built trail' uncovered policy isLive updates
          (linksTo path).reverse
        refine ⟨_, _, enters, ?_⟩
        obtain rfl := (sound.node_of_mem_live isLive).2
        have isPath' := (isPath_concat sound proper).2 ⟨isPath, isActive, isLive⟩
        by_cases solved : layout.active (layout.withRow (layout.withRows covered path) top) = []
        · rw [solved, List.isEmpty_nil, if_pos rfl, ← search_concat]
          exact .inr ⟨rfl, _, more, ⟨isPath', .inr (by simpa using solved)⟩, rfl⟩
        · rw [List.isEmpty_eq_false_iff.2 solved, ← search_concat]
          exact .inl ⟨.choose, rfl, .choose isPath' (by simpa using solved)⟩
  | @retry path updates isPath =>
      cases path using List.reverseRecOn with
      | nil => exact ⟨none, _, rfl, .inr ⟨rfl, [], updates, isAnswer_nil, rfl⟩⟩
      | append_singleton path node =>
          obtain ⟨before, isActive, isLive⟩ := (isPath_concat sound proper).1 isPath
          have trail' := trail.withRows sound proper before.allowed
          obtain ⟨done, rest, split⟩ := List.append_of_mem isLive
          rw [search_concat]
          refine ⟨_, _, step_retry proper built trail' (mem_active.1 isActive).2 split updates _,
            .inl ⟨.enter, rfl, .enter before isActive (headD_mem fun other isLater => ?_)⟩⟩
          simp [split, isLater]

/-- So it is for any action that is seen to be done. -/
theorem Stands.step {action : Action} {search after : Search} {outcome : Option Action}
    (stands : layout.Stands start covered action search)
    (stepped : Search.step policy action search = .ok outcome after) :
    (∃ next, outcome = some next ∧ layout.Stands start covered next after) ∨
      outcome = none ∧ layout.Rests start covered after := by
  obtain ⟨_, _, acts, leads⟩ := stands.acts proper built small trail
  cases stepped.symm.trans acts
  exact leads

/-- **A call that comes to an end rests at its own answer.** -/
theorem Stands.run {action : Action} {search after : Search} {fuel : Nat}
    (stands : layout.Stands start covered action search)
    (finished : Search.run policy fuel action search = .ok () after) :
    layout.Rests start covered after := by
  induction fuel generalizing action search with
  | zero => cases finished
  | succ fuel ih =>
      cases stepped : Search.step policy action search with
      | error problem between =>
          simp [Search.run, bind, EStateM.bind, stepped] at finished
      | ok outcome between =>
          have onward : Search.run policy (fuel + 1) action search = _ := bind_of_ok stepped
          rw [onward] at finished
          rcases stands.step proper built small trail stepped with ⟨next, rfl, stands'⟩ | ⟨rfl, rests⟩
          · exact ih stands' finished
          · cases finished
            exact rests

end

/-! ## The decisions tell what is left to try -/

/-- The rows that are tried after a row, down its column. -/
def below (layout : Layout) (covered : List Nat) (node : Nat) : List Nat :=
  ((layout.live covered (layout.column node)).dropWhile (· ≠ node)).tail

theorem below_eq (sound : layout.Sound count) {node : Nat} {done rest : List Nat}
    (split : layout.live covered (layout.column node) = done ++ node :: rest) :
    layout.below covered node = rest := by
  have once := sound.live_nodup covered (layout.column node)
  rw [split] at once
  have absent : ∀ other ∈ done, decide (other ≠ node) = true := by
    intro other early
    have := (List.nodup_append.1 once).2.2 other early node (by simp)
    simpa using this
  rw [below, split, List.dropWhile_append_of_pos absent]
  simp

/-- The answers that come after a path: first those that keep all its decisions but the latest, and last
those that give up the first one. -/
def remaining (layout : Layout) (policy : Policy) : List Nat → List Nat → List (List Nat)
  | _, [] => []
  | covered, node :: path =>
      (layout.remaining policy (layout.withRow covered node) path).map (node :: ·) ++
        (layout.below covered node).flatMap fun other =>
          (algorithmX policy (layout.demandsLeft (layout.withRow covered other))).map (other :: ·)

/-- What remains, as links on top of decisions made before. -/
theorem remaining_cons (sound : layout.Sound count) {node : Nat} {done rest : List Nat}
    (split : layout.live covered (layout.column node) = done ++ node :: rest) (stack : List Link) :
    ((layout.remaining policy covered (node :: path)).map fun answer =>
        stack.reverse ++ linksTo answer) =
      ((layout.remaining policy (layout.withRow covered node) path).map fun answer =>
          (Link.record node :: stack).reverse ++ linksTo answer) ++
        rest.flatMap fun other =>
          layout.answers policy (layout.withRow covered other) (.record other :: stack) := by
  rw [remaining, below_eq sound split, List.map_append, List.map_flatMap]
  congr 1
  · simp [Function.comp_def]
  · apply List.flatMap_congr
    intro other _
    simp [answers, Function.comp_def, linksTo]

section

variable (proper : layout.Proper) (built : start.Shows layout [])
  (small : policy = .smallest → ∀ column ∈ layout.primary,
    ((layout.members column).length : Int) < Arena.sizeBound)
include proper built small

/-- **From an answer on the machine gives what remains**, and comes back to the trail it began at. -/
theorem runs_retry (depth : Nat) (trail : layout.IsTrail covered)
    (isPath : layout.IsPath covered path) (short : (layout.active covered).length ≤ depth)
    (updates : Nat) (stack : List Link) :
    ∃ actions more, actions + 2 ≤ Search.actionBound start.count depth ∧
      Search.Runs policy start.count actions
        .retry (layout.search start (layout.withRows covered path) updates
          ((linksTo path).reverse ++ stack))
        ((layout.remaining policy covered path).map fun answer => stack.reverse ++ linksTo answer)
        .retry (layout.search start covered more stack) := by
  induction path generalizing covered depth updates stack with
  | nil => exact ⟨0, updates, Search.two_le_actionBound _ _, .here⟩
  | cons node path ih =>
      have sound := built.sound
      obtain ⟨⟨isActive, isLive⟩, isPath'⟩ := (isPath_cons sound proper).1 isPath
      have uncovered := (mem_active.1 isActive).2
      have isColumn := column_of_mem_active isActive
      obtain ⟨isNode, -, free⟩ := (sound.mem_live proper uncovered).1 isLive
      have fewer := length_active_withRow_lt sound isActive isLive
      cases depth with
      | zero => exact absurd (Nat.lt_of_lt_of_le fewer short) (Nat.not_lt_zero _)
      | succ depth =>
          -- The decisions made after this one are given up first.
          obtain ⟨inner, between, cheap, run⟩ := ih depth (trail.withRow sound proper isNode free)
            isPath' (by omega) updates (.record node :: stack)
          -- Then the rows below it are tried.
          have tried := tries_of_solves proper built trail isActive short stack
            fun trail nonempty short => runs_choose proper built small depth trail nonempty short
          obtain ⟨done, rest, split⟩ := List.append_of_mem isLive
          have gives : Search.step policy .retry (layout.search start (layout.withRow covered node)
              between (.record node :: stack)) = _ :=
            step_retry proper built trail uncovered split between stack
          obtain ⟨outer, more, cheap', onward⟩ := runs_rows proper built trail uncovered isColumn tried
            (done ++ [node]) rest (by simp [split]) between
          have whole := run.trans (.act gives onward)
          refine ⟨inner + (outer + 1), more, ?_, ?_⟩
          · have shorter : rest.length ≤ (layout.live covered (layout.column node)).length := by
              rw [split, List.length_append, List.length_cons]
              omega
            have room := Search.rows_le_actionBound
              (Nat.le_trans shorter (length_live_le sound covered _)) depth
            omega
          · rw [remaining_cons sound split]
            simpa using whole

end

/-! ## Calls -/

theorem linksTo_injective : Function.Injective linksTo :=
  List.map_injective_iff.2 fun _ _ same => Int.ofNat_inj.1 (Link.record.inj same)

section

variable (proper : layout.Proper) (built : start.Shows layout [])
  (small : policy = .smallest → ∀ column ∈ layout.primary,
    ((layout.members column).length : Int) < Arena.sizeBound)
  (trail : layout.IsTrail covered)
include proper built small trail

/-- A call leads to the first of the answers that are left, or it gives up all decisions. -/
theorem next_search {action : Action} {search : Search} {actions more : Nat} {solved : Bool}
    {answers : List (List Nat)} (stands : layout.Stands start covered action search)
    (run : Search.Runs policy start.count actions action search (answers.map linksTo)
      .retry (layout.search start covered more []))
    (isSolved : search.arena.isSolved = .ok solved)
    (starts : action = if solved then .retry else .choose)
    (enough : actions < Search.actionLimit search.arena) :
    ∃ answer updates, answer = answers.headD [] ∧ layout.IsAnswer covered answer ∧
      Search.next policy search =
        .ok () (layout.search start (layout.withRows covered answer) updates
          (linksTo answer).reverse) := by
  cases answers with
  | nil =>
      have exhausted := Search.next_of_runs_nil run rfl isSolved starts enough
      exact ⟨[], more, rfl, isAnswer_nil, exhausted⟩
  | cons answer answers =>
      obtain ⟨after, -, -, called, decided, -⟩ :=
        Search.next_of_runs_cons run isSolved starts enough
      have finished := called
      rw [Search.next_eq isSolved starts] at finished
      obtain ⟨path, updates, isAnswer, rfl⟩ := stands.run proper built small trail finished
      obtain rfl : path = answer := linksTo_injective (by simpa [Layout.search] using decided)
      exact ⟨path, updates, rfl, isAnswer, called⟩

/-- **The call after an answer** returns the next answer of those that remain, in the web of that
answer. -/
theorem next_web (isPath : layout.IsPath covered path)
    (ended : layout.active (layout.withRows covered path) = []) (updates primaryCount : Nat) :
    ∃ answer more, answer = (layout.remaining policy covered path).headD [] ∧
      layout.IsAnswer covered answer ∧
      Problem.next (linksTo path)
          ⟨(layout.web start (layout.withRows covered path)).arena updates, policy, primaryCount⟩ =
        .ok (linksTo answer)
          ⟨(layout.web start (layout.withRows covered answer)).arena more, policy, primaryCount⟩ := by
  have solved := isSolved_web proper built (trail.withRows built.sound proper isPath.allowed) updates
  rw [ended, List.isEmpty_nil] at solved
  obtain ⟨actions, more, enough, run⟩ := runs_retry proper built small start.count trail isPath
    (length_active_le built.sound covered) updates []
  simp only [List.append_nil, List.reverse_nil, List.nil_append] at run
  obtain ⟨answer, later, isNext, isAnswer, called⟩ :=
    next_search proper built small trail (.retry isPath) run solved rfl
      (by simp only [search, Search.actionLimit, Web.size_arena, count_web]; omega)
  have answered := @Problem.next_of_search policy primaryCount _ (linksTo path) _ called
  exact ⟨answer, later, isNext, isAnswer, by simpa [search] using answered⟩

/-- **The first call** returns the first answer of Algorithm X in the web of that answer. -/
theorem next_web_fresh (nonempty : layout.active covered ≠ []) (updates primaryCount : Nat) :
    ∃ answer more, answer = (algorithmX policy (layout.demandsLeft covered)).headD [] ∧
      layout.IsAnswer covered answer ∧
      Problem.next [] ⟨(layout.web start covered).arena updates, policy, primaryCount⟩ =
        .ok (linksTo answer)
          ⟨(layout.web start (layout.withRows covered answer)).arena more, policy, primaryCount⟩ := by
  have unsolved := isSolved_web proper built trail updates
  rw [List.isEmpty_eq_false_iff.2 nonempty] at unsolved
  obtain ⟨actions, more, enough, run⟩ := runs_choose proper built small start.count trail nonempty
    (length_active_le built.sound covered) [] updates
  obtain ⟨answer, later, isNext, isAnswer, called⟩ :=
    next_search proper built small trail (.choose isPath_nil nonempty) run unsolved rfl
      (by simp only [search, Search.actionLimit, Web.size_arena, count_web]; omega)
  have answered := @Problem.next_of_search policy primaryCount _ [] _ called
  exact ⟨answer, later, isNext, isAnswer, by simpa [search] using answered⟩

/-- From an answer on there is one next answer, however the arena has come to show it. -/
theorem next_web_answer (isAnswer : layout.IsAnswer covered path) :
    ∃ answer, layout.IsAnswer covered answer ∧ ∀ updates primaryCount, ∃ more,
      Problem.next (linksTo path)
          ⟨(layout.web start (layout.withRows covered path)).arena updates, policy, primaryCount⟩ =
        .ok (linksTo answer)
          ⟨(layout.web start (layout.withRows covered answer)).arena more, policy, primaryCount⟩ := by
  have told : ∃ answers : List (List Nat), ∀ updates primaryCount, ∃ answer more,
      answer = answers.headD [] ∧ layout.IsAnswer covered answer ∧
      Problem.next (linksTo path)
          ⟨(layout.web start (layout.withRows covered path)).arena updates, policy, primaryCount⟩ =
        .ok (linksTo answer)
          ⟨(layout.web start (layout.withRows covered answer)).arena more, policy,
            primaryCount⟩ := by
    by_cases solved : layout.active (layout.withRows covered path) = []
    · exact ⟨_, next_web proper built small trail isAnswer.toIsPath solved⟩
    · obtain rfl : path = [] := isAnswer.ended.resolve_right solved
      exact ⟨_, next_web_fresh proper built small trail solved⟩
  obtain ⟨answers, calls⟩ := told
  obtain ⟨_, _, rfl, isNext, -⟩ := calls 0 0
  refine ⟨answers.headD [], isNext, fun updates primaryCount => ?_⟩
  obtain ⟨_, more, rfl, -, called⟩ := calls updates primaryCount
  exact ⟨more, called⟩

end

end Layout

end ExactCover
