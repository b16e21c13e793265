import ExactCover.Proofs.Search.Collecting
import ExactCover.Proofs.Search.Replay

/-!
# Drawing the first row each time

A source that always gives zero draws the first of the rows that are there. Then the random search tries
the rows of a column from top to bottom, as the search for smallest columns does, and the two machines
keep step: they do the same actions, their arenas agree in every link, every size and the number of
updates, and so do their decisions.

What the random search has set aside for a decision are the rows below it, down its column
(`Layout.setAside`). This is the one thing that the other machine does not keep, and it finds it again in
the links. As long as both agree in that (`Layout.Abreast`), one action of the one is one action of the
other (`Abreast.step`), and so is any number of actions (`Abreast.run`).

Main statement: `first_draws_search` (both return the same answer in the same arena).
-/

set_option autoImplicit false

namespace ExactCover

variable {σ : Type} {draw : σ → Nat → Nat × σ}

/-- A source that gives zero below every positive bound. -/
def DrawsFirst (draw : σ → Nat → Nat × σ) : Prop :=
  ∀ source bound, 0 < bound → (draw source bound).1 = 0

/-- Then the first row is decided for, and the others are set aside in their order. -/
theorem Sampling.decided_first (first : DrawsFirst draw) (column : Nat) (rows : List Nat)
    (source : σ) : decided draw column rows source = (rows.headD column, rows.tail) := by
  cases rows with
  | nil => rfl
  | cons node rows =>
      have zero := first source (rows.length + 1) (Nat.succ_pos _)
      simp [decided, drawFrom, zero]

namespace Layout

variable {layout : Layout} {start : Web} {covered : List Nat}

/-! ## What is set aside -/

/-- The rows below each decision of a path, down its column. -/
def belowEach (layout : Layout) : List Nat → List Nat → List (List Nat)
  | _, [] => []
  | covered, node :: path =>
      layout.below covered node :: layout.belowEach (layout.withRow covered node) path

theorem belowEach_concat (path : List Nat) (node : Nat) :
    layout.belowEach covered (path ++ [node]) =
      layout.belowEach covered path ++ [layout.below (layout.withRows covered path) node] := by
  induction path generalizing covered with
  | nil => rfl
  | cons first path ih =>
      rw [List.cons_append, belowEach, belowEach, ih, withRows_cons, List.cons_append]

/-- What a random search has set aside for the decisions of a path if it always draws the first row, the
latest decision first. -/
def setAside (layout : Layout) (covered path : List Nat) : List (List Link) :=
  ((layout.belowEach covered path).map linksTo).reverse

/-- The random search behind one decision more. -/
theorem sampling_concat {count : Nat} (sound : layout.Sound count) {path done rest : List Nat}
    {node : Nat}
    (split : layout.live (layout.withRows covered path) (layout.column node) = done ++ node :: rest)
    (updates : Nat) (source : σ) :
    layout.sampling start (layout.withRows covered (path ++ [node])) updates
        (linksTo (path ++ [node])).reverse (layout.setAside covered (path ++ [node])) source =
      layout.sampling start (layout.withRow (layout.withRows covered path) node) updates
        (.record node :: (linksTo path).reverse) (linksTo rest :: layout.setAside covered path)
        source := by
  simp [setAside, belowEach_concat, below_eq sound split]

/-! ## Side by side -/

/-- A search and a random search that stand at the same trail with the same decisions, where the random
search has set aside the rows below each decision. -/
inductive Abreast (layout : Layout) (start : Web) (covered : List Nat) :
    Action → Search → Sampling σ → Prop
  | choose {path : List Nat} {updates : Nat} {source : σ} :
      layout.IsPath covered path → layout.active (layout.withRows covered path) ≠ [] →
      Abreast layout start covered .choose
        (layout.search start (layout.withRows covered path) updates (linksTo path).reverse)
        (layout.sampling start (layout.withRows covered path) updates (linksTo path).reverse
          (layout.setAside covered path) source)
  /-- The rows of a column are left from some row on, and the first of them is about to be tried; or none
  is left, and the column is about to be given up. -/
  | enter {path done rows : List Nat} {column updates : Nat} {source : σ} :
      layout.IsPath covered path → column ∈ layout.active (layout.withRows covered path) →
      layout.live (layout.withRows covered path) column = done ++ rows →
      Abreast layout start covered .enter
        (layout.search start (column :: layout.withRows covered path) updates
          (.record (rows.headD column) :: (linksTo path).reverse))
        (layout.sampling start (column :: layout.withRows covered path) updates
          (.record (rows.headD column) :: (linksTo path).reverse)
          (linksTo rows.tail :: layout.setAside covered path) source)
  | retry {path : List Nat} {updates : Nat} {source : σ} :
      layout.IsPath covered path →
      Abreast layout start covered .retry
        (layout.search start (layout.withRows covered path) updates (linksTo path).reverse)
        (layout.sampling start (layout.withRows covered path) updates (linksTo path).reverse
          (layout.setAside covered path) source)

section

variable (first : DrawsFirst draw) (proper : layout.Proper) (built : start.Shows layout [])
  (small : ∀ column ∈ layout.primary,
    ((layout.members column).length : Int) < Arena.sizeBound)
  (trail : layout.IsTrail covered)
include first proper built small trail

/-- **One action of the search is one action of the random search**, and if it is not the last one both
are abreast again. -/
theorem Abreast.step {action : Action} {search : Search} {sampling : Sampling σ}
    (abreast : layout.Abreast start covered action search sampling) :
    ∃ (outcome : Option Action) (after : Search) (after' : Sampling σ),
      Search.step .smallest action search = .ok outcome after ∧
        Sampling.step draw action sampling = .ok outcome after' ∧
        after'.arena = after.arena ∧ after'.stack = after.stack ∧
        ∀ next, outcome = some next → layout.Abreast start covered next after after' := by
  have sound := built.sound
  cases abreast with
  | @choose path updates source isPath nonempty =>
      have further := trail.withRows sound proper isPath.allowed
      obtain ⟨column, more, isChosen, found, uncovered, own, covers⟩ := @take_web layout start _
        .smallest proper built further (fun _ => live_small small) nonempty updates
      have one := step_choose_of_cover proper built found uncovered own covers (linksTo path).reverse
      have other := @sampling_choose_of_cover σ draw layout start _ proper built _ _ _ found uncovered
        own covers (linksTo path).reverse (layout.setAside covered path) source
      rw [Sampling.decided_first first] at other
      refine ⟨_, _, _, one, other, rfl, rfl, ?_⟩
      rintro _ ⟨⟩
      exact .enter isPath (mem_active_of_chosen isChosen) (List.nil_append _).symm
  | @enter path done rows column updates source isPath isActive split =>
      have further := trail.withRows sound proper isPath.allowed
      have uncovered := (mem_active.1 isActive).2
      cases rows with
      | nil =>
          -- No row is left. The decision is for the column itself, and both machines give it up.
          have own := isTrail_cons.2 ⟨column_of_mem_active isActive, uncovered, further⟩
          refine ⟨_, _, _, step_enter_column proper built own updates _,
            sampling_enter_column proper built own updates _ _ _ source, rfl, rfl, ?_⟩
          rintro _ ⟨⟩
          exact .retry isPath
      | cons node rest =>
          have inside : node ∈ layout.live (layout.withRows covered path) column := by simp [split]
          obtain ⟨more, isHeader, covers, solved⟩ :=
            try_web proper built further uncovered inside updates
          refine ⟨_, _, _, step_enter_of_cover .smallest isHeader covers solved _,
            sampling_enter_of_cover isHeader covers solved _ _ source, rfl, rfl, ?_⟩
          intro next isNext
          obtain rfl := (sound.node_of_mem_live inside).2
          by_cases ended : layout.active (layout.withRow (layout.withRows covered path) node) = []
          · simp [ended] at isNext
          · rw [List.isEmpty_eq_false_iff.2 ended] at isNext
            obtain rfl : Action.choose = next := by simpa using isNext
            have longer := (isPath_concat sound proper).2 ⟨isPath, isActive, inside⟩
            have both := @Abreast.choose σ layout start covered (path ++ [node]) more source longer
              (by simpa using ended)
            rw [search_concat, sampling_concat sound split] at both
            exact both
  | @retry path updates source isPath =>
      cases path using List.reverseRecOn with
      | nil =>
          refine ⟨none, _, _, rfl, rfl, rfl, rfl, ?_⟩
          rintro _ ⟨⟩
      | append_singleton path node =>
          obtain ⟨before, isActive, inside⟩ := (isPath_concat sound proper).1 isPath
          have further := trail.withRows sound proper before.allowed
          have uncovered := (mem_active.1 isActive).2
          obtain ⟨done, rest, split⟩ := List.append_of_mem inside
          have one := @step_retry layout start _ .smallest proper built further _ node uncovered _ _
            split updates (linksTo path).reverse
          have other := @sampling_retry σ draw layout start _ proper built further _ node uncovered
            inside rest updates (linksTo path).reverse (layout.setAside covered path) source
          rw [Sampling.decided_first first] at other
          rw [search_concat, sampling_concat sound split]
          refine ⟨_, _, _, one, other, rfl, rfl, ?_⟩
          rintro _ ⟨⟩
          exact .enter before isActive (split.trans (by simp : _ = (done ++ [node]) ++ rest))

/-- **A search that comes to its end brings the random search to the same end.** -/
theorem Abreast.run {fuel : Nat} {action : Action} {search after : Search} {sampling : Sampling σ}
    (abreast : layout.Abreast start covered action search sampling)
    (finished : Search.run .smallest fuel action search = .ok () after) :
    ∃ final, Sampling.run draw fuel action sampling = .ok () final ∧
      final.arena = after.arena ∧ final.stack = after.stack := by
  induction fuel generalizing action search sampling with
  | zero => cases finished
  | succ fuel ih =>
      obtain ⟨outcome, between, between', stepped, stepped', sameArena, sameStack, onward⟩ :=
        abreast.step first proper built small trail
      have runs : Search.run .smallest (fuel + 1) action search = _ := bind_of_ok stepped
      have runs' : Sampling.run draw (fuel + 1) action sampling = _ := bind_of_ok stepped'
      rw [runs] at finished
      rw [runs']
      cases outcome with
      | none =>
          cases finished
          exact ⟨between', rfl, sameArena, sameStack⟩
      | some next => exact ih (onward next rfl) finished

end

section

variable (proper : layout.Proper) (built : start.Shows layout [])
  (small : ∀ column ∈ layout.primary,
    ((layout.members column).length : Int) < Arena.sizeBound)
  (trail : layout.IsTrail covered)
include proper built small trail

/-- **From a trail on both return the same answer in the same arena.** -/
theorem first_draws_web (updates primaryCount : Nat) :
    ∃ answer after,
      Problem.search ⟨(layout.web start covered).arena updates, .smallest, primaryCount⟩ =
          .ok answer after ∧
        ∀ {σ : Type} (draw : σ → Nat → Nat × σ) (source : σ), DrawsFirst draw → ∃ later,
          Problem.sample draw source
              ⟨(layout.web start covered).arena updates, .smallest, primaryCount⟩ =
            (.ok answer after, later) := by
  have isSolved := isSolved_web proper built trail updates
  by_cases solved : layout.active covered = []
  · -- Nothing is left to search, and neither machine acts.
    rw [solved, List.isEmpty_nil] at isSolved
    have enough : 0 < Search.actionLimit ((layout.web start covered).arena updates) := by
      rw [Search.actionLimit]
      exact Nat.lt_of_lt_of_le Nat.zero_lt_two (Search.two_le_actionBound _ _)
    have none' : Search.Runs .smallest start.count 0 .retry (layout.search start covered updates []) []
      .retry (layout.search start covered updates []) := .here
    have called := @Problem.next_of_search .smallest primaryCount _ [] _
      (Search.next_of_runs_nil none' rfl isSolved rfl enough)
    refine ⟨_, _, called, fun {σ} draw source _ => ⟨source, ?_⟩⟩
    have searched : Sampling.search draw (layout.sampling start covered updates [] [] source) = _ :=
      Sampling.search_eq isSolved
    exact Problem.sample_of_search searched _ _
  · obtain ⟨answer, more, -, -, called⟩ := @next_web_fresh layout start covered .smallest proper built
      (fun _ => small) trail solved updates primaryCount
    refine ⟨_, _, called, fun {σ} draw source first => ?_⟩
    rw [List.isEmpty_eq_false_iff.2 solved] at isSolved
    have finished := (@Search.next_eq .smallest _ (layout.search start covered updates []) _ isSolved
      rfl).symm.trans (Search.next_of_problem called)
    obtain ⟨⟨_, _, untried, later⟩, finished', rfl, rfl⟩ :=
      (Abreast.choose isPath_nil solved : layout.Abreast start covered .choose _
        (layout.sampling start covered updates [] [] source)).run first proper built small trail finished
    have searched : Sampling.search draw (layout.sampling start covered updates [] [] source) = _ :=
      Sampling.search_eq isSolved
    have sampled := Problem.sample_of_search (searched.trans finished') .smallest primaryCount
    rw [List.reverse_reverse] at sampled
    exact ⟨later, sampled⟩

end

end Layout

/-! ## Problems that were built -/

/-- **A random search that always draws the first row is a search.** Rows that share no column are decided
for. A call of the random search whose source gives zero each time returns the answer of the search and
leaves the same problem: the same links, the same sizes, and as many updates. (Smallest columns are taken,
and none has more rows than a search can count.) -/
theorem first_draws_search {problem : Problem} {layout : Layout} (builtAs : BuiltAs problem layout)
    (isSmallest : problem.policy = .smallest)
    (small : ∀ column ∈ layout.primary, ((layout.members column).length : Int) < Arena.sizeBound)
    {forced : List Nat} (areNodes : ∀ node ∈ forced, node ∈ layout.nodes)
    (apart : forced.Pairwise fun one other =>
      (layout.columnsOf one).Disjoint (layout.columnsOf other)) :
    ∃ (committed : Problem) (answer : List Link) (after : Problem),
      forced.foldlM (fun decisions (node : Nat) => Problem.commit (.record node) decisions) []
          problem = .ok (linksTo forced) committed ∧
        Problem.search committed = .ok answer after ∧
        ∀ {σ : Type} (draw : σ → Nat → Nat × σ) (source : σ), DrawsFirst draw → ∃ later,
          Problem.sample draw source committed = (.ok answer after, later) := by
  obtain ⟨web, updates, policy, rfl, shown⟩ := builtAs.shows
  obtain rfl : policy = .smallest := isSmallest
  obtain ⟨trail, between, committed⟩ := Layout.commits_web builtAs.proper shown areNodes apart
    (fun _ _ => rfl) Layout.isTrail_nil updates layout.primary.length []
  obtain ⟨answer, after, searched, samples⟩ := Layout.first_draws_web builtAs.proper shown small trail
    between layout.primary.length
  exact ⟨_, answer, after, committed, searched, samples⟩

/-- The row of the record 6 is committed. The search finds the row of the record 4, and so does the random
search if zero is all that it draws. -/
theorem first_draws_search_small :
    ∃ problem committed after, BuiltAs problem .small ∧
      [6].foldlM (fun decisions (node : Nat) => Problem.commit (.record node) decisions) []
          problem = .ok [.record 6] committed ∧
        Problem.search committed = .ok [.record 4] after ∧
        Problem.sample (fun _ _ => (0, ())) () committed = (.ok [.record 4] after, ()) := by
  obtain ⟨problem, builtAs, isSmallest⟩ := exists_builtAs_small
  obtain ⟨committed, answer, after, commits, searched, samples⟩ := @first_draws_search problem .small
    builtAs isSmallest (by decide) [6] (by decide) (List.pairwise_singleton _ _)
  obtain ⟨later, sampled⟩ := samples (fun _ _ => (0, ())) () fun _ _ _ => rfl
  obtain ⟨web, updates, policy, rfl, shown⟩ := builtAs.shows
  obtain rfl : policy = .smallest := isSmallest
  obtain ⟨-, between, commits'⟩ := Layout.commits_web builtAs.proper shown
    (by decide : ∀ node ∈ [6], node ∈ Layout.small.nodes) (List.pairwise_singleton _ _)
    (fun _ _ => rfl) Layout.isTrail_nil updates Layout.small.primary.length []
  cases commits.symm.trans commits'
  obtain ⟨more, searched'⟩ := search_small builtAs.proper shown between Layout.small.primary.length
  cases searched.symm.trans searched'
  exact ⟨_, _, _, builtAs, commits, searched, sampled⟩

end ExactCover
