import ExactCover.Proofs.Build.Steps
import ExactCover.Proofs.Search.Sampling

/-!
# Answers and the arena

Between two calls nothing is kept but the arena and the answer of the last call. These two agree: calls
of `search`, of `next` and of the random search, however many rows they tried and gave up, leave the web
of the rows that they return (`found_web`).

So an answer can be taken for decisions that were made by hand. Deciding for its rows once more, from
where the search began, leads to the arena that the search has left, and the search goes on from there
to the same answer (`replayed_answer_restores`). And an answer is undone together with the decisions it
was found on top of, at once or in parts (`undo_restores`).
-/

set_option autoImplicit false

namespace ExactCover

/-- The answers that calls on a problem give, each with the problem that the call leaves: of `search`,
of `next` on an answer given before, and of the random search with any draws. -/
inductive Problem.Found (problem : Problem) : List Link → Problem → Prop
  | search {answer : List Link} {after : Problem} :
      Problem.search problem = .ok answer after → Found problem answer after
  | next {earlier answer : List Link} {between after : Problem} :
      Found problem earlier between → Problem.next earlier between = .ok answer after →
      Found problem answer after
  | sample {σ : Type} {draw : σ → Nat → Nat × σ} {source later : σ} {answer : List Link}
      {after : Problem} :
      Problem.sample draw source problem = (.ok answer after, later) → Found problem answer after

/-- Decides for the rows of several piles, for each pile without regard to the others. -/
def Problem.commitPiles (piles : List (List Nat)) : ProblemM (List (List Link)) :=
  piles.mapM fun pile =>
    pile.foldlM (fun decisions (node : Nat) => Problem.commit (.record node) decisions) []

namespace Layout

variable {layout : Layout} {start : Web} {covered path : List Nat} {policy : Policy}

section

variable (proper : layout.Proper) (built : start.Shows layout [])
include proper built

/-- **Deciding for the rows of several piles.** -/
theorem commitPiles_of_allows {piles : List (List Nat)} (trail : layout.IsTrail covered)
    (allowed : layout.Allows covered piles.flatten) (updates primaryCount : Nat) :
    ∃ more, Problem.commitPiles piles
        ⟨(layout.web start covered).arena updates, policy, primaryCount⟩ =
      .ok (piles.map linksTo)
        ⟨(layout.web start (layout.withRows covered piles.flatten)).arena more, policy,
          primaryCount⟩ := by
  induction piles generalizing covered updates with
  | nil => exact ⟨updates, rfl⟩
  | cons pile piles ih =>
      rw [List.flatten_cons, allows_append] at allowed
      obtain ⟨between, first⟩ := commits_of_allows proper built trail allowed.1 updates primaryCount []
      obtain ⟨more, rest⟩ :=
        ih (trail.withRows built.sound proper allowed.1) allowed.2 between
      refine ⟨more, ?_⟩
      rw [Problem.commitPiles, List.mapM_cons]
      refine (bind_of_ok first).trans ?_
      refine (bind_of_ok rest).trans ?_
      simp [pure, EStateM.pure]

/-! ## What calls leave -/

variable (small : ∀ column ∈ layout.primary,
    ((layout.members column).length : Int) < Arena.sizeBound)
  (trail : layout.IsTrail covered)
include small trail

/-- From an answer on there is one next answer, whichever way columns are taken. -/
theorem next_of_isAnswer (policy : Policy) (isAnswer : layout.IsAnswer covered path) :
    ∃ answer, layout.IsAnswer covered answer ∧ ∀ updates primaryCount, ∃ more,
      Problem.next (linksTo path)
          ⟨(layout.web start (layout.withRows covered path)).arena updates, policy, primaryCount⟩ =
        .ok (linksTo answer)
          ⟨(layout.web start (layout.withRows covered answer)).arena more, policy, primaryCount⟩ :=
  next_web_answer proper built (fun _ => small) trail isAnswer

/-- **What a call leaves is the web of its answer.** -/
theorem found_web {updates primaryCount : Nat} {answer : List Link} {after : Problem}
    (found : Problem.Found ⟨(layout.web start covered).arena updates, policy, primaryCount⟩
      answer after) :
    ∃ path more, answer = linksTo path ∧ layout.IsAnswer covered path ∧
      after =
        ⟨(layout.web start (layout.withRows covered path)).arena more, policy, primaryCount⟩ := by
  induction found with
  | search returned =>
      obtain ⟨path, isAnswer, calls⟩ := next_of_isAnswer proper built small trail policy
        (isAnswer_nil : layout.IsAnswer covered [])
      obtain ⟨more, called⟩ := calls updates primaryCount
      cases returned.symm.trans called
      exact ⟨path, more, rfl, isAnswer, rfl⟩
  | next _ returned ih =>
      obtain ⟨earlier, between, rfl, isAnswer, rfl⟩ := ih
      obtain ⟨path, isNext, calls⟩ := next_of_isAnswer proper built small trail policy isAnswer
      obtain ⟨more, called⟩ := calls between primaryCount
      cases returned.symm.trans called
      exact ⟨path, more, rfl, isNext, rfl⟩
  | @sample σ draw source _ _ _ returned =>
      obtain ⟨path, more, -, isAnswer, called⟩ := @sample_web σ draw layout start covered proper
        built small trail updates primaryCount policy source
      cases returned.symm.trans called
      exact ⟨path, more, rfl, isAnswer, rfl⟩

end

end Layout

/-! ## Problems that were built -/

/-- With the row of the record 6 decided for, the search finds the row of the records 4 and 5. -/
theorem search_small {start : Web} (proper : Layout.small.Proper)
    (built : start.Shows Layout.small []) (updates primaryCount : Nat) :
    ∃ more, Problem.search
        ⟨(Layout.small.web start (Layout.small.withRows [] [6])).arena updates, .smallest,
          primaryCount⟩ =
      .ok [.record 4]
        ⟨(Layout.small.web start (Layout.small.withRows [] [6, 4])).arena more, .smallest,
          primaryCount⟩ := by
  have trail := Layout.isTrail_nil.withRow built.sound proper (by decide : 6 ∈ Layout.small.nodes) rfl
  obtain ⟨answer, more, isFirst, -, called⟩ := @Layout.next_web_fresh Layout.small start _ .smallest
    proper built (fun _ => by decide) trail (by decide) updates primaryCount
  have first : Policy.smallest.pick
      (Layout.small.demandsLeft (Layout.small.withRow [] 6)) = some ⟨1, [⟨4, [1, 3]⟩]⟩ := rfl
  have last : Policy.smallest.pick
      (strike [1, 1, 3] (Layout.small.demandsLeft (Layout.small.withRow [] 6))) = none := rfl
  rw [algorithmX_of_some first, List.flatMap_singleton, algorithmX_of_none last] at isFirst
  subst isFirst
  exact ⟨more, called⟩

/-- **An answer tells the arena that its search has left.** Rows that share no column are decided for,
and then calls are made. Deciding for the rows of an answer, from where the calls began, makes every
record what the calls have left, and `next` goes on from there to the same answer as from what the calls
have left. (No column has more rows than a search can count.) -/
theorem replayed_answer_restores {problem : Problem} {layout : Layout}
    (builtAs : BuiltAs problem layout)
    (small : ∀ column ∈ layout.primary, ((layout.members column).length : Int) < Arena.sizeBound)
    {forced : List Nat} (areNodes : ∀ node ∈ forced, node ∈ layout.nodes)
    (apart : forced.Pairwise fun one other =>
      (layout.columnsOf one).Disjoint (layout.columnsOf other)) :
    ∃ committed,
      forced.foldlM (fun decisions (node : Nat) => Problem.commit (.record node) decisions) []
          problem = .ok (linksTo forced) committed ∧
        (∃ answer after, Problem.search committed = .ok answer after) ∧
        (∀ {σ : Type} (draw : σ → Nat → Nat × σ) (source : σ), ∃ answer after later,
          Problem.sample draw source committed = (.ok answer after, later)) ∧
        ∀ answer after, committed.Found answer after → ∃ replayed later final final',
          answer.foldlM (fun decisions node => Problem.commit node decisions) [] committed =
              .ok answer replayed ∧
            replayed.arena.nodes = after.arena.nodes ∧
            Problem.next answer after = .ok later final ∧
            Problem.next answer replayed = .ok later final' ∧
            final'.arena.nodes = final.arena.nodes := by
  obtain ⟨web, updates, policy, rfl, shown⟩ := builtAs.shows
  have proper := builtAs.proper
  have free : ∀ node ∈ forced, layout.meets [] node = false := fun _ _ => rfl
  obtain ⟨trail, between, committed⟩ := Layout.commits_web proper shown areNodes apart free
    Layout.isTrail_nil updates layout.primary.length []
  refine ⟨_, committed, ?_, ?_, ?_⟩
  · obtain ⟨path, -, calls⟩ := Layout.next_of_isAnswer proper shown small trail policy
      Layout.isAnswer_nil
    obtain ⟨more, called⟩ := calls between layout.primary.length
    exact ⟨_, _, called⟩
  · intro σ draw source
    obtain ⟨path, more, -, -, called⟩ := @Layout.sample_web σ draw layout web _ proper shown small
      trail between layout.primary.length policy source
    exact ⟨_, _, _, called⟩
  · intro answer after found
    obtain ⟨path, spent, rfl, isAnswer, rfl⟩ := Layout.found_web proper shown small trail found
    obtain ⟨more, replayed⟩ := @Layout.commits_of_allows layout web _ path policy proper shown trail
      isAnswer.allowed between layout.primary.length []
    rw [← foldlM_commit_linksTo] at replayed
    obtain ⟨path', -, calls⟩ := Layout.next_of_isAnswer proper shown small trail policy isAnswer
    obtain ⟨_, fromLeft⟩ := calls spent layout.primary.length
    obtain ⟨_, fromReplayed⟩ := calls more layout.primary.length
    exact ⟨_, _, _, _, replayed, rfl, fromLeft, fromReplayed, rfl⟩

/-- The row of the record 6 is committed, and the search finds the row of the record 4. -/
theorem replayed_answer_restores_small :
    ∃ problem committed after replayed, BuiltAs problem .small ∧
      [6].foldlM (fun decisions (node : Nat) => Problem.commit (.record node) decisions) []
          problem = .ok [.record 6] committed ∧
        Problem.search committed = .ok [.record 4] after ∧
        [Link.record 4].foldlM (fun decisions node => Problem.commit node decisions) [] committed =
          .ok [.record 4] replayed ∧
        replayed.arena.nodes = after.arena.nodes := by
  obtain ⟨problem, builtAs, isSmallest⟩ := exists_builtAs_small
  obtain ⟨committed, commits, -, -, replays⟩ := @replayed_answer_restores problem .small builtAs
    (by decide) [6] (by decide) (List.pairwise_singleton _ _)
  obtain ⟨web, updates, policy, rfl, shown⟩ := builtAs.shows
  obtain rfl : policy = .smallest := isSmallest
  obtain ⟨-, between, commits'⟩ := Layout.commits_web builtAs.proper shown
    (by decide : ∀ node ∈ [6], node ∈ Layout.small.nodes) (List.pairwise_singleton _ _)
    (fun _ _ => rfl) Layout.isTrail_nil updates Layout.small.primary.length []
  cases commits.symm.trans commits'
  obtain ⟨more, searched⟩ := search_small builtAs.proper shown between Layout.small.primary.length
  obtain ⟨replayed, _, _, _, recommits, same, -⟩ := replays _ _ (.search searched)
  exact ⟨_, _, _, replayed, builtAs, commits, searched, recommits, same⟩

/-- **Undoing leaves every record as it was before the first decision.** Piles of rows are decided for,
none of which shares a column with another, and then calls are made. Undoing the decisions of all piles
with those of an answer uses them up, and so does undoing the later ones first and then the others, with
the same outcome. (`Problem.undo` is this undoing without the decisions that are left. No column has more
rows than a search can count.) -/
theorem undo_restores {problem : Problem} {layout : Layout} (builtAs : BuiltAs problem layout)
    (small : ∀ column ∈ layout.primary, ((layout.members column).length : Int) < Arena.sizeBound)
    {piles : List (List Nat)} (areNodes : ∀ node ∈ piles.flatten, node ∈ layout.nodes)
    (apart : piles.flatten.Pairwise fun one other =>
      (layout.columnsOf one).Disjoint (layout.columnsOf other)) :
    ∃ committed, Problem.commitPiles piles problem = .ok (piles.map linksTo) committed ∧
      ∀ answer after, committed.Found answer after → ∃ restored,
        Problem.deciding ((piles.map linksTo).flatten ++ answer) Search.undo after =
            .ok [] restored ∧
          restored.arena.nodes = problem.arena.nodes ∧
          ∀ early late, (piles.map linksTo).flatten ++ answer = early ++ late → ∃ between,
            Problem.deciding late Search.undo after = .ok [] between ∧
              Problem.deciding early Search.undo between = .ok [] restored := by
  obtain ⟨web, updates, policy, rfl, shown⟩ := builtAs.shows
  have proper := builtAs.proper
  have free : ∀ node ∈ piles.flatten, layout.meets [] node = false := fun _ _ => rfl
  have before := Layout.allows_of_apart areNodes apart free
  have trail := Layout.isTrail_nil.withRows shown.sound proper before
  obtain ⟨spent, committed⟩ := @Layout.commitPiles_of_allows layout web [] policy proper shown piles
    Layout.isTrail_nil before updates layout.primary.length
  refine ⟨_, committed, fun answer after found => ?_⟩
  obtain ⟨path, more, rfl, isAnswer, rfl⟩ := Layout.found_web proper shown small trail found
  have allowed : layout.Allows [] (piles.flatten ++ path) :=
    Layout.allows_append.2 ⟨before, isAnswer.allowed⟩
  have joined : (piles.map linksTo).flatten ++ linksTo path = linksTo (piles.flatten ++ path) := by
    simp
  rw [joined, ← Layout.withRows_append]
  refine ⟨_, Layout.undo_web proper shown Layout.isTrail_nil allowed more _, rfl, ?_⟩
  intro early late split
  obtain ⟨one, other, parts, rfl, rfl⟩ := List.map_eq_append_iff.1 split
  rw [parts] at allowed ⊢
  obtain ⟨first, second⟩ := Layout.allows_append.1 allowed
  rw [Layout.withRows_append]
  exact ⟨_, Layout.undo_web proper shown (Layout.isTrail_nil.withRows shown.sound proper first)
    second more _, Layout.undo_web proper shown Layout.isTrail_nil first more _⟩

/-- The row of the record 6 is committed, the search finds the row of the record 4, and both are undone
one after the other. -/
theorem undo_restores_small :
    ∃ problem committed after between restored, BuiltAs problem .small ∧
      Problem.commitPiles [[6]] problem = .ok [[.record 6]] committed ∧
      Problem.search committed = .ok [.record 4] after ∧
      Problem.deciding [.record 4] Search.undo after = .ok [] between ∧
      Problem.deciding [.record 6] Search.undo between = .ok [] restored ∧
      restored.arena.nodes = problem.arena.nodes := by
  obtain ⟨problem, builtAs, isSmallest⟩ := exists_builtAs_small
  obtain ⟨committed, commits, undoes⟩ := @undo_restores problem .small builtAs (by decide) [[6]]
    (by decide) (List.pairwise_singleton _ _)
  obtain ⟨web, updates, policy, rfl, shown⟩ := builtAs.shows
  obtain rfl : policy = .smallest := isSmallest
  obtain ⟨spent, commits'⟩ := @Layout.commitPiles_of_allows Layout.small web [] .smallest
    builtAs.proper shown [[6]] Layout.isTrail_nil ⟨by decide, rfl, trivial⟩ updates
    Layout.small.primary.length
  cases commits.symm.trans commits'
  obtain ⟨more, searched⟩ := search_small builtAs.proper shown spent Layout.small.primary.length
  obtain ⟨restored, -, same, parts⟩ := undoes _ _ (.search searched)
  obtain ⟨between, late, early⟩ := parts [.record 6] [.record 4] rfl
  exact ⟨_, _, _, between, restored, builtAs, commits, searched, late, early, same⟩

end ExactCover
