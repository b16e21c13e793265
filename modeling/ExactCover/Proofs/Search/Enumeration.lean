import ExactCover.Proofs.Build.Steps
import ExactCover.Proofs.Search.Completion
import ExactCover.Proofs.Search.Decisions

/-!
# What repeated calls enumerate

A search that is called again and again, each time with the answer before, gives the answers of
Algorithm X in their order and then none (`next_reproduces_algorithmX`). Read as sets of rows, these
are the completions of what was committed by hand before the search, each of them once
(`next_enumerates_completions`).

The statements are about problems that have come out of steps of building. Their proofs only use that
the arena is that of a web which shows the layout, so they begin at any trail (`enumerates_web`).
-/

set_option autoImplicit false

namespace ExactCover

namespace Layout

variable {layout : Layout} {start : Web} {covered : List Nat} {policy : Policy}

section

variable (proper : layout.Proper) (built : start.Shows layout [])
include proper built

/-! ## From a trail -/

section

variable (small : policy = .smallest → ∀ column ∈ layout.primary,
    ((layout.members column).length : Int) < Arena.sizeBound)
  (trail : layout.IsTrail covered) (nonempty : layout.active covered ≠ [])
include small trail nonempty

/-- The run of a search that begins at a trail without decisions. -/
theorem runs_web (updates : Nat) :
    ∃ actions more, actions < Search.actionBound start.count start.count ∧
      Search.Runs policy start.count actions .choose (layout.search start covered updates [])
        ((algorithmX policy (layout.demandsLeft covered)).map linksTo)
        .retry (layout.search start covered more []) := by
  have short := length_active_le built.sound covered
  obtain ⟨actions, more, cheap, run⟩ :=
    runs_choose proper built small start.count trail nonempty short [] updates
  exact ⟨actions, more, by omega, run⟩

/-- Repeated calls from a trail on. -/
theorem enumerates_web (updates primaryCount : Nat) :
    ∃ more, Problem.Enumerates ⟨(layout.web start covered).arena updates, policy, primaryCount⟩ []
      ((algorithmX policy (layout.demandsLeft covered)).map linksTo)
      ⟨(layout.web start covered).arena more, policy, primaryCount⟩ := by
  obtain ⟨actions, more, enough, run⟩ := runs_web proper built small trail nonempty updates
  have unsolved := isSolved_web proper built trail updates
  rw [List.isEmpty_eq_false_iff.2 nonempty] at unsolved
  exact ⟨more, Problem.enumerates_of_runs run rfl unsolved rfl (by simp [search]) enough⟩

end

end

end Layout

/-! ## Problems that were built -/

/-- **Repeated calls give the answers of Algorithm X**, in the same order, and then none. If a smallest
column is taken each time, the columns have fewer rows than the bound that the search for it starts
from. -/
theorem next_reproduces_algorithmX {problem : Problem} {layout : Layout}
    (builtAs : BuiltAs problem layout)
    (small : problem.policy = .smallest → ∀ column ∈ layout.primary,
      ((layout.members column).length : Int) < Arena.sizeBound)
    (nonempty : layout.primary ≠ []) :
    ∃ final, problem.Enumerates [] ((algorithmX problem.policy layout.demands).map linksTo) final := by
  obtain ⟨web, updates, policy, rfl, shown⟩ := builtAs.shows
  have active : layout.active [] ≠ [] := by simpa [Layout.active] using nonempty
  obtain ⟨more, enumerates⟩ := Layout.enumerates_web builtAs.proper shown small Layout.isTrail_nil
    active updates layout.primary.length
  rw [Layout.demandsLeft_nil] at enumerates
  exact ⟨_, enumerates⟩

theorem next_reproduces_algorithmX_small : ∃ problem final, BuiltAs problem .small ∧
    problem.Enumerates [] [[.record 4, .record 6]] final := by
  obtain ⟨problem, builtAs, isSmallest⟩ := exists_builtAs_small
  have answers : algorithmX problem.policy Layout.small.demands = [[4, 6]] := by
    have first : Policy.smallest.pick Layout.small.demands = some ⟨1, [⟨4, [1, 3]⟩]⟩ := rfl
    have second : Policy.smallest.pick (strike [1, 1, 3] Layout.small.demands) =
        some ⟨2, [⟨6, [2]⟩]⟩ := rfl
    have last : Policy.smallest.pick
        (strike [2, 2] (strike [1, 1, 3] Layout.small.demands)) = none := rfl
    rw [isSmallest, algorithmX_of_some first, List.flatMap_singleton, algorithmX_of_some second,
      List.flatMap_singleton, algorithmX_of_none last]
    rfl
  obtain ⟨final, enumerates⟩ := next_reproduces_algorithmX builtAs (fun _ => by decide) (by decide)
  rw [answers] at enumerates
  exact ⟨problem, final, builtAs, enumerates⟩

/-- **Repeated calls give the completions of what was committed**, each of them once, and then none.
The rows of the committed records share no column, and they leave a primary column uncovered. -/
theorem next_enumerates_completions {problem : Problem} {layout : Layout}
    (builtAs : BuiltAs problem layout)
    (small : problem.policy = .smallest → ∀ column ∈ layout.primary,
      ((layout.members column).length : Int) < Arena.sizeBound)
    {forced : List Nat} (areNodes : ∀ node ∈ forced, node ∈ layout.nodes)
    (apart : forced.Pairwise fun one other =>
      (layout.columnsOf one).Disjoint (layout.columnsOf other))
    (left : ∃ column ∈ layout.primary, column ∉ forced.flatMap layout.columnsOf) :
    ∃ (committed : Problem) (paths : List (List Nat)) (final : Problem),
      forced.foldlM (fun decisions (node : Nat) => Problem.commit (.record node) decisions) []
          problem = .ok (linksTo forced) committed ∧
        committed.Enumerates [] (paths.map linksTo) final ∧
        (∀ path ∈ paths, (layout.rowsOf path).Nodup ∧ ∀ node ∈ path, node ∈ layout.nodes) ∧
        (paths.map fun path => (layout.rowsOf path).toFinset).Nodup ∧
        ∀ chosen : Finset (List Nat),
          chosen ∈ paths.map (fun path => (layout.rowsOf path).toFinset) ↔
            layout.IsCompletion (forced.flatMap layout.columnsOf) chosen := by
  obtain ⟨web, updates, policy, rfl, shown⟩ := builtAs.shows
  have proper := builtAs.proper
  have free : ∀ node ∈ forced, layout.meets [] node = false := fun _ _ => rfl
  obtain ⟨trail, between, committed⟩ := Layout.commits_web proper shown areNodes apart free
    Layout.isTrail_nil updates layout.primary.length []
  have covered : ∀ column, column ∈ layout.withRows [] forced ↔
      column ∈ forced.flatMap layout.columnsOf := fun column => by
    rw [Layout.mem_withRows, or_iff_left List.not_mem_nil]
  have nonempty : layout.active (layout.withRows [] forced) ≠ [] := by
    obtain ⟨column, isPrimary, uncovered⟩ := left
    refine List.ne_nil_of_mem (Layout.mem_active.2 ⟨isPrimary, ?_⟩ : column ∈ _)
    rwa [covered]
  obtain ⟨more, enumerates⟩ := Layout.enumerates_web proper shown small trail nonempty between
    layout.primary.length
  refine ⟨_, _, _, committed, enumerates, ?_, ?_, fun chosen => ?_⟩
  · exact fun path inside => Layout.path_of_mem_algorithmX shown.sound proper inside
  · exact Layout.completions_nodup shown.sound proper
  · rw [← Layout.isCompletion_congr covered]
    exact Layout.mem_completions_iff shown.sound proper

/-- With the row of the record 6 committed, the row of the records 4 and 5 is found. -/
theorem next_enumerates_completions_small :
    ∃ (problem committed : Problem) (paths : List (List Nat)) (final : Problem),
      BuiltAs problem .small ∧
        [6].foldlM (fun decisions (node : Nat) => Problem.commit (.record node) decisions) []
            problem = .ok [.record 6] committed ∧
        committed.Enumerates [] (paths.map linksTo) final ∧
        {[4, 5]} ∈ paths.map (fun path => (Layout.small.rowsOf path).toFinset) := by
  obtain ⟨problem, builtAs, -⟩ := exists_builtAs_small
  obtain ⟨committed, paths, final, commits, enumerates, -, -, complete⟩ :=
    @next_enumerates_completions problem .small builtAs (fun _ => by decide) [6] (by decide)
      (List.pairwise_singleton _ _) ⟨1, by decide, by decide⟩
  refine ⟨problem, committed, paths, final, builtAs, commits, enumerates, (complete _).2 ?_⟩
  exact
    { rows := by decide
      apart := by decide
      driven := by decide
      primary := fun column isPrimary uncovered => by
        have isFirst : column = 1 := by
          revert column
          decide
        subst isFirst
        exact ⟨[4, 5], by decide, fun row here => Finset.mem_singleton.1 here.1⟩
      secondary := fun _ _ _ isOne _ isOther _ _ =>
        (Finset.mem_singleton.1 isOne).trans (Finset.mem_singleton.1 isOther).symm }

end ExactCover
