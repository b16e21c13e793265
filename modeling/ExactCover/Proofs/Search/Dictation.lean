import ExactCover.Proofs.Build.Steps
import ExactCover.Proofs.Search.Collecting
import ExactCover.Proofs.Search.Sampling
import ExactCover.Proofs.Search.Sources

/-!
# Every solution can be drawn

The random search leaves no solution out. Take a set of rows that a search finds, whichever way that
search takes its columns. Whatever smallest column the random search takes, one row of the column is in
the set. So dictate the place of that row among the rows of the column, and go on with what the row
leaves. No row is ever given up on the way, and every number is a place among the rows that are there.

The numbers are dictated by a list, and the bounds that they are drawn below are recorded. The list is
used up by the time that the rows are found, so exactly its numbers are drawn.

Main statements: `exists_dictation` (numbers for every path of Algorithm X) and `solutions_can_be_drawn`.
-/

set_option autoImplicit false

namespace ExactCover

/-- A source that gives the numbers of a list one after the other, and zero behind its end. -/
def dictated : List Nat → Nat → Nat × List Nat
  | [], _ => (0, [])
  | number :: numbers, _ => (number, numbers)

/-- The place of an item is dictated, and the item is drawn. -/
theorem drawFrom_dictated {α : Type} {items : List α} {place : Nat} (inside : place < items.length)
    (numbers bounds : List Nat) :
    drawFrom (Sampling.recording dictated) items (place :: numbers, bounds) =
      (some (items[place], items.eraseIdx place), (numbers, items.length :: bounds)) := by
  have inhabited : items.isEmpty = false := by
    rw [List.isEmpty_eq_false_iff]
    exact List.ne_nil_of_length_pos (Nat.zero_lt_of_lt inside)
  simp [drawFrom, inhabited, Sampling.recording, dictated, inside]

namespace Layout

variable {layout : Layout} {count : Nat} {covered : List Nat}

/-- **For every path of Algorithm X there are numbers that make the drawing procedure find it.** Each of
them is below the bound that it is drawn below, and no other number is drawn. -/
theorem exists_dictation (sound : layout.Sound count) {path : List Nat}
    (inside : path ∈ algorithmX .smallest (layout.demandsLeft covered)) :
    ∃ numbers bounds, List.Forall₂ (· < ·) numbers bounds ∧ ∀ further earlier,
      drawX (Sampling.recording dictated) (layout.demandsLeft covered) (numbers ++ further, earlier) =
        (some path, (further, bounds.reverse ++ earlier)) := by
  generalize left : (layout.active covered).length = depth
  induction depth using Nat.strong_induction_on generalizing covered path with
  | _ depth ih =>
      rw [algorithmX_demandsLeft sound] at inside
      cases isChosen : layout.chosen covered .smallest with
      | none =>
          rw [isChosen, List.mem_singleton] at inside
          subst inside
          exact ⟨[], [], .nil, fun further earlier =>
            drawX_demandsLeft_nil (chosen_eq_none.1 isChosen) (further, earlier)⟩
      | some column =>
          rw [isChosen, List.mem_flatMap] at inside
          obtain ⟨node, isLive, inside⟩ := inside
          obtain ⟨rest, isRest, rfl⟩ := List.mem_map.1 inside
          have fewer := length_active_withRow_lt sound (mem_active_of_chosen isChosen) isLive
          obtain ⟨numbers, bounds, inRange, found⟩ := ih _ (left ▸ fewer) isRest rfl
          obtain ⟨place, isPlace, rfl⟩ := List.getElem_of_mem isLive
          refine ⟨place :: numbers, (layout.live covered column).length :: bounds,
            .cons isPlace inRange, fun further earlier => ?_⟩
          rw [drawX_demandsLeft sound isChosen, List.cons_append,
            tryDrawn_of_some (drawFrom_dictated isPlace (numbers ++ further) earlier), drawnRow, found]
          simp

/-- A set of rows that a search finds is also found by a search that takes the smallest columns. -/
theorem exists_path_of_smallest (sound : layout.Sound count) (proper : layout.Proper)
    {policy : Policy} {path : List Nat}
    (inside : path ∈ algorithmX policy (layout.demandsLeft covered)) :
    ∃ other ∈ algorithmX .smallest (layout.demandsLeft covered),
      (layout.rowsOf other).toFinset = (layout.rowsOf path).toFinset := by
  have found : (layout.rowsOf path).toFinset ∈ layout.completions policy covered :=
    List.mem_map.2 ⟨path, inside, rfl⟩
  have complete := (mem_completions_iff sound proper).1 found
  exact List.mem_map.1 ((mem_completions_iff sound proper).2 complete)

end Layout

/-! ## Problems that were built -/

/-- **Every solution can be drawn.** Rows that share no column are decided for, and they leave a primary
column. For every solution there is a list of numbers such that the random search, when these are the
numbers that it draws, finds the rows of the solution and no others. Each number is below the bound that
it is drawn below, and all of them are used up. (No column has more rows than a search can count.) -/
theorem solutions_can_be_drawn {problem : Problem} {layout : Layout}
    (builtAs : BuiltAs problem layout)
    (small : ∀ column ∈ layout.primary, ((layout.members column).length : Int) < Arena.sizeBound)
    {forced : List Nat} (areNodes : ∀ node ∈ forced, node ∈ layout.nodes)
    (apart : forced.Pairwise fun one other =>
      (layout.columnsOf one).Disjoint (layout.columnsOf other))
    (left : ∃ column ∈ layout.primary, column ∉ forced.flatMap layout.columnsOf) :
    ∃ (committed : Problem) (solutions : List (List Link)) (restored : Problem),
      forced.foldlM (fun decisions (node : Nat) => Problem.commit (.record node) decisions) []
          problem = .ok (linksTo forced) committed ∧
        Problem.solutions none committed = .ok solutions restored ∧
        ∀ solution ∈ solutions, ∃ (path drawn numbers bounds : List Nat) (after : Problem),
          solution = linksTo path ∧
            Problem.sample (Sampling.recording dictated) (numbers, []) committed =
              (.ok (linksTo drawn) after, ([], bounds)) ∧
            List.Forall₂ (· < ·) numbers bounds.reverse ∧
            (layout.rowsOf drawn).toFinset = (layout.rowsOf path).toFinset := by
  obtain ⟨web, updates, policy, rfl, shown⟩ := builtAs.shows
  have proper := builtAs.proper
  have sound := shown.sound
  obtain ⟨trail, between, committed⟩ := Layout.commits_web proper shown areNodes apart
    (fun _ _ => rfl) Layout.isTrail_nil updates layout.primary.length []
  have nonempty := Layout.active_withRows_ne_nil left
  obtain ⟨more, solved⟩ := Layout.solutions_web proper shown (fun _ => small) trail none between
    layout.primary.length
  refine ⟨_, _, _, committed, solved, fun solution isSolution => ?_⟩
  rw [upTo, Layout.enumerated, if_neg nonempty] at isSolution
  obtain ⟨path, inside, rfl⟩ := List.mem_map.1 isSolution
  obtain ⟨drawn, isDrawn, sameRows⟩ := Layout.exists_path_of_smallest sound proper inside
  obtain ⟨numbers, bounds, inRange, found⟩ := Layout.exists_dictation sound isDrawn
  have finds := found [] []
  simp only [List.append_nil] at finds
  obtain ⟨answer, spent, isAnswer, -, called⟩ := Layout.sample_web proper shown small trail between
    layout.primary.length policy (numbers, [])
  rw [finds] at isAnswer called
  obtain rfl : answer = drawn := isAnswer
  refine ⟨path, answer, numbers, bounds.reverse, _, rfl, called, ?_, sameRows⟩
  rwa [List.reverse_reverse]

/-- The rows of the records 4 and 6 are a solution, and they can be drawn. -/
theorem solutions_can_be_drawn_small :
    ∃ (problem : Problem) (solutions : List (List Link)) (restored : Problem)
        (drawn numbers bounds : List Nat) (after : Problem),
      BuiltAs problem .small ∧ Problem.solutions none problem = .ok solutions restored ∧
        [.record 4, .record 6] ∈ solutions ∧
        Problem.sample (Sampling.recording dictated) (numbers, []) problem =
          (.ok (linksTo drawn) after, ([], bounds)) ∧
        List.Forall₂ (· < ·) numbers bounds.reverse ∧
        (Layout.small.rowsOf drawn).toFinset = {[4, 5], [6]} := by
  obtain ⟨problem, builtAs, isSmallest⟩ := exists_builtAs_small
  obtain ⟨committed, solutions, restored, commits, solved, draws⟩ :=
    @solutions_can_be_drawn problem .small builtAs (by decide) [] (by simp) .nil
      ⟨1, by decide, by decide⟩
  cases commits
  have isFound : [.record 4, .record 6] ∈ solutions := by
    obtain ⟨web, updates, policy, rfl, shown⟩ := builtAs.shows
    obtain rfl : policy = .smallest := isSmallest
    have first : Policy.smallest.pick Layout.small.demands = some ⟨1, [⟨4, [1, 3]⟩]⟩ := rfl
    have second : Policy.smallest.pick (strike [1, 1, 3] Layout.small.demands) =
        some ⟨2, [⟨6, [2]⟩]⟩ := rfl
    have last : Policy.smallest.pick
        (strike [2, 2] (strike [1, 1, 3] Layout.small.demands)) = none := rfl
    obtain ⟨more, solved'⟩ := @Layout.solutions_web Layout.small web [] .smallest builtAs.proper shown
      (fun _ => by decide) Layout.isTrail_nil none updates Layout.small.primary.length
    rw [upTo, Layout.enumerated, if_neg (by decide), Layout.demandsLeft_nil,
      algorithmX_of_some first, List.flatMap_singleton, algorithmX_of_some second,
      List.flatMap_singleton, algorithmX_of_none last] at solved'
    obtain ⟨rfl, -⟩ := EStateM.Result.ok.inj (solved.symm.trans solved')
    exact List.mem_singleton_self _
  obtain ⟨path, drawn, numbers, bounds, after, isPath, called, inRange, sameRows⟩ := draws _ isFound
  obtain rfl : [4, 6] = path := Layout.linksTo_injective isPath
  exact ⟨problem, solutions, restored, drawn, numbers, bounds, after, builtAs, solved, isFound, called,
    inRange, sameRows.trans (by decide)⟩

end ExactCover
