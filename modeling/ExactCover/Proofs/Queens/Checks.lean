import ExactCover.Proofs.Queens.Counting
import ExactCover.Proofs.Search.Sampling

/-!
# Checks that never fail

A run can check what it finds. Each board that it reads off is to be valid, it is to hold the forced
queens, and the board is to be as it was once the run is over. None of these checks ever stops a run:

* what is enumerated are the valid boards (`enumerate_upTo`),
* what is drawn is among what is enumerated, or nothing is drawn and nothing is checked, and undoing it
  leads back to the board that the next draw begins with (`drawOne_eq`, `drawMany_eq`),
* what is found with forced queens holds them (`complete_upTo`).

So a run comes to the same end with and without checks (`checks_change_nothing`). With forced queens it is
stopped before it has found anything, if two of their squares share a line or one of them is off the
board.
-/

set_option autoImplicit false

namespace ExactCover

open Board

/-! ## Random solutions -/

namespace Runs

/-- **What a draw does**: it searches, reads the board off, checks it if it is to, and undoes what it
has found. -/
theorem drawOne_eq_ok_iff {queens : QueensProblem} {validate : Bool} {problem after : Problem}
    {stream later : Twister} {run : RandomRun} :
    drawOne queens validate problem stream = .ok (run, after, later) ↔
      ∃ decisions between board,
        Problem.sample Twister.below stream problem = (.ok decisions between, later) ∧
        ranks queens decisions = .ok board ∧
        (validate = true → decisions ≠ [] → isValid board = true) ∧
        Problem.undo decisions between = .ok () after ∧
        run = ⟨!decisions.isEmpty && isValid board,
          after.arena.updates - problem.arena.updates, span, board⟩ := by
  constructor
  · intro drawn
    rw [drawOne] at drawn
    generalize Problem.sample Twister.below stream problem = outcome at drawn ⊢
    obtain ⟨result, rest⟩ := outcome
    cases result with
    | error error broken => cases drawn
    | ok decisions between =>
        simp only [onProblem, bind, Except.bind, pure, Except.pure] at drawn
        cases read : ranks queens decisions with
        | error failure => simp [read] at drawn
        | ok board =>
            cases undone : Problem.undo decisions between with
            | error error broken =>
                simp only [read, undone] at drawn
                split at drawn
                · split at drawn <;> cases drawn
                · cases drawn
            | ok nothing restored =>
                simp only [read, undone] at drawn
                split at drawn
                · rename_i checks
                  split at drawn
                  · cases drawn
                  · rename_i passed
                    cases drawn
                    refine ⟨decisions, between, board, rfl, read, fun _ found => ?_, undone, rfl⟩
                    cases decisions with
                    | nil => exact absurd rfl found
                    | cons node others =>
                        by_contra invalid
                        simp [assert, invalid] at passed
                · rename_i checks
                  cases drawn
                  exact ⟨decisions, between, board, rfl, read, fun checks' => absurd checks' checks,
                    undone, rfl⟩
  · rintro ⟨decisions, between, board, sampled, read, valid, undone, rfl⟩
    have passes : validate = true →
        (decisions.isEmpty || (!decisions.isEmpty && isValid board)) = true := by
      intro checks
      cases decisions with
      | nil => rfl
      | cons node rest => simp [valid checks]
    rw [drawOne, sampled]
    simp only [read, onProblem_of_ok undone, bind, Except.bind, pure, Except.pure]
    cases validate with
    | false => rfl
    | true => simp only [passes rfl, assert, if_true]

end Runs

namespace QueensProblem

variable {side : Nat}

section

variable {web : Web} (follows : web.Follows (plan side)) (inhabited : 1 ≤ side)
  (small : (side : Int) < Arena.sizeBound)
include follows inhabited small

/-- **What is drawn** is read off as a board, and as a valid one if it is more than nothing. Undoing it
leads back to the board. -/
theorem sample_follows (problem : Problem) (updates : Nat) (stream : Twister) :
    ∃ (answer : List Link) (after : Problem) (later : Twister) (board : List Int) (more : Nat),
      Problem.sample Twister.below stream ⟨web.arena updates, .smallest, 2 * side⟩ =
          (.ok answer after, later) ∧
        Runs.ranks ⟨problem, side, .int side⟩ answer = .ok board ∧
        (answer ≠ [] → isValid board = true) ∧
        Problem.undo answer after = .ok () ⟨web.arena more, .smallest, 2 * side⟩ := by
  have proper := (plan side).proper follows (steps_nodup side)
  have shown := follows.shows
  have onBoard := List.forall_mem_nil (OnBoard side)
  obtain ⟨path, more, isPath, isAnswer, sampled⟩ := @Layout.sample_web Twister Twister.below _ web []
    proper shown (small_members follows (fun _ => small) rfl) Layout.isTrail_nil updates (2 * side)
    .smallest stream
  have undoes := @Layout.undone_web _ web [] path .smallest proper shown Layout.isTrail_nil
    isAnswer.allowed more (2 * side)
  have areRecords : ∀ node ∈ path, (plan side).base ≤ node ∧
      node < (plan side).base + (plan side).steps.length := fun node isNode =>
    Plan.bounds_of_node (Layout.node_of_allows isAnswer.allowed node isNode)
  have read := @board_linksTo ⟨problem, side, .int side⟩ path areRecords
  refine ⟨linksTo path, _, _, _, more, sampled, by rw [Runs.ranks, read]; rfl, fun drawn => ?_, undoes⟩
  -- An answer that is drawn is one of those that are enumerated.
  have found : path ∈ (plan side).pathsAfter .smallest (recordsOf side []) := by
    cases answered : (drawX Twister.below ((plan side).layout.demandsLeft []) stream).1 with
    | none =>
        rw [answered] at isPath
        exact absurd (congrArg linksTo isPath) drawn
    | some other =>
        rw [answered] at isPath
        obtain rfl : path = other := isPath
        exact Layout.mem_algorithmX_of_drawX shown.sound answered
  have valid := (valid_of_path onBoard .nil follows inhabited found).2.1
  rwa [recordsOf, List.map_nil, List.append_nil] at valid

/-- **One draw** comes to the same end with and without checks, and the board is as it was. -/
theorem drawOne_eq (problem : Problem) (updates : Nat) (stream : Twister) :
    ∃ (run : RandomRun) (more : Nat) (later : Twister), ∀ validate,
      Runs.drawOne ⟨problem, side, .int side⟩ validate ⟨web.arena updates, .smallest, 2 * side⟩ stream =
        .ok (run, ⟨web.arena more, .smallest, 2 * side⟩, later) := by
  obtain ⟨answer, after, later, board, more, sampled, read, valid, undone⟩ :=
    sample_follows follows inhabited small problem updates stream
  exact ⟨_, more, later, fun validate => Runs.drawOne_eq_ok_iff.2
    ⟨answer, after, board, sampled, read, fun _ => valid, undone, rfl⟩⟩

/-- **Any number of draws**, one after the other. -/
theorem drawMany_eq (problem : Problem) (count updates : Nat) (stream : Twister) :
    ∃ (runs : List RandomRun) (more : Nat), ∀ validate,
      Runs.drawMany ⟨problem, side, .int side⟩ validate count ⟨web.arena updates, .smallest, 2 * side⟩
          stream =
        .ok (runs, ⟨web.arena more, .smallest, 2 * side⟩) := by
  induction count generalizing updates stream with
  | zero => exact ⟨[], updates, fun _ => rfl⟩
  | succ count ih =>
      obtain ⟨run, between, later, one⟩ := drawOne_eq follows inhabited small problem updates stream
      obtain ⟨runs, more, others⟩ := ih between later
      refine ⟨run :: runs, more, fun validate => ?_⟩
      simp only [Runs.drawMany, one validate, others validate, bind, Except.bind, pure, Except.pure]

end

/-- A run that draws random solutions is its draws, one after the other. -/
theorem sample_of_drawMany {queens : QueensProblem} {count seed : Int} {validate : Bool}
    {runs : List RandomRun} {after : Problem} (made : ofSize (.int side) .smallest = .ok queens)
    (drawn : Runs.drawMany queens validate count.toNat queens.problem (Twister.ofSeed seed) =
      .ok (runs, after))
    (clean : Runs.isClean after = .ok true) :
    Runs.sample (.int side) (.int count) (.int seed) validate = .ok runs := by
  rw [Runs.sample, boardOf_of_made made]
  simp only [Runs.streamOf, Value.toCount, Except.mapError, bind, Except.bind, pure, Except.pure, drawn,
    clean, Runs.assert, if_true]
  cases validate with
  | false => rfl
  | true => rfl

/-- **A run that draws random solutions** goes through, whether it checks them or not. -/
theorem sample_eq (inhabited : 1 ≤ side) (small : (side : Int) < Arena.sizeBound) (count seed : Int) :
    ∃ runs : List RandomRun, ∀ validate,
      Runs.sample (.int side) (.int count) (.int seed) validate = .ok runs := by
  obtain ⟨web, follows, made⟩ := ofSize_follows inhabited .smallest
  obtain ⟨runs, more, drawn⟩ := drawMany_eq follows inhabited small ⟨web.arena 0, .smallest, 2 * side⟩
    count.toNat 0 (Twister.ofSeed seed)
  exact ⟨runs, fun validate => sample_of_drawMany made (drawn validate)
    (isClean_board follows .smallest more)⟩

/-! ## Squares that stop a run -/

section

variable {squares : List Square}

/-- **Attacking queens** stop a run at a square. -/
theorem complete_attacked (attacked : ¬ squares.Pairwise Apart) :
    ∃ square ∈ squares, ∀ (size value : Value) (validate : Bool),
      Runs.complete size (.list (squares.map Runs.squareValue)) value validate =
        .error (.attack (.int square.1) (.int square.2)) := by
  obtain ⟨square, isSquare, stops⟩ := Runs.exists_checkAttacks_eq_error attacked
  refine ⟨square, isSquare, fun size value validate => ?_⟩
  rw [Runs.complete, Runs.squaresOf_squareValue]
  simp only [Except.mapError, bind, Except.bind, stops]

/-- Forcing queens stops at a square off the board, if nothing has stopped it before. -/
theorem force_offBoard {before after : List Square} {square : Square}
    (onBoard : ∀ earlier ∈ before, OnBoard side earlier) (offBoard : ¬ OnBoard side square)
    {start problem committed : Problem} {decisions forced : List Link}
    (commits : (recordsOf side before).foldlM (fun decisions (node : Nat) =>
      Problem.commit (.record node) decisions) decisions problem = .ok forced committed) :
    Runs.force ⟨start, side, .int side⟩
        ((before ++ square :: after).map fun (rank, file) => (Value.int rank, Value.int file))
        decisions problem =
      .error (.board (.offBoard (.int square.1) (.int square.2) (.int side))) := by
  rw [List.map_append, force_append, force_eq onBoard, Runs.onProblem_of_ok commits]
  simp only [List.map_cons, Runs.force, cell_offBoard offBoard, Except.mapError, bind, Except.bind]

/-- **A square off the board** stops a run, the first one that there is. -/
theorem complete_offBoard (inhabited : 1 ≤ side) (apart : squares.Pairwise Apart)
    (outside : ¬ ∀ square ∈ squares, OnBoard side square) :
    ∃ square ∈ squares, ¬ OnBoard side square ∧ ∀ (value : Value) (validate : Bool),
      Runs.complete (.int side) (.list (squares.map Runs.squareValue)) value validate =
        .error (.board (.offBoard (.int square.1) (.int square.2) (.int side))) := by
  have first : (squares.find? fun square => decide (¬ OnBoard side square)).isSome := by
    rw [List.find?_isSome]
    simpa using outside
  obtain ⟨square, isFirst⟩ := Option.isSome_iff_exists.1 first
  obtain ⟨off, before, after, rfl, inside⟩ := List.find?_eq_some_iff_append.1 isFirst
  have offBoard : ¬ OnBoard side square := of_decide_eq_true off
  have onBoard : ∀ earlier ∈ before, OnBoard side earlier := by simpa using inside
  refine ⟨square, by simp, offBoard, fun value validate => ?_⟩
  obtain ⟨web, follows, made⟩ := ofSize_follows inhabited .smallest
  obtain ⟨-, between, commits⟩ :=
    commits_squares onBoard (List.pairwise_append.1 apart).1 follows .smallest 0
  have stops := @force_offBoard side before after square onBoard offBoard
    ⟨web.arena 0, .smallest, 2 * side⟩ _ _ _ _ commits
  rw [Runs.complete, Runs.squaresOf_squareValue]
  simp only [Except.mapError, bind, Except.bind, Runs.checkAttacks_eq_ok_iff.2 apart,
    boardOf_of_made made, stops]

end

/-! ## With and without checks -/

/-- **Checks change nothing.** A run that enumerates and a run that draws go through with and without
checks, and return the same. A run with forced queens does so too if their squares are on the board and
share no line. Otherwise it is stopped at one of the squares, with and without checks: if two share a
line, as a square that is attacked, and if none do, as a square that is off the board. (No column has more
rows than a search can count.) -/
theorem checks_change_nothing (inhabited : 1 ≤ side) (small : (side : Int) < Arena.sizeBound)
    (policy : Policy) (limit : Option Int) (count seed : Int) (squares : List Square) :
    (∃ entry, ∀ validate,
      Runs.enumerate (.int side) policy (CommandLine.limitValue limit) validate = .ok entry) ∧
    (∃ runs, ∀ validate, Runs.sample (.int side) (.int count) (.int seed) validate = .ok runs) ∧
    ((∀ square ∈ squares, OnBoard side square) → squares.Pairwise Apart → ∃ entry, ∀ validate,
      Runs.complete (.int side) (.list (squares.map Runs.squareValue))
        (CommandLine.limitValue limit) validate = .ok entry) ∧
    (¬ squares.Pairwise Apart → ∃ square ∈ squares, ∀ validate,
      Runs.complete (.int side) (.list (squares.map Runs.squareValue))
        (CommandLine.limitValue limit) validate =
          .error (.attack (.int square.1) (.int square.2))) ∧
    (squares.Pairwise Apart → (¬ ∀ square ∈ squares, OnBoard side square) →
      ∃ square ∈ squares, ¬ OnBoard side square ∧ ∀ validate,
        Runs.complete (.int side) (.list (squares.map Runs.squareValue))
          (CommandLine.limitValue limit) validate =
            .error (.board (.offBoard (.int square.1) (.int square.2) (.int side)))) := by
  have limited := CommandLine.limitOf_limitValue limit
  refine ⟨?_, sample_eq inhabited small count seed, fun onBoard apart => ?_, fun attacked => ?_,
    fun apart outside => ?_⟩
  · obtain ⟨entry, enumerated, -⟩ := enumerate_upTo inhabited (fun _ => small) limited
    exact ⟨entry, enumerated⟩
  · exact ⟨_, complete_upTo onBoard apart inhabited small limited⟩
  · obtain ⟨square, isSquare, stops⟩ := complete_attacked attacked
    exact ⟨square, isSquare, stops _ _⟩
  · obtain ⟨square, isSquare, offBoard, stops⟩ := complete_offBoard inhabited apart outside
    exact ⟨square, isSquare, offBoard, stops _⟩

/-- On the board of side 4, runs with two queens a knight's move apart go through, a run with two queens
on a diagonal is stopped, and so is one with a queen on a rank that is not there. -/
theorem checks_change_nothing_four :
    (∃ entry, ∀ validate,
      Runs.complete (.int (4 : Nat)) (.list ([(1, 0), (3, 1)].map Runs.squareValue))
        (CommandLine.limitValue (some 1)) validate = .ok entry) ∧
    (∃ square ∈ [((0, 0) : Square), (1, 1)], ∀ validate,
      Runs.complete (.int (4 : Nat)) (.list ([(0, 0), (1, 1)].map Runs.squareValue))
        (CommandLine.limitValue (some 1)) validate =
          .error (.attack (.int square.1) (.int square.2))) ∧
    ∀ validate,
      Runs.complete (.int (4 : Nat)) (.list ([(1, 0), (7, 2)].map Runs.squareValue))
        (CommandLine.limitValue (some 1)) validate =
          .error (.board (.offBoard (.int 7) (.int 2) (.int (4 : Nat)))) := by
  have runs := @checks_change_nothing 4 (by decide) (by decide) .smallest (some 1) 3 7
  obtain ⟨-, -, completes, -, -⟩ := runs [(1, 0), (3, 1)]
  obtain ⟨-, -, -, attacked, -⟩ := runs [(0, 0), (1, 1)]
  obtain ⟨-, -, -, -, outside⟩ := runs [(1, 0), (7, 2)]
  refine ⟨completes (by decide) (by decide), attacked (by decide), fun validate => ?_⟩
  obtain ⟨square, isSquare, offBoard, stops⟩ := outside (by decide) (by decide)
  obtain rfl | rfl : square = (1, 0) ∨ square = (7, 2) := by simpa using isSquare
  · exact absurd (by decide) offBoard
  · exact stops validate

end QueensProblem

end ExactCover
