import ExactCover.Proofs.CommandLine.Printing
import ExactCover.Proofs.Queens.Forced

/-!
# Counting the boards of a size

A run that enumerates the solutions of a board counts them up to a limit and tells whether it has counted
all. A limit below one ends the run before the search begins, and a limit that is reached ends it then,
also if nothing was left to find. So a run has counted all only if fewer boards are there than the limit
allows (`enumerate_upTo`).

What is counted are the valid boards. They do not depend on the policy, so the two policies agree on the
count and on whether it is the whole (`enumerate_counts`).
-/

set_option autoImplicit false

namespace ExactCover

namespace QueensProblem

open Board

/-- A run with a limit that lets something through is its steps, one after the other. -/
theorem enumerate_of_steps {size value : Value} {policy : Policy} {limit : Option Int}
    {queens : QueensProblem} {found : List (List Link)} {after : Problem} {validate : Bool}
    (made : Runs.boardOf size policy = .ok queens) (limited : Runs.limitOf value = .ok limit)
    (opened : limit.any (· ≤ 0) = false)
    (solved : Runs.onProblem (Problem.solutions limit) queens.problem = .ok (found, after))
    (passes : (found.forM fun decisions => do
      let board ← Runs.ranks queens decisions
      Runs.assert (isValid board) (.invalidBoard size board)) = .ok ())
    (clean : Runs.isClean after = .ok true) :
    Runs.enumerate size policy value validate =
      .ok ⟨found.length, after.arena.updates, span,
        limit.all fun limit => (found.length : Int) < limit⟩ := by
  rw [Runs.enumerate, made, limited]
  simp only [Except.mapError, bind, Except.bind, pure, Except.pure, opened, Bool.false_eq_true,
    if_false, solved, clean, Runs.assert] at passes ⊢
  cases validate with
  | false => rfl
  | true =>
      simp only [passes]
      rfl

section

variable {side : Nat} (inhabited : 1 ≤ side) {policy : Policy}
  (small : policy = .smallest → (side : Int) < Arena.sizeBound)
include inhabited small

/-- **A run that enumerates** goes through, whether it checks what it finds or not. It counts the valid
boards up to the limit and tells whether there are fewer than that. -/
theorem enumerate_upTo {value : Value} {limit : Option Int}
    (limited : Runs.limitOf value = .ok limit) :
    ∃ entry : Enumeration,
      (∀ validate, Runs.enumerate (.int side) policy value validate = .ok entry) ∧
        entry.solutions = (upTo limit (boardsWith side [])).length ∧
        entry.exhausted = limit.all fun bound => ((boardsWith side []).length : Int) < bound := by
  obtain ⟨web, follows, made⟩ := ofSize_follows inhabited policy
  have boarded := boardOf_of_made made
  have onBoard := List.forall_mem_nil (OnBoard side)
  have room : ([] : List Square).length ≠ side := by
    rw [List.length_nil]
    omega
  cases closed : limit.any (· ≤ 0) with
  | true =>
      -- The run ends before the search begins, and no number of boards is below such a limit.
      refine ⟨⟨0, 0, 0.0, false⟩, fun validate => ?_, ?_, ?_⟩
      · rw [Runs.enumerate, boarded, limited]
        simp only [Except.mapError, bind, Except.bind, pure, Except.pure, closed, if_true]
      · rw [upTo_of_closed closed, List.length_nil]
      · obtain ⟨bound, rfl, low⟩ := (Option.any_eq_true _ _).1 closed
        have closed := of_decide_eq_true low
        exact (decide_eq_false (by omega)).symm
  | false =>
      obtain ⟨more, solved⟩ := Layout.solutions_web ((plan side).proper follows (steps_nodup side))
        follows.shows (small_members follows small) Layout.isTrail_nil limit 0 (2 * side)
      have counted := length_found onBoard .nil follows policy limit
      rw [if_neg room] at counted
      refine ⟨_, fun validate => enumerate_of_steps boarded limited closed
        (Runs.onProblem_of_ok solved) (forM_of_ok fun answer isAnswer => ?_)
        (isClean_board follows policy more), counted, ?_⟩
      · obtain ⟨path, isFound, rfl⟩ := exists_path_of_found onBoard .nil follows isAnswer
        have read := ranks_of_path onBoard .nil follows ⟨web.arena 0, policy, 2 * side⟩ isFound
        obtain ⟨-, valid, -⟩ := valid_of_path onBoard .nil follows inhabited isFound
        rw [recordsOf, List.map_nil, List.append_nil] at read valid
        simp only [read, bind, Except.bind, Runs.assert, valid, if_true]
      · have whole := @all_length_upTo _ limit (boardsWith side []) closed
        rwa [← counted] at whole

end

/-! ## What is counted -/

/-- **What a run that enumerates counts.** There is a list of the valid boards of a size, each once, such
that a run without a limit counts all of them with either policy, and a run with a limit counts as many
of them as the limit allows. The run tells that it has counted all if and only if there is no limit, or
there are fewer boards than the limit. (If a smallest column is taken, no column has more rows than a
search can count.) -/
theorem enumerate_counts {side : Nat} (inhabited : 1 ≤ side) :
    ∃ boards : List (List Int), boards.Nodup ∧
      (∀ board, board ∈ boards ↔ board.length = side ∧ isValid board = true) ∧
      ∀ (policy : Policy) (limit : Option Int) (validate : Bool),
        (policy = .smallest → (side : Int) < Arena.sizeBound) →
        ∃ entry : Enumeration,
          Runs.enumerate (.int side) policy (CommandLine.limitValue limit) validate = .ok entry ∧
            (limit = none → entry.solutions = boards.length) ∧
            (∀ bound, limit = some bound →
              (entry.solutions : Int) = min (max bound 0) boards.length) ∧
            (entry.exhausted = true ↔
              limit = none ∨ ∃ bound, limit = some bound ∧ (boards.length : Int) < bound) := by
  obtain ⟨web, follows, -⟩ := ofSize_follows inhabited .smallest
  have onBoard := List.forall_mem_nil (OnBoard side)
  refine ⟨boardsWith side [], boardsWith_nodup onBoard .nil follows, fun board => ?_,
    fun policy limit validate small => ?_⟩
  · rw [mem_boardsWith_iff onBoard .nil follows inhabited]
    simp [Runs.holdsAll]
  · obtain ⟨entry, enumerated, counted, exhausted⟩ :=
      enumerate_upTo inhabited small (CommandLine.limitOf_limitValue limit)
    rw [length_upTo] at counted
    refine ⟨entry, enumerated validate, ?_, ?_, ?_⟩
    · rintro rfl
      exact counted
    · rintro bound rfl
      rw [counted]
      simp only [Option.elim_some]
      omega
    · rw [exhausted]
      cases limit with
      | none => simp
      | some bound => simp

/-- On the board of side 1 there is one solution. A limit of one finds it and does not tell that it is the
only one, and a limit below zero finds nothing. -/
theorem enumerate_counts_one :
    ∃ boards : List (List Int), boards = [[0]] ∧ ∀ policy : Policy,
      ∃ all one none' : Enumeration,
        Runs.enumerate (.int (1 : Nat)) policy (CommandLine.limitValue none) true = .ok all ∧
        Runs.enumerate (.int (1 : Nat)) policy (CommandLine.limitValue (some 1)) true = .ok one ∧
        Runs.enumerate (.int (1 : Nat)) policy (CommandLine.limitValue (some (-3))) true = .ok none' ∧
        (all.solutions = 1 ∧ all.exhausted = true) ∧ (one.solutions = 1 ∧ one.exhausted = false) ∧
        none'.solutions = 0 ∧ none'.exhausted = false := by
  obtain ⟨boards, once, complete, counts⟩ := @enumerate_counts 1 (by decide)
  have only : ∀ board, board ∈ boards ↔ board ∈ [[0]] := by
    intro board
    rw [complete, List.mem_singleton]
    constructor
    · rintro ⟨single, valid⟩
      obtain ⟨rank, rfl⟩ := List.length_eq_one_iff.1 single
      have inside : 0 ≤ rank ∧ rank < 1 := by simpa [isValid] using (Bool.and_eq_true_iff.1 valid).1
      obtain rfl : rank = 0 := by omega
      rfl
    · rintro rfl
      decide
  obtain rfl : boards = [[0]] := List.perm_singleton.1
    ((List.perm_ext_iff_of_nodup once (List.nodup_singleton _)).2 only)
  refine ⟨_, rfl, fun policy => ?_⟩
  have runs := fun limit => counts policy limit true fun _ => by decide
  obtain ⟨all, ranAll, countedAll, -, wholeAll⟩ := runs none
  obtain ⟨one, ranOne, -, countedOne, wholeOne⟩ := runs (some 1)
  obtain ⟨none', ranNone, -, countedNone, wholeNone⟩ := runs (some (-3))
  refine ⟨all, one, none', ranAll, ranOne, ranNone, ⟨countedAll rfl, wholeAll.2 (.inl rfl)⟩,
    ⟨?_, ?_⟩, ?_, ?_⟩
  · simpa using countedOne 1 rfl
  · simpa using wholeOne
  · simpa using countedNone (-3) rfl
  · simpa using wholeNone

end QueensProblem

end ExactCover
