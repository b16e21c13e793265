import ExactCover.Proofs.Queens.Checks
import ExactCover.Proofs.Search.Cleanness
import ExactCover.Proofs.Search.Updates

/-!
# Draws do not depend on what was done before

All random solutions of a run are drawn from one board, whose updates are counted on from one draw to the
next. Still a record of a draw tells nothing of the board but its side: whatever has been done on the
board, once it is clean again it is the board that was built, but for the count (`later_of_clean`), and a
draw from it leads to the same record and the same stream as a draw from the board that was built
(`drawOne_later`).

So a record is a function of the side and of the stream that the draw begins with. The records of a run
are those of this function along the stream of the seed (`recordsFrom`), and a shorter run with the same
seed has the first of them (`draws_depend_on_stream`).
-/

set_option autoImplicit false

namespace ExactCover

/-! ## The board of a draw -/

/-- **A clean problem is the one that was built**, but for the count of updates. -/
theorem Plan.later_of_clean {plan : Plan} {web : Web} (follows : web.Follows plan)
    (once : plan.steps.Nodup)
    (primary : ∀ step ∈ plan.steps, ∃ column ∈ plan.primary, (step.1, column) ∈ plan.steps)
    (small : ∀ column ∈ plan.primary,
      ((plan.layout.members column).length : Int) < Arena.sizeBound) {policy : Policy}
    {held : List Hold} {current : Problem}
    (reached : Problem.Reached ⟨web.arena 0, policy, plan.primary.length⟩ held current)
    (clean : current.isClean = .ok true) :
    ∃ more, current = Problem.later more ⟨web.arena 0, policy, plan.primary.length⟩ := by
  have told := (Plan.clean_iff follows once primary small reached).1
  have released : inForce held = [] := List.isEmpty_iff.1 (Except.ok.inj (told.symm.trans clean))
  obtain ⟨covered, more, carries, rfl⟩ :=
    Layout.reached_web (plan.proper follows once) follows.shows small reached
  obtain rfl := carries.eq_nil_iff.2 released
  refine ⟨more, ?_⟩
  simp only [Problem.later, Arena.later, Web.arena, Nat.zero_add]
  rfl

namespace Runs

section

variable {queens : QueensProblem} {validate : Bool} {current after : Problem} {stream later : Twister}
  {run : RandomRun} (drawn : drawOne queens validate current stream = .ok (run, after, later))
include drawn

/-- **A draw does not depend on the count of updates.** -/
theorem drawOne_later (amount : Nat) :
    drawOne queens validate (current.later amount) stream = .ok (run, after.later amount, later) := by
  obtain ⟨decisions, between, board, sampled, read, valid, undone, rfl⟩ := drawOne_eq_ok_iff.1 drawn
  refine drawOne_eq_ok_iff.2 ⟨decisions, between.later amount, board, ?_, read, valid, ?_, ?_⟩
  · rw [Problem.sample_later, sampled]
    rfl
  · rw [Problem.undo_later, undone]
    rfl
  · have added : (after.later amount).arena.updates - (current.later amount).arena.updates =
        after.arena.updates - current.arena.updates := Nat.add_sub_add_right _ _ _
    rw [added]

/-- **A draw is one of the things that can be done**, and it leaves the lists that are held. -/
theorem reached_of_drawOne {start : Problem} {held : List Hold}
    (reached : start.Reached held current) : start.Reached held after := by
  obtain ⟨decisions, between, board, sampled, -, -, undone, -⟩ := drawOne_eq_ok_iff.1 drawn
  have once : start.Reached (.committed [] :: held) after :=
    (reached.sample sampled).undo (List.nil_append _).symm undone
  exact once.drop rfl

end

/-! ## The records of a run -/

/-- The records of draws that are told by the stream they begin with, each with the stream that the draw
leaves. -/
def recordsFrom (record : Twister → RandomRun × Twister) : Nat → Twister → List RandomRun
  | 0, _ => []
  | count + 1, stream => (record stream).1 :: recordsFrom record count (record stream).2

theorem length_recordsFrom (record : Twister → RandomRun × Twister) (count : Nat) (stream : Twister) :
    (recordsFrom record count stream).length = count := by
  induction count generalizing stream with
  | zero => rfl
  | succ count ih => rw [recordsFrom, List.length_cons, ih]

/-- **Fewer draws have the first of the records.** -/
theorem take_recordsFrom (record : Twister → RandomRun × Twister) {few many : Nat}
    (fewer : few ≤ many) (stream : Twister) :
    (recordsFrom record many stream).take few = recordsFrom record few stream := by
  induction few generalizing many stream with
  | zero => rfl
  | succ few ih =>
      obtain ⟨others, rfl⟩ : ∃ others, many = others + 1 := ⟨many - 1, by omega⟩
      rw [recordsFrom, recordsFrom, List.take_succ_cons, ih (by omega)]

/-- If a draw from any problem that is ready has the record that its stream tells, and leaves a problem
that is ready, then draws one after the other have the records that the first stream tells. -/
theorem drawMany_eq_recordsFrom {queens : QueensProblem} {validate : Bool} {ready : Problem → Prop}
    {record : Twister → RandomRun × Twister}
    (draws : ∀ current, ready current → ∀ stream, ∃ after, ready after ∧
      drawOne queens validate current stream = .ok ((record stream).1, after, (record stream).2))
    (count : Nat) {current : Problem} (isReady : ready current) (stream : Twister) :
    ∃ after, ready after ∧
      drawMany queens validate count current stream = .ok (recordsFrom record count stream, after) := by
  induction count generalizing current stream with
  | zero => exact ⟨current, isReady, rfl⟩
  | succ count ih =>
      obtain ⟨between, stillReady, drawn⟩ := draws current isReady stream
      obtain ⟨after, atLast, others⟩ := ih stillReady (record stream).2
      refine ⟨after, atLast, ?_⟩
      simp only [drawMany, drawn, others, recordsFrom, bind, Except.bind, pure, Except.pure]

end Runs

namespace QueensProblem

variable {side : Nat}

/-- **Each record is a function of the side and of the stream that the draw begins with**, whatever has
been done on the board before. -/
theorem exists_record {web : Web} (follows : web.Follows (plan side)) (inhabited : 1 ≤ side)
    (small : (side : Int) < Arena.sizeBound) :
    ∃ record : Twister → RandomRun × Twister, ∀ {held : List Hold} {current : Problem},
      Problem.Reached ⟨web.arena 0, .smallest, 2 * side⟩ held current → current.isClean = .ok true →
      ∀ validate stream, ∃ after,
        Runs.drawOne ⟨⟨web.arena 0, .smallest, 2 * side⟩, side, .int side⟩ validate current stream =
            .ok ((record stream).1, after, (record stream).2) ∧
          Problem.Reached ⟨web.arena 0, .smallest, 2 * side⟩ held after ∧
          after.isClean = .ok true := by
  have once := steps_nodup side
  have sizes := small_members follows (fun _ : Policy.smallest = .smallest => small) rfl
  have counted : (plan side).primary.length = 2 * side := List.length_range'
  choose run more later drawn using fun stream =>
    drawOne_eq follows inhabited small ⟨web.arena 0, .smallest, 2 * side⟩ 0 stream
  refine ⟨fun stream => (run stream, later stream), fun reached clean validate stream => ?_⟩
  have again := reached
  rw [← counted] at again
  obtain ⟨amount, rfl⟩ := Plan.later_of_clean follows once steps_primary sizes again clean
  rw [counted] at reached clean ⊢
  have draws := Runs.drawOne_later (drawn stream validate) amount
  exact ⟨_, draws, Runs.reached_of_drawOne draws reached,
    isClean_arena follows .smallest (more stream + amount)⟩

/-- **The records of a run do not depend on what was drawn before.** A draw from a clean board leads to a
record and to a stream that are told by the side and the stream it began with, and leaves the board
clean, whatever has been done on the board. The records of a run are these records along the stream of
its seed, and the run with the same seed and fewer draws has the first of them, with and without checks.
(No column has more rows than a search can count.) -/
theorem draws_depend_on_stream (inhabited : 1 ≤ side) (small : (side : Int) < Arena.sizeBound) :
    ∃ (queens : QueensProblem) (record : Twister → RandomRun × Twister),
      ofSize (.int side) .smallest = .ok queens ∧
      (∀ {held : List Hold} {current : Problem},
        queens.problem.Reached held current → current.isClean = .ok true →
        ∀ validate stream, ∃ after,
          Runs.drawOne queens validate current stream =
              .ok ((record stream).1, after, (record stream).2) ∧
            queens.problem.Reached held after ∧ after.isClean = .ok true) ∧
      ∀ (seed : Int) {few many : Nat}, few ≤ many → ∃ runs,
        runs.length = many ∧ runs = Runs.recordsFrom record many (Twister.ofSeed seed) ∧
        ∀ validate,
          Runs.sample (.int side) (.int many) (.int seed) validate = .ok runs ∧
          Runs.sample (.int side) (.int few) (.int seed) validate = .ok (runs.take few) := by
  obtain ⟨web, follows, made⟩ := ofSize_follows inhabited .smallest
  obtain ⟨record, draws⟩ := exists_record follows inhabited small
  have sampled : ∀ (count : Nat) (seed : Int) validate,
      Runs.sample (.int side) (.int count) (.int seed) validate =
        .ok (Runs.recordsFrom record count (Twister.ofSeed seed)) := by
    intro count seed validate
    have ready : ∀ current, Problem.Reached ⟨web.arena 0, .smallest, 2 * side⟩ [] current ∧
        current.isClean = .ok true → ∀ stream, ∃ after,
          (Problem.Reached ⟨web.arena 0, .smallest, 2 * side⟩ [] after ∧ after.isClean = .ok true) ∧
            Runs.drawOne ⟨⟨web.arena 0, .smallest, 2 * side⟩, side, .int side⟩ validate current stream =
              .ok ((record stream).1, after, (record stream).2) := by
      intro current ⟨reached, clean⟩ stream
      obtain ⟨after, drawn, still⟩ := draws reached clean validate stream
      exact ⟨after, still, drawn⟩
    obtain ⟨after, ⟨-, clean⟩, drawn⟩ := Runs.drawMany_eq_recordsFrom ready count
      ⟨.start, isClean_arena follows .smallest 0⟩ (Twister.ofSeed seed)
    have restored : Runs.isClean after = .ok true := by rw [Runs.isClean, clean]; rfl
    exact sample_of_drawMany made (by rwa [Int.toNat_natCast]) restored
  refine ⟨_, record, made, draws, fun seed few many fewer => ⟨_, Runs.length_recordsFrom record many _,
    rfl, fun validate => ⟨sampled many seed validate, ?_⟩⟩⟩
  rw [Runs.take_recordsFrom record fewer, sampled few seed validate]

/-- On the board of side 4, two draws that begin with the same stream have the same record, although the
second is made on the board that the first one has left. A run of 5 draws begins with the records of the
run of 3 draws with its seed. -/
theorem draws_depend_on_stream_four :
    (∃ queens, ofSize (.int (4 : Nat)) .smallest = .ok queens ∧
      ∃ run between after later,
        Runs.drawOne queens true queens.problem (Twister.ofSeed 7) = .ok (run, between, later) ∧
        Runs.drawOne queens false between (Twister.ofSeed 7) = .ok (run, after, later)) ∧
    ∃ runs, runs.length = 5 ∧ ∀ validate,
      Runs.sample (.int (4 : Nat)) (.int (5 : Nat)) (.int 7) validate = .ok runs ∧
      Runs.sample (.int (4 : Nat)) (.int (3 : Nat)) (.int 7) validate = .ok (runs.take 3) := by
  obtain ⟨queens, record, made, draws, prefixes⟩ :=
    @draws_depend_on_stream 4 (by decide) (by decide)
  obtain ⟨-, web, follows, built⟩ := follows_of_ofSize made
  have clean : queens.problem.isClean = .ok true := by
    rw [built]
    exact isClean_arena follows .smallest 0
  obtain ⟨between, first, reached, stillClean⟩ := draws .start clean true (Twister.ofSeed 7)
  obtain ⟨after, second, -, -⟩ := draws reached stillClean false (Twister.ofSeed 7)
  obtain ⟨runs, many, -, sampled⟩ := @prefixes 7 3 5 (by decide)
  exact ⟨⟨queens, made, _, between, after, _, first, second⟩, runs, many, sampled⟩

end QueensProblem

end ExactCover
