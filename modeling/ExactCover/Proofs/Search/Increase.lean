import ExactCover.Proofs.Search.Selection

/-!
# Answers in increasing order

The rows of a column are tried from top to bottom. If they stand in every column in the order of their
numbers, the answers that Algorithm X finds are in lexicographic order, each before the next: answers
that first differ at some decision have tried different rows of one column there (`algorithmX_increase`).
This holds for both ways of taking columns, as the column that is taken depends only on the decisions
before.

What is built row by row stands in every column in the order in which it was made. So the answers of a
plan are found in lexicographic order of their records (`pathsAfter_increase`).
-/

set_option autoImplicit false

namespace ExactCover

/-! ## Lists -/

/-- Items that are turned by functions of their place, each of which keeps the order, are in
lexicographic order if they are so afterwards. -/
theorem lt_of_mapIdx_lt {turn : Nat → Nat → Nat} (keeps : ∀ place, StrictMono (turn place))
    {one other : List Nat} (less : one.mapIdx turn < other.mapIdx turn) : one < other := by
  induction one generalizing other turn with
  | nil =>
      cases other with
      | nil => exact less
      | cons last other => exact List.nil_lt_cons _ _
  | cons first one ih =>
      cases other with
      | nil => exact absurd less (List.not_lt_nil _)
      | cons last other =>
          rw [List.mapIdx_cons, List.mapIdx_cons, List.cons_lt_cons_iff] at less
          rw [List.cons_lt_cons_iff]
          rcases less with less | ⟨same, less⟩
          · exact .inl ((keeps 0).lt_iff_lt.1 less)
          · exact .inr ⟨(keeps 0).injective same, ih (fun place => keeps (place + 1)) less⟩

/-! ## Algorithm X -/

/-- The rows for a column are to be tried in the order of their records. -/
def Demand.Increases (demand : Demand) : Prop :=
  demand.candidates.Pairwise fun one other => one.record < other.record

/-- Dropping rows keeps the order of the others. -/
theorem increase_strike {demands : List Demand} (increase : ∀ demand ∈ demands, demand.Increases)
    (taken : List Nat) : ∀ demand ∈ strike taken demands, demand.Increases := by
  intro demand isLeft
  obtain ⟨whole, isDemand, rfl⟩ := List.mem_map.1 isLeft
  exact (increase whole (List.mem_filter.1 isDemand).1).filter _

/-- **The answers are found in lexicographic order.** -/
theorem algorithmX_increase (policy : Policy) {demands : List Demand}
    (increase : ∀ demand ∈ demands, demand.Increases) :
    (algorithmX policy demands).Pairwise (· < ·) := by
  induction demands using algorithmX.induct policy with
  | case1 demands picked =>
      rw [algorithmX_of_none picked]
      exact List.pairwise_singleton _ _
  | case2 demands demand picked ih =>
      rw [algorithmX_of_some picked, List.pairwise_flatMap]
      constructor
      · intro candidate _
        -- Answers with the same first record differ later.
        rw [List.pairwise_map]
        exact (ih candidate (increase_strike increase _)).imp fun less =>
          List.cons_lt_cons_iff.2 (.inr ⟨rfl, less⟩)
      · -- Answers with different first records are in the order of these.
        refine (increase demand (Policy.mem_of_pick picked)).imp fun {one other} less => ?_
        intro answer isAnswer later isLater
        obtain ⟨rest, -, rfl⟩ := List.mem_map.1 isAnswer
        obtain ⟨rest', -, rfl⟩ := List.mem_map.1 isLater
        exact List.cons_lt_cons_iff.2 (.inl less)

/-! ## Plans -/

namespace Plan

variable (plan : Plan)

/-- The records stand in every column in the order in which they were made. -/
theorem members_increase (column : Nat) : (plan.layout.members column).Pairwise (· < ·) := by
  have made : plan.frame.attached.Pairwise fun one other => one.1 < other.1 := by
    rw [frame, List.pairwise_map]
    have numbers := @List.pairwise_lt_range' plan.base plan.steps.length 1 Nat.one_pos
    rw [← List.zipIdx_map_snd, List.pairwise_map] at numbers
    exact numbers
  rw [Frame.members, List.pairwise_map]
  exact made.filter _

/-- **The answers of a plan are found in lexicographic order** of their records. -/
theorem pathsAfter_increase (policy : Policy) (forced : List Nat) :
    (plan.pathsAfter policy forced).Pairwise (· < ·) := by
  refine algorithmX_increase policy fun demand isDemand => ?_
  obtain ⟨column, -, rfl⟩ := List.mem_map.1 isDemand
  rw [Demand.Increases, List.pairwise_map]
  exact (plan.members_increase column).filter _

end Plan

end ExactCover
