import ExactCover.Proofs.Build.Plan

/-!
# Building a chain of columns

Columns are made one after the other, each to the right of the one before. They take the next numbers
and come to stand in their order behind the column that the first was put next to
(`Bears.addColumns`). A chain that begins on its own is a new ring (`Bears.addColumns_ring`).

When all columns are made and no record yet, the web follows a plan of no steps
(`Follows.of_bears`).
-/

set_option autoImplicit false

namespace ExactCover

/-- Makes columns one after the other, the first to the right of `last` if there is one and on a ring
of its own otherwise. -/
def Problem.addColumns (last : Option Link) : List Value → ProblemM (List Link)
  | [] => return []
  | name :: names => do
      let header ← newColumn name last
      return header :: (← addColumns (some header) names)

/-- A new column stands behind the last one of its ring. -/
theorem Frame.headerRings_addBeside_last {frame : Frame} {before behind : List (List Nat)}
    {front : List Nat} {last : Nat} (header : Nat)
    (rings : frame.headerRings = before ++ (front ++ [last]) :: behind)
    (once : frame.headerRings.flatten.Nodup) :
    (frame.addBeside last header).headerRings =
      before ++ (front ++ [last, header]) :: behind := by
  rw [rings, List.nodup_flatten] at once
  obtain ⟨onceIn, apart⟩ := once
  obtain ⟨-, apartFrom, apartBefore⟩ := List.pairwise_append.1 apart
  have early : last ∉ front := by
    have onceHere := onceIn (front ++ [last]) (by simp)
    exact fun inside => (List.nodup_append.1 onceHere).2.2 last inside last (by simp) rfl
  have elsewhere : ∀ rings : List (List Nat), (∀ ring ∈ rings, last ∉ ring) →
      rings.map (insertAfter last header) = rings := fun rings absent =>
    (List.map_congr_left fun ring isRing => insertAfter_of_notMem (absent ring isRing)).trans
      (List.map_id _)
  have inLast : last ∈ front ++ [last] := by simp
  rw [headerRings_addBeside, rings, List.map_append, List.map_cons, insertAfter_append early,
    elsewhere before, elsewhere behind]
  · intro ring isRing inside
    exact (List.pairwise_cons.1 apartFrom).1 ring isRing inLast inside
  · intro ring isRing inside
    exact apartBefore ring isRing _ List.mem_cons_self inside inLast

/-- Columns alone are told by their rings. -/
theorem Frame.eq_of_headerRings {frame : Frame} {primary : List Nat} {secondary : List (List Nat)}
    (rings : frame.headerRings = (0 :: primary) :: secondary) (noRecords : frame.attached = []) :
    frame = ⟨primary, secondary, []⟩ := by
  obtain ⟨_, _, _⟩ := frame
  obtain ⟨same, rfl⟩ := List.cons.inj rings
  obtain rfl := (List.cons.inj same).2
  obtain rfl : _ = [] := noRecords
  rfl

namespace Web

variable {web : Web} {frame : Frame} (bears : web.Bears frame) (updates : Nat) (policy : Policy)

namespace Bears

include bears

/-- **A chain of columns** behind the last column of a ring. -/
theorem addColumns (names : List Value) {before behind : List (List Nat)} {front : List Nat}
    {last : Nat} (rings : frame.headerRings = before ++ (front ++ [last]) :: behind) :
    ∃ (after : Web) (more : Frame), after.Bears more ∧ after.count = web.count + names.length ∧
      more.attached = frame.attached ∧
      more.headerRings =
        before ++ (front ++ last :: List.range' web.count names.length) :: behind ∧
      Problem.addColumns (some (.record last)) names
          ⟨web.arena updates, policy, frame.primary.length⟩ =
        .ok ((List.range' web.count names.length).map fun header : Nat => Link.record header)
          ⟨after.arena updates, policy, more.primary.length⟩ := by
  induction names generalizing web frame front last with
  | nil => exact ⟨web, frame, bears, rfl, rfl, rings, rfl⟩
  | cons name names ih =>
      have inside : last ∈ frame.headerRings.flatten := by
        rw [rings]
        simp
      have added := bears.addBeside name inside
      have together : (frame.addBeside last web.count).headerRings =
          before ++ ((front ++ [last]) ++ [web.count]) :: behind := by
        rw [Frame.headerRings_addBeside_last web.count rings bears.once]
        simp
      obtain ⟨after, more, bearsMore, counted, sameAttached, ringsMore, made⟩ := ih added together
      refine ⟨after, more, bearsMore, ?_, sameAttached, ?_, ?_⟩
      · rw [counted, List.length_cons, Nat.add_comm names.length, ← Nat.add_assoc]
        rfl
      · rw [ringsMore, List.append_assoc]
        rfl
      · refine (bind_of_ok (Problem.newColumn_beside bears name inside)).trans ?_
        refine (bind_of_ok made).trans ?_
        rfl

/-- A chain of columns goes on in the numbers of its ring. -/
theorem addColumns_range' (names : List Value) {before : List (List Nat)} {first length : Nat}
    (rings : frame.headerRings = before ++ [List.range' first (length + 1)])
    (next : web.count = first + (length + 1)) :
    ∃ (after : Web) (more : Frame), after.Bears more ∧ after.count = web.count + names.length ∧
      more.attached = frame.attached ∧
      more.headerRings = before ++ [List.range' first (length + 1 + names.length)] ∧
      Problem.addColumns (some (.record (first + length : Nat))) names
          ⟨web.arena updates, policy, frame.primary.length⟩ =
        .ok ((List.range' web.count names.length).map fun header : Nat => Link.record header)
          ⟨after.arena updates, policy, more.primary.length⟩ := by
  have split : frame.headerRings =
      before ++ (List.range' first length ++ [first + length]) :: [] := by
    rw [rings, List.range'_1_concat]
  have whole : List.range' first length ++
        (first + length) :: List.range' web.count names.length =
      List.range' first (length + 1 + names.length) := by
    rw [next, List.append_cons, ← List.range'_1_concat, List.range'_append_1]
  obtain ⟨after, more, bearsMore, counted, noRecords, ringsMore, made⟩ :=
    bears.addColumns updates policy names split
  rw [whole] at ringsMore
  exact ⟨after, more, bearsMore, counted, noRecords, ringsMore, made⟩

/-- **A chain of columns on a ring of its own.** -/
theorem addColumns_ring {names : List Value} (nonempty : names ≠ []) :
    ∃ (after : Web) (more : Frame), after.Bears more ∧ after.count = web.count + names.length ∧
      more.attached = frame.attached ∧
      more.headerRings = frame.headerRings ++ [List.range' web.count names.length] ∧
      Problem.addColumns none names ⟨web.arena updates, policy, frame.primary.length⟩ =
        .ok ((List.range' web.count names.length).map fun header : Nat => Link.record header)
          ⟨after.arena updates, policy, more.primary.length⟩ := by
  cases names with
  | nil => exact absurd rfl nonempty
  | cons name names =>
      have added := bears.addRing name
      have alone : (frame.addRing web.count).headerRings =
          frame.headerRings ++ ([] ++ [web.count]) :: [] := rfl
      obtain ⟨after, more, bearsMore, counted, sameAttached, ringsMore, made⟩ :=
        added.addColumns updates policy names alone
      refine ⟨after, more, bearsMore, ?_, sameAttached, ringsMore, ?_⟩
      · rw [counted, List.length_cons, Nat.add_comm names.length, ← Nat.add_assoc]
        rfl
      · refine (bind_of_ok (Problem.newColumn_ring name)).trans ?_
        refine (bind_of_ok made).trans ?_
        rfl

end Bears

/-- **Columns alone follow a plan of no steps.** -/
theorem Follows.of_bears {plan : Plan} (noSteps : plan.steps = []) (bears : web.Bears plan.frame)
    (numbered : plan.frame.headerRings.flatten.Perm (List.range plan.base))
    (counted : web.count = plan.base) : web.Follows plan where
  numbered := numbered
  counted := by rw [counted, noSteps, List.length_nil, Nat.add_zero]
  bears := bears
  rings := fun row => by
    rw [Plan.strand, noSteps]
    trivial

end Web

end ExactCover
