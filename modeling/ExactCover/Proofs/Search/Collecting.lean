import ExactCover.Proofs.Search.Enumeration
import ExactCover.Proofs.Search.Resumption
import ExactCover.Solver.Cursor

/-!
# Collecting solutions

Solutions are collected one call after the other. A call is told by the answer that it goes on from, so
it does not matter who calls and what for: what the calls give from an answer on is a list
(`Layout.Yields`), and at each of its items the arena is the web of that item. From a trail on it is the
list of Algorithm X, or no answer at all if no column is left, since the search takes an arena without
columns for one that has been searched (`Layout.enumerated`, `yields_trail`).

Whoever collects stops at a limit, at the last answer, or somewhere in between, and undoes the answer in
force. That leads back to the trail from everywhere. So a limit cuts the list off and changes nothing
else (`solutions_web`), and a cursor may be closed after any number of answers (`cursor_web`). Both follow
by induction on what is still to come.
-/

set_option autoImplicit false

namespace ExactCover

/-! ## Limits -/

/-- The items of a list up to a limit, if there is one. -/
def upTo {α : Type} (limit : Option Int) (items : List α) : List α :=
  match limit with
  | none => items
  | some bound => items.take bound.toNat

section

variable {α β : Type} {limit : Option Int} {items : List α}

theorem map_upTo (read : α → β) : (upTo limit items).map read = upTo limit (items.map read) := by
  cases limit with
  | none => rfl
  | some bound => exact List.map_take

/-- A limit lets through as many items as it allows, if there are so many. -/
theorem length_upTo :
    (upTo limit items).length = limit.elim items.length fun bound => min bound.toNat items.length := by
  cases limit with
  | none => rfl
  | some bound => exact List.length_take

/-- Whether a limit is above the number of items is told by the items that it lets through. -/
theorem all_length_upTo (opened : limit.any (· ≤ 0) = false) :
    (limit.all fun bound => ((upTo limit items).length : Int) < bound) =
      limit.all fun bound => (items.length : Int) < bound := by
  rw [length_upTo]
  cases limit with
  | none => rfl
  | some bound =>
      have positive : 0 < bound := by simpa using opened
      have same : ((min bound.toNat items.length : Nat) : Int) < bound ↔
          (items.length : Int) < bound := by omega
      exact decide_eq_decide.2 same

theorem mem_of_mem_upTo {item : α} (inside : item ∈ upTo limit items) : item ∈ items := by
  cases limit with
  | none => exact inside
  | some bound => exact List.mem_of_mem_take inside

/-- Whether a limit lets no items through. -/
theorem upTo_of_closed (closed : limit.any (· ≤ 0) = true) : upTo limit items = [] := by
  obtain ⟨bound, rfl, reached⟩ := (Option.any_eq_true _ _).1 closed
  have none' : bound.toNat = 0 := Int.toNat_of_nonpos (by simpa using reached)
  rw [upTo, none', List.take_zero]

/-- A limit that is not exceeded lets all items through. -/
theorem upTo_of_le (within : ∀ bound ∈ limit, (items.length : Int) ≤ bound) :
    upTo limit items = items := by
  cases limit with
  | none => rfl
  | some bound =>
      have := within bound rfl
      exact List.take_of_length_le (by omega)

/-- A limit that is reached cuts off what comes after. -/
theorem upTo_append_of_reached (within : ∀ bound ∈ limit, (items.length : Int) ≤ bound)
    (reached : limit.any (· ≤ (items.length : Int)) = true) (rest : List α) :
    upTo limit (items ++ rest) = items := by
  obtain ⟨bound, rfl, below⟩ := (Option.any_eq_true _ _).1 reached
  have := within bound rfl
  have whole : bound.toNat = items.length := by
    have : bound ≤ items.length := by simpa using below
    omega
  rw [upTo, whole, List.take_left']
  rfl

/-- A limit that is not reached yet leaves room for one item more. -/
theorem lt_of_not_reached (room : limit.any (· ≤ (items.length : Int)) = false) :
    ∀ bound ∈ limit, (items.length : Int) < bound := by
  rintro bound rfl
  simpa using room

end

/-! ## Calls, one after the other -/

/-- What a call of `next` has done is what the machine has done. -/
theorem Search.next_of_problem {policy : Policy} {primaryCount : Nat} {arena : Arena}
    {decisions answer : List Link} {after : Problem}
    (called : Problem.next decisions ⟨arena, policy, primaryCount⟩ = .ok answer after) :
    Search.next policy ⟨arena, decisions.reverse⟩ = .ok () ⟨after.arena, answer.reverse⟩ := by
  change Problem.deciding decisions (Search.next policy) ⟨arena, policy, primaryCount⟩ = _ at called
  simp only [Problem.deciding, Problem.resume] at called
  cases result : Search.next policy ⟨arena, decisions.reverse⟩ with
  | error problem final => simp [result] at called
  | ok _ final =>
      simp only [result] at called
      cases called
      simp

/-- Takes a number of solutions, or all of them if there are fewer, and tells where the cursor stands
then. -/
def Cursor.take : Nat → Cursor → ProblemM (List (List Link) × Cursor)
  | 0, cursor => return ([], cursor)
  | number + 1, cursor => do
      match ← cursor.advance with
      | none => return ([], .finished)
      | some solution =>
          let (others, last) ← take number (.on solution)
          return (solution :: others, last)

/-- Where a cursor stands behind some decisions. -/
def Cursor.standing (path : List Nat) : Cursor :=
  if path = [] then .fresh else .on (linksTo path)

theorem Cursor.advance_standing (path : List Nat) :
    (standing path).advance = goOn (linksTo path) := by
  cases path <;> rfl

namespace Layout

variable {layout : Layout} {start : Web} {covered path : List Nat} {policy : Policy} {updates : Nat}

/-- The answers that calls give from a trail on. If no column is left there is nothing to search. -/
def enumerated (layout : Layout) (policy : Policy) (covered : List Nat) : List (List Nat) :=
  if layout.active covered = [] then [] else algorithmX policy (layout.demandsLeft covered)

theorem node_of_mem_enumerated {count : Nat} (sound : layout.Sound count) (proper : layout.Proper)
    (inside : path ∈ layout.enumerated policy covered) : ∀ node ∈ path, node ∈ layout.nodes := by
  rw [enumerated] at inside
  split at inside
  · cases inside
  · exact (path_of_mem_algorithmX sound proper inside).2

/-- A call leads from the web of one answer to that of another. -/
def Advances (layout : Layout) (start : Web) (policy : Policy) (covered path : List Nat)
    (updates : Nat) (answer : List Nat) (more : Nat) : Prop :=
  layout.IsAnswer covered answer ∧
    Search.nextOrUndo policy
        (layout.search start (layout.withRows covered path) updates (linksTo path).reverse) =
      .ok () (layout.search start (layout.withRows covered answer) more (linksTo answer).reverse)

/-- What calls give from an answer on. -/
inductive Yields (layout : Layout) (start : Web) (policy : Policy) (covered : List Nat) :
    List Nat → Nat → List (List Nat) → Prop
  /-- There is no other answer. -/
  | exhausted {path : List Nat} {updates more : Nat} :
      layout.Advances start policy covered path updates [] more →
      Yields layout start policy covered path updates []
  /-- There is an answer, and what calls give from that on. -/
  | answered {path answer : List Nat} {updates more : Nat} {answers : List (List Nat)} :
      layout.Advances start policy covered path updates answer more → answer ≠ [] →
      Yields layout start policy covered answer more answers →
      Yields layout start policy covered path updates (answer :: answers)

section

variable (proper : layout.Proper) (built : start.Shows layout [])
  (small : policy = .smallest → ∀ column ∈ layout.primary,
    ((layout.members column).length : Int) < Arena.sizeBound)
  (trail : layout.IsTrail covered)
include proper built small trail

/-- There is a call from every answer on. -/
theorem advances_of_isAnswer (isAnswer : layout.IsAnswer covered path) (updates primaryCount : Nat) :
    ∃ answer more, layout.Advances start policy covered path updates answer more ∧
      Problem.next (linksTo path)
          ⟨(layout.web start (layout.withRows covered path)).arena updates, policy, primaryCount⟩ =
        .ok (linksTo answer)
          ⟨(layout.web start (layout.withRows covered answer)).arena more, policy, primaryCount⟩ := by
  obtain ⟨answer, isNext, calls⟩ := next_web_answer proper built small trail isAnswer
  obtain ⟨more, called⟩ := calls updates primaryCount
  refine ⟨answer, more, ⟨isNext, ?_⟩, called⟩
  have searched := Search.next_of_problem called
  simp only [Search.nextOrUndo, search, searched]

/-- What repeated calls have been seen to give. -/
theorem yields_of_enumerates {primaryCount : Nat} {answers : List (List Nat)} {final : Problem}
    (isAnswer : layout.IsAnswer covered path)
    (enumerates : Problem.Enumerates
      ⟨(layout.web start (layout.withRows covered path)).arena updates, policy, primaryCount⟩
      (linksTo path) (answers.map linksTo) final) :
    layout.Yields start policy covered path updates answers := by
  induction answers generalizing path updates with
  | nil =>
      obtain ⟨answer, more, advances, called⟩ :=
        advances_of_isAnswer proper built small trail isAnswer updates primaryCount
      cases enumerates with
      | exhausted returned =>
          obtain ⟨none', -⟩ := EStateM.Result.ok.inj (called.symm.trans returned)
          obtain rfl : answer = [] := linksTo_injective none'
          exact .exhausted advances
  | cons answer answers ih =>
      obtain ⟨next, more, advances, called⟩ :=
        advances_of_isAnswer proper built small trail isAnswer updates primaryCount
      cases enumerates with
      | answered returned decided rest =>
          obtain ⟨same, rfl⟩ := EStateM.Result.ok.inj (called.symm.trans returned)
          obtain rfl : next = answer := linksTo_injective same
          exact .answered advances (fun none' => decided (by rw [none', linksTo_nil]))
            (ih advances.1 rest)

/-- **What calls give from a trail on.** -/
theorem yields_trail (updates : Nat) :
    layout.Yields start policy covered [] updates (layout.enumerated policy covered) := by
  by_cases solved : layout.active covered = []
  · obtain ⟨answer, more, isNext, isAnswer, called⟩ :=
      next_web proper built small trail isPath_nil solved updates 0
    obtain rfl : answer = [] := isNext
    rw [enumerated, if_pos solved]
    have searched := Search.next_of_problem called
    have advances : layout.Advances start policy covered [] updates [] more :=
      ⟨isAnswer, by simp only [Search.nextOrUndo, search, searched]⟩
    exact .exhausted advances
  · obtain ⟨more, enumerates⟩ := enumerates_web proper built small trail solved updates 0
    rw [enumerated, if_neg solved]
    exact yields_of_enumerates proper built small trail isAnswer_nil enumerates

/-- There are fewer answers than actions that a search may take. -/
theorem length_enumerated_lt :
    (layout.enumerated policy covered).length < Search.actionBound start.count start.count := by
  by_cases solved : layout.active covered = []
  · rw [enumerated, if_pos solved]
    exact Nat.lt_of_lt_of_le Nat.zero_lt_two (Search.two_le_actionBound _ _)
  · obtain ⟨actions, more, enough, run⟩ := runs_web proper built small trail solved 0
    have few := run.length_le
    rw [List.length_map] at few
    rw [enumerated, if_neg solved]
    omega

omit small in
/-- From every answer the way back is to undo it. -/
theorem undo_search (isAnswer : layout.IsAnswer covered path) (updates : Nat) :
    Search.undo (layout.search start (layout.withRows covered path) updates (linksTo path).reverse) =
      .ok () (layout.search start covered updates []) :=
  (bind_of_ok (rfl : Search.decisions _ = .ok (linksTo path).reverse _)).trans
    (undoFrom_search proper built trail isAnswer.allowed updates)

/-! ## All at once -/

omit small in
/-- Collecting goes on from one answer to the next, unless the limit is reached. -/
theorem collectFrom_of_advances {answer : List Nat} {more : Nat}
    (advances : layout.Advances start policy covered path updates answer more)
    (decided : answer ≠ []) (limit : Option Int) (fuel : Nat) (found : List (List Link)) :
    Search.collectFrom policy limit (fuel + 1) found
        (layout.search start (layout.withRows covered path) updates (linksTo path).reverse) =
      if limit.any (· ≤ ((linksTo answer :: found).length : Int)) then
        .ok (linksTo answer :: found).reverse (layout.search start covered more [])
      else
        Search.collectFrom policy limit fuel (linksTo answer :: found)
          (layout.search start (layout.withRows covered answer) more (linksTo answer).reverse) := by
  have isOpen : (linksTo answer).reverse.isEmpty = false := by simpa [linksTo] using decided
  refine (bind_of_ok advances.2).trans ?_
  refine (bind_of_ok (rfl : Search.decisions _ = .ok (linksTo answer).reverse _)).trans ?_
  simp only [isOpen, List.reverse_reverse, Bool.false_eq_true, if_false]
  split
  · exact bind_of_ok (undo_search proper built trail advances.1 more)
  · rfl

omit small in
/-- **Collecting from an answer on** adds what is still to come, up to the limit. -/
theorem collectFrom_of_yields {answers : List (List Nat)}
    (yields : layout.Yields start policy covered path updates answers) {limit : Option Int}
    {fuel : Nat} (enough : answers.length < fuel) {found : List (List Link)}
    (room : ∀ bound ∈ limit, (found.length : Int) < bound) :
    ∃ more, Search.collectFrom policy limit fuel found
        (layout.search start (layout.withRows covered path) updates (linksTo path).reverse) =
      .ok (upTo limit (found.reverse ++ answers.map linksTo))
        (layout.search start covered more []) := by
  induction yields generalizing fuel found with
  | @exhausted path updates more advances =>
      obtain ⟨fuel, rfl⟩ := Nat.exists_eq_add_of_lt enough
      have within : ∀ bound ∈ limit, (found.reverse.length : Int) ≤ bound := fun bound isBound => by
        have := room bound isBound
        rw [List.length_reverse]
        omega
      refine ⟨more, ?_⟩
      refine (bind_of_ok advances.2).trans ?_
      refine (bind_of_ok (rfl : Search.decisions _ = .ok [] _)).trans ?_
      simp [upTo_of_le within, pure, EStateM.pure]
  | @answered path answer updates between answers advances decided _ ih =>
      obtain ⟨fuel, rfl⟩ := Nat.exists_eq_add_of_lt enough
      have whole : found.reverse ++ (answer :: answers).map linksTo =
          (linksTo answer :: found).reverse ++ answers.map linksTo := by simp
      rw [whole, collectFrom_of_advances proper built trail advances decided]
      by_cases reached : limit.any (· ≤ ((linksTo answer :: found).length : Int)) = true
      · have within : ∀ bound ∈ limit, ((linksTo answer :: found).reverse.length : Int) ≤ bound :=
          fun bound isBound => by
            have := room bound isBound
            rw [List.length_reverse, List.length_cons]
            omega
        rw [if_pos reached, upTo_append_of_reached within (by rwa [List.length_reverse])]
        exact ⟨between, rfl⟩
      · rw [if_neg reached]
        exact ih (by rw [List.length_cons]; omega) (lt_of_not_reached (by simpa using reached))

/-- **The solutions from a trail on**, up to a limit. Afterwards the arena is that of the trail. -/
theorem solutions_web (limit : Option Int) (updates primaryCount : Nat) :
    ∃ more, Problem.solutions limit
        ⟨(layout.web start covered).arena updates, policy, primaryCount⟩ =
      .ok (upTo limit ((layout.enumerated policy covered).map linksTo))
        ⟨(layout.web start covered).arena more, policy, primaryCount⟩ := by
  by_cases closed : limit.any (· ≤ 0) = true
  · refine ⟨updates, ?_⟩
    simp only [Problem.solutions, closed, if_true, upTo_of_closed closed]
  · have room : ∀ bound ∈ limit, (([] : List (List Link)).length : Int) < bound :=
      lt_of_not_reached (by simpa using closed)
    have enough := length_enumerated_lt proper built small trail
    obtain ⟨more, collected⟩ := @collectFrom_of_yields _ _ _ _ _ _ proper built trail _
      (yields_trail proper built small trail updates) limit
      (Search.actionLimit ((layout.web start covered).arena updates))
      (by rwa [Search.actionLimit, Web.size_arena, count_web]) [] room
    simp only [withRows_nil, linksTo_nil, List.reverse_nil, List.nil_append, search] at collected
    refine ⟨more, ?_⟩
    simp only [Problem.solutions, closed, Bool.false_eq_true, if_false, Problem.resume,
      List.reverse_nil, collected]

/-! ## One at a time -/

omit proper built small trail in
/-- A cursor on an answer goes on to the next one. -/
theorem goOn_of_advances {answer : List Nat} {more : Nat}
    (advances : layout.Advances start policy covered path updates answer more) (primaryCount : Nat) :
    Cursor.goOn (linksTo path)
        ⟨(layout.web start (layout.withRows covered path)).arena updates, policy, primaryCount⟩ =
      .ok (if answer = [] then none else some (linksTo answer))
        ⟨(layout.web start (layout.withRows covered answer)).arena more, policy, primaryCount⟩ := by
  have advanced := advances.2
  simp only [search] at advanced
  have decides : Problem.deciding (linksTo path) (Search.nextOrUndo policy)
      ⟨(layout.web start (layout.withRows covered path)).arena updates, policy, primaryCount⟩ =
        .ok (linksTo answer)
          ⟨(layout.web start (layout.withRows covered answer)).arena more, policy,
            primaryCount⟩ := by
    simp only [Problem.deciding, Problem.resume, advanced, List.reverse_reverse]
  refine (bind_of_ok (rfl : (get : ProblemM Problem) _ = .ok _ _)).trans ?_
  refine (bind_of_ok decides).trans ?_
  cases answer <;> rfl

omit small in
/-- Closing a cursor undoes the answer that it stands on. -/
theorem close_standing (isAnswer : layout.IsAnswer covered path) (updates primaryCount : Nat) :
    (Cursor.standing path).close
        ⟨(layout.web start (layout.withRows covered path)).arena updates, policy, primaryCount⟩ =
      .ok () ⟨(layout.web start covered).arena updates, policy, primaryCount⟩ := by
  cases path with
  | nil => rfl
  | cons node path =>
      exact undone_web proper built trail isAnswer.allowed updates primaryCount

omit small in
/-- **A cursor gives what is still to come**, as many answers as are asked for. Closing it leads back to
the trail. -/
theorem take_of_yields {answers : List (List Nat)} (isAnswer : layout.IsAnswer covered path)
    (yields : layout.Yields start policy covered path updates answers) (number primaryCount : Nat) :
    ∃ last between more,
      Cursor.take number (Cursor.standing path)
          ⟨(layout.web start (layout.withRows covered path)).arena updates, policy, primaryCount⟩ =
        .ok ((answers.take number).map linksTo, last) between ∧
      last.close between =
        .ok () ⟨(layout.web start covered).arena more, policy, primaryCount⟩ := by
  induction number generalizing path updates answers with
  | zero =>
      refine ⟨_, _, updates, rfl, ?_⟩
      exact close_standing proper built trail isAnswer updates primaryCount
  | succ number ih =>
      rw [Cursor.take, Cursor.advance_standing]
      cases yields with
      | @exhausted _ _ more advances =>
          exact ⟨_, _, more, bind_of_ok (goOn_of_advances advances primaryCount), rfl⟩
      | @answered _ answer _ between answers advances decided rest =>
          obtain ⟨last, left, more, taken, closed⟩ := ih advances.1 rest
          have goesOn := goOn_of_advances advances primaryCount
          rw [if_neg decided] at goesOn
          rw [Cursor.standing, if_neg decided] at taken
          refine ⟨last, left, more, ?_, closed⟩
          exact (bind_of_ok goesOn).trans (bind_of_ok taken)

/-- **A cursor on the solutions from a trail on** may be closed after any number of them. -/
theorem cursor_web (number updates primaryCount : Nat) :
    ∃ last between more,
      Cursor.take number .fresh
          ⟨(layout.web start covered).arena updates, policy, primaryCount⟩ =
        .ok (((layout.enumerated policy covered).take number).map linksTo, last) between ∧
      last.close between =
        .ok () ⟨(layout.web start covered).arena more, policy, primaryCount⟩ :=
  take_of_yields proper built trail isAnswer_nil (yields_trail proper built small trail updates)
    number primaryCount

end

end Layout

end ExactCover
