import ExactCover.Proofs.Arena.Web
import ExactCover.Solver.Search

/-!
# Runs of the search

What the search machine does from some point on, action by action: how many actions that takes, the
decisions at every solution on the way, and where it stands in the end (`Search.Runs`). The machine
stops at a solution; it is then set going again by giving its last decision up, as `next` does.

A run in parts is a run (`Runs.trans`). A run that ends without decisions is what repeated calls of
`next` do, provided that it is within the limit of actions (`enumerates_of_runs`).
-/

set_option autoImplicit false

namespace ExactCover

namespace Search

variable {policy : Policy} {count actions : Nat} {action last : Action} {search final : Search}
  {answers : List (List Link)}

/-- There is always room for the last two actions. -/
theorem two_le_actionBound (width depth : Nat) : 2 ≤ actionBound width depth := by
  cases depth with
  | zero => exact Nat.le_refl 2
  | succ depth =>
      rw [actionBound]
      omega

/-- There is room for the rows of a column, and for one row more. -/
theorem rows_le_actionBound {width rows : Nat} (narrow : rows ≤ width) (depth : Nat) :
    rows * actionBound width depth + actionBound width depth + 4 ≤
      actionBound width (depth + 1) := by
  have bounded : rows * actionBound width depth ≤ width * actionBound width depth :=
    Nat.mul_le_mul_right _ narrow
  rw [actionBound, Nat.add_mul, Nat.mul_add]
  omega

/-- A run of the machine over an arena of `count` records: its number of actions, where it starts, the
decisions at every solution that is found, and where it ends. -/
inductive Runs (policy : Policy) (count : Nat) :
    Nat → Action → Search → List (List Link) → Action → Search → Prop
  /-- Nothing is done. -/
  | here {action : Action} {search : Search} : Runs policy count 0 action search [] action search
  /-- One action leads to the next. -/
  | act {actions : Nat} {action next last : Action} {search after final : Search}
      {answers : List (List Link)} :
      step policy action search = .ok (some next) after →
      Runs policy count actions next after answers last final →
      Runs policy count (actions + 1) action search answers last final
  /-- A solution is found, and later its last decision is given up. -/
  | found {actions : Nat} {action last : Action} {search after final : Search}
      {answers : List (List Link)} :
      step policy action search = .ok none after →
      after.arena.size = count → after.arena.isSolved = .ok true → after.stack ≠ [] →
      Runs policy count actions .retry after answers last final →
      Runs policy count (actions + 1) action search (after.stack.reverse :: answers) last final

/-- **Runs are put together.** -/
theorem Runs.trans {more : Nat} {middle : Action} {between : Search} {later : List (List Link)}
    (first : Runs policy count actions action search answers middle between)
    (second : Runs policy count more middle between later last final) :
    Runs policy count (actions + more) action search (answers ++ later) last final := by
  induction first with
  | here => simpa using second
  | act done _ ih =>
      rw [Nat.add_right_comm]
      exact .act done (ih second)
  | found done size solved decided _ ih =>
      rw [Nat.add_right_comm]
      exact .found done size solved decided (ih second)

/-- A run of one action. -/
theorem Runs.single {next : Action} {after : Search}
    (done : step policy action search = .ok (some next) after) :
    Runs policy count 1 action search [] next after := .act done .here

/-- Every solution takes an action. -/
theorem Runs.length_le (run : Runs policy count actions action search answers last final) :
    answers.length ≤ actions := by
  induction run with
  | here => exact Nat.le_refl 0
  | act _ _ ih => exact Nat.le_succ_of_le ih
  | found _ _ _ _ _ ih => exact Nat.succ_le_succ ih

/-- No solution is empty. -/
theorem Runs.ne_nil (run : Runs policy count actions action search answers last final) :
    ∀ answer ∈ answers, answer ≠ [] := by
  induction run with
  | here => simp
  | act _ _ ih => exact ih
  | found _ _ _ decided _ ih =>
      intro answer inside
      rcases List.mem_cons.1 inside with rfl | inside
      · simpa using decided
      · exact ih answer inside

/-- The machine passes to the end of a run without solutions. -/
theorem Runs.run_eq (run : Runs policy count actions action search [] last final) (fuel : Nat) :
    Search.run policy (fuel + actions) action search = Search.run policy fuel last final := by
  generalize none' : ([] : List (List Link)) = answers at run
  induction run with
  | here => rfl
  | act done _ ih =>
      rw [← Nat.add_assoc, Search.run]
      exact (bind_of_ok done).trans (ih none')
  | found => cases none'

/-- The machine stops at the first solution of a run. -/
theorem Runs.run_found {answer : List Link}
    (run : Runs policy count actions action search (answer :: answers) last final) {fuel : Nat}
    (enough : actions ≤ fuel) :
    ∃ after fewer, fewer < actions ∧ Search.run policy fuel action search = .ok () after ∧
      after.stack.reverse = answer ∧ after.arena.size = count ∧ after.arena.isSolved = .ok true ∧
        Runs policy count fewer .retry after answers last final := by
  generalize some' : answer :: answers = all at run
  induction run generalizing fuel with
  | here => cases some'
  | @act actions _ _ _ _ _ _ _ done _ ih =>
      obtain ⟨fuel, rfl⟩ := Nat.exists_eq_add_of_lt (Nat.lt_of_succ_le enough)
      obtain ⟨after, fewer, less, result, rest⟩ := ih (by omega : actions ≤ actions + fuel) some'
      refine ⟨after, fewer, Nat.lt_succ_of_lt less, ?_, rest⟩
      rw [Search.run]
      exact (bind_of_ok done).trans result
  | @found actions _ _ _ after _ _ done size solved decided rest _ =>
      obtain ⟨fuel, rfl⟩ := Nat.exists_eq_add_of_lt (Nat.lt_of_succ_le enough)
      cases some'
      refine ⟨after, actions, Nat.lt_succ_self _, ?_, rfl, size, solved, rest⟩
      rw [Search.run]
      exact bind_of_ok done

/-! ## Calls -/

/-- A call of `next` is a run within the limit. -/
theorem next_eq {solved : Bool} (isSolved : search.arena.isSolved = .ok solved)
    (starts : action = if solved then .retry else .choose) :
    next policy search = Search.run policy (actionLimit search.arena) action search := by
  have asked : links (Arena.ask (·.isSolved)) search = .ok solved search := by
    simp only [links, Arena.ask, isSolved]
  refine (bind_of_ok (rfl : (get : SearchM Search) search = .ok search search)).trans ?_
  refine (bind_of_ok asked).trans ?_
  subst starts
  cases solved <;> rfl

/-- The last call ends without decisions. -/
theorem next_of_runs_nil (run : Runs policy count actions action search [] .retry final)
    (exhausted : final.stack = []) {solved : Bool} (isSolved : search.arena.isSolved = .ok solved)
    (starts : action = if solved then .retry else .choose)
    (enough : actions < actionLimit search.arena) : next policy search = .ok () final := by
  obtain ⟨fuel, split⟩ := Nat.exists_eq_add_of_lt enough
  rw [next_eq isSolved starts, split, Nat.add_assoc, Nat.add_comm, run.run_eq]
  obtain ⟨arena, stack⟩ := final
  subst exhausted
  rfl

/-- Any other call ends at the next solution. -/
theorem next_of_runs_cons {answer : List Link}
    (run : Runs policy count actions action search (answer :: answers) last final) {solved : Bool}
    (isSolved : search.arena.isSolved = .ok solved)
    (starts : action = if solved then .retry else .choose)
    (enough : actions < actionLimit search.arena) :
    ∃ after fewer, fewer < actions ∧ next policy search = .ok () after ∧
      after.stack.reverse = answer ∧ after.arena.size = count ∧ after.arena.isSolved = .ok true ∧
        Runs policy count fewer .retry after answers last final := by
  rw [next_eq isSolved starts]
  exact run.run_found (Nat.le_of_lt enough)

end Search

namespace Problem

variable {policy : Policy} {count primaryCount actions : Nat} {action : Action}
  {search final : Search} {answers : List (List Link)}

/-- Calls of `next`, each on the answer before, until the answer is empty: the problem and the
decisions to begin with, the answers, and the problem afterwards. -/
inductive Enumerates : Problem → List Link → List (List Link) → Problem → Prop
  | exhausted {problem after : Problem} {decisions : List Link} :
      next decisions problem = .ok [] after → Enumerates problem decisions [] after
  | answered {problem after final : Problem} {decisions answer : List Link}
      {answers : List (List Link)} :
      next decisions problem = .ok answer after → answer ≠ [] →
      Enumerates after answer answers final →
      Enumerates problem decisions (answer :: answers) final

/-- A call on a problem is a call on its arena. -/
theorem next_of_search {decisions : List Link} {arena : Arena}
    (called : Search.next policy ⟨arena, decisions.reverse⟩ = .ok () final) :
    next decisions ⟨arena, policy, primaryCount⟩ =
      .ok final.stack.reverse ⟨final.arena, policy, primaryCount⟩ := by
  change deciding decisions (Search.next policy) ⟨arena, policy, primaryCount⟩ = _
  simp only [deciding, resume, called]

/-- **Repeated calls follow a run.** -/
theorem enumerates_of_runs (run : Search.Runs policy count actions action search answers .retry final)
    (exhausted : final.stack = []) {solved : Bool} (isSolved : search.arena.isSolved = .ok solved)
    (starts : action = if solved then .retry else .choose) (size : search.arena.size = count)
    (enough : actions < Search.actionBound count count) :
    Enumerates ⟨search.arena, policy, primaryCount⟩ search.stack.reverse answers
      ⟨final.arena, policy, primaryCount⟩ := by
  induction answers generalizing actions action search solved with
  | nil =>
      have called := Search.next_of_runs_nil run exhausted isSolved starts
        (by rwa [Search.actionLimit, size])
      refine .exhausted ?_
      rw [next_of_search (by rw [List.reverse_reverse]; exact called), exhausted, List.reverse_nil]
  | cons answer answers ih =>
      obtain ⟨after, fewer, less, called, isAnswer, size', isSolved', rest⟩ :=
        Search.next_of_runs_cons run isSolved starts (by rwa [Search.actionLimit, size])
      have answered : next search.stack.reverse ⟨search.arena, policy, primaryCount⟩ =
          .ok answer ⟨after.arena, policy, primaryCount⟩ := by
        rw [next_of_search (by rw [List.reverse_reverse]; exact called), isAnswer]
      have onward := ih rest isSolved' rfl size' (Nat.lt_trans less enough)
      rw [isAnswer] at onward
      exact .answered answered (run.ne_nil answer (by simp)) onward

end Problem

end ExactCover
