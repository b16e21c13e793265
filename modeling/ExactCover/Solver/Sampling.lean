import ExactCover.Solver.Search

/-!
# Random solutions

Finding one solution with the rows of each column tried in a random order. The columns are taken by
`Policy.smallest`. Every row of a column is tried at most once, so the search fails only if there is
no solution; it is random branch by branch, and not uniform over all solutions.

Randomness comes from a source with any kind of state: `draw state bound` gives a number below
`bound` and the next state.
-/

set_option autoImplicit false

namespace ExactCover

/-- The state of a random search: the arena, the decisions, for each of them the rows of its column
that are not tried yet, all latest first, and the source of randomness. -/
structure Sampling (σ : Type) where
  arena : Arena
  stack : List Link
  untried : List (List Link)
  source : σ

/-- A computation on the state of a random search. -/
abbrev SamplingM (σ : Type) := EStateM LinkError (Sampling σ)

namespace Sampling

variable {σ : Type}

/-- Runs a computation on the arena. -/
def links {α : Type} (action : LinkM α) : SamplingM σ α := fun ⟨arena, stack, untried, source⟩ =>
  match action arena with
  | .ok answer arena => .ok answer ⟨arena, stack, untried, source⟩
  | .error problem arena => .error problem ⟨arena, stack, untried, source⟩

/-- Sets the decisions and the rows left for them. -/
def setPending (stack : List Link) (untried : List (List Link)) : SamplingM σ Unit :=
  fun ⟨arena, _, _, source⟩ => .ok () ⟨arena, stack, untried, source⟩

/-- The decisions and the rows left for them. -/
def pending : SamplingM σ (List Link × List (List Link)) := fun sampling =>
  .ok (sampling.stack, sampling.untried) sampling

/-- Draws a number below a bound. -/
def drawBelow (draw : σ → Nat → Nat × σ) (bound : Nat) : SamplingM σ Nat :=
  fun ⟨arena, stack, untried, source⟩ =>
    let (number, source) := draw source bound
    .ok number ⟨arena, stack, untried, source⟩

/-- Decides for one of the rows, or for `fallback` if there is none; the others remain untried. -/
def decide (draw : σ → Nat → Nat × σ) (rows : List Link) (fallback : Link) (stack : List Link)
    (untried : List (List Link)) : SamplingM σ Unit := do
  if rows.isEmpty then setPending (fallback :: stack) (rows :: untried)
  else
    let place ← drawBelow draw rows.length
    setPending (rows.getD place fallback :: stack) (rows.eraseIdx place :: untried)

/-- Takes the first smallest column and decides for one of its rows. -/
def choose (draw : σ → Nat → Nat × σ) : SamplingM σ Action := do
  let header ← links (Arena.ask (·.smallestColumn))
  links (Arena.cover header)
  let rows ← links (Arena.ask (·.column header))
  let (stack, untried) ← pending
  decide draw rows header stack untried
  return .enter

/-- Tries the latest decision. -/
def enter (top : Link) (below : List Link) (untried : List (List Link)) :
    SamplingM σ (Option Action) := do
  if ← links (Arena.ask (·.isHeader top)) then
    setPending below untried
    links (Arena.uncover top)
    setPending below untried.tail
    return some .retry
  else
    links (Arena.coverRow top)
    if ← links (Arena.ask (·.isSolved)) then return none else return some .choose

/-- Replaces the latest decision by another row of its column, or by the column itself when all rows
have been tried. -/
def retry (draw : σ → Nat → Nat × σ) (top : Link) (below : List Link) (untried : List (List Link)) :
    SamplingM σ Action := do
  setPending below untried
  links (Arena.uncoverRow top)
  let column ← links (Arena.ask (·.columnOf top))
  decide draw (untried.headD []) column below untried.tail
  return .enter

/-- Does one action; the search ends with a solution, or without decisions when there is none. -/
def step (draw : σ → Nat → Nat × σ) (action : Action) : SamplingM σ (Option Action) := do
  match action, ← pending with
  | .choose, _ => return some (← choose draw)
  | .enter, (top :: below, untried) => enter top below untried
  | .retry, (top :: below, untried) => return some (← retry draw top below untried)
  | _, ([], _) => return none

/-- Does one action after the other until the search ends. -/
def run (draw : σ → Nat → Nat × σ) : Nat → Action → SamplingM σ Unit
  | 0, _ => throw .endless
  | fuel + 1, action => do
      match ← step draw action with
      | none => return ()
      | some next => run draw fuel next

/-- Searches for one solution from a state without decisions. -/
def search (draw : σ → Nat → Nat × σ) : SamplingM σ Unit := do
  let limit := Search.actionLimit (← get).arena
  if ← links (Arena.ask (·.isSolved)) then return () else run draw limit .choose

end Sampling

namespace Problem

variable {σ : Type}

/-- A random solution, or the empty list if there is none, with the source as it is afterwards. The
source moves on also when the search fails. -/
def sample (draw : σ → Nat → Nat × σ) (source : σ) :
    Problem → EStateM.Result LinkError Problem (List Link) × σ := fun ⟨arena, policy, primaryCount⟩ =>
  match Sampling.search draw ⟨arena, [], [], source⟩ with
  | .ok () ⟨arena, stack, _, source⟩ => (.ok stack.reverse ⟨arena, policy, primaryCount⟩, source)
  | .error problem ⟨arena, _, _, source⟩ => (.error problem ⟨arena, policy, primaryCount⟩, source)

end Problem

end ExactCover
