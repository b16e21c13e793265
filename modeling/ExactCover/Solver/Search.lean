import ExactCover.Solver.Problem

/-!
# Search

Finding the solutions of a problem one after the other. The search takes a column, covers it, and
tries its rows from top to bottom; a row is tried by covering its other columns. The rows in force
are the decisions, each given by its record in the column that was taken for it.

The search is a machine of three actions instead of a recursion, and it keeps nothing between two
solutions but the arena and the decisions. So a search can go on from a solution that it gave, and
a solution can be undone like decisions that were committed by hand.
-/

set_option autoImplicit false

namespace ExactCover

/-- An arena with the decisions in force, the latest first. -/
structure Search where
  arena : Arena
  stack : List Link

/-- A computation that changes an arena and its decisions. A failed one leaves the changes that it
has made. -/
abbrev SearchM := EStateM LinkError Search

/-- What the search does next. -/
inductive Action where
  /-- Take a column, cover it, and decide for its first row. -/
  | choose
  /-- Try the latest decision. -/
  | enter
  /-- Give the latest decision up for the next row of its column. -/
  | retry
deriving DecidableEq

namespace Search

/-- Runs a computation on the arena. -/
def links {α : Type} (action : LinkM α) : SearchM α := fun ⟨arena, stack⟩ =>
  match action arena with
  | .ok answer arena => .ok answer ⟨arena, stack⟩
  | .error problem arena => .error problem ⟨arena, stack⟩

/-- Sets the decisions. -/
def setStack (stack : List Link) : SearchM Unit := fun ⟨arena, _⟩ => .ok () ⟨arena, stack⟩

/-- The decisions, the latest first. -/
def decisions : SearchM (List Link) := fun search => .ok search.stack search

/-! ## One action -/

/-- Takes a column and decides for its first row, or for the column itself if it has no row. -/
def choose (policy : Policy) : SearchM Action := do
  let header ← links (Arena.ask (·.chosenColumn policy))
  links (Arena.cover header)
  let first := (← links (Arena.read header)).down
  setStack (first :: (← decisions))
  return .enter

/-- Tries the latest decision. A column in its place means that its rows are used up: it is
uncovered again. With no column left on the ring of the root the search has found a solution. -/
def enter (top : Link) (below : List Link) : SearchM (Option Action) := do
  if ← links (Arena.ask (·.isHeader top)) then
    setStack below
    links (Arena.uncover top)
    return some .retry
  else
    links (Arena.coverRow top)
    if ← links (Arena.ask (·.isSolved)) then return none else return some .choose

/-- Replaces the latest decision by the next row down its column. -/
def retry (top : Link) (below : List Link) : SearchM Action := do
  links (Arena.uncoverRow top)
  setStack ((← links (Arena.read top)).down :: below)
  return .enter

/-- Does one action; the search ends with a solution, or without decisions when there is none. -/
def step (policy : Policy) (action : Action) : SearchM (Option Action) := do
  match action, ← decisions with
  | .choose, _ => return some (← choose policy)
  | .enter, top :: below => enter top below
  | .retry, top :: below => return some (← retry top below)
  | _, [] => return none

/-- Does one action after the other until the search ends. -/
def run (policy : Policy) : Nat → Action → SearchM Unit
  | 0, _ => throw .endless
  | fuel + 1, action => do
      match ← step policy action with
      | none => return ()
      | some next => run policy fuel next

/-- The number of actions that suffice for `depth` columns of at most `width` rows. -/
def actionBound (width : Nat) : Nat → Nat
  | 0 => 2
  | depth + 1 => (width + 1) * (actionBound width depth + 4) + 4

/-- A bound for any search of an arena, which has fewer columns and rows than records. -/
def actionLimit (arena : Arena) : Nat := actionBound arena.size arena.size

/-- Goes on to the next solution. The decisions are those of the last solution, or none to begin
with; afterwards they are those of the next solution, or none if there is none. -/
def next (policy : Policy) : SearchM Unit := do
  let limit := actionLimit (← get).arena
  if ← links (Arena.ask (·.isSolved)) then run policy limit .retry
  else run policy limit .choose

/-! ## Decisions by hand -/

/-- Decides for the row of a record. -/
def commit (node : Link) : SearchM Unit := do
  links do Arena.cover (← Arena.ask (·.columnOf node))
  links (Arena.coverRow node)
  setStack (node :: (← decisions))

/-- Undoes decisions from the latest to the first. -/
def undoFrom : List Link → SearchM Unit
  | [] => pure ()
  | top :: below => do
      links (Arena.uncoverRow top)
      setStack below
      links do Arena.uncover (← Arena.read top).column
      undoFrom below

/-- Undoes all decisions. -/
def undo : SearchM Unit := do undoFrom (← decisions)

/-! ## All solutions -/

/-- Goes on to the next solution; a search that fails is undone first. -/
def nextOrUndo (policy : Policy) : SearchM Unit := fun search =>
  match next policy search with
  | .ok () after => .ok () after
  | .error problem after =>
      match undo after with
      | .ok () restored => .error problem restored
      | .error later broken => .error later broken

/-- Collects solutions until there is no other or the limit is reached; then the last one is undone.
`found` holds those collected before, the latest first. -/
def collectFrom (policy : Policy) (limit : Option Int) :
    Nat → List (List Link) → SearchM (List (List Link))
  | 0, _ => throw .endless
  | fuel + 1, found => do
      nextOrUndo policy
      let stack ← decisions
      if stack.isEmpty then return found.reverse
      else
        let found := stack.reverse :: found
        if limit.any (· ≤ (found.length : Int)) then
          undo
          return found.reverse
        else collectFrom policy limit fuel found

end Search

/-! ## Searching a problem -/

namespace Problem

/-- Runs a search computation on decisions given in the order they were made. Beside the outcome it
tells which decisions are in force afterwards, also when it has failed. -/
def resume {α : Type} (decisions : List Link) (action : SearchM α) :
    Problem → EStateM.Result LinkError Problem α × List Link := fun ⟨arena, policy, primaryCount⟩ =>
  match action ⟨arena, decisions.reverse⟩ with
  | .ok answer ⟨arena, stack⟩ => (.ok answer ⟨arena, policy, primaryCount⟩, stack.reverse)
  | .error problem ⟨arena, stack⟩ => (.error problem ⟨arena, policy, primaryCount⟩, stack.reverse)

/-- Runs a search computation on decisions and returns those in force afterwards. -/
def deciding (decisions : List Link) (action : SearchM Unit) : ProblemM (List Link) := fun problem =>
  match problem.resume decisions action with
  | (.ok () after, found) => .ok found after
  | (.error fault after, _) => .error fault after

/-- The solution after a given one; none is the empty list. -/
def next (solution : List Link) : ProblemM (List Link) := do
  let policy := (← get).policy
  deciding solution (Search.next policy)

/-- The first solution; none is the empty list. -/
def search : ProblemM (List Link) := next []

/-- Adds a row to decisions. -/
def commit (node : Link) (decisions : List Link) : ProblemM (List Link) :=
  deciding decisions (Search.commit node)

/-- Undoes decisions, the last first. -/
def undo (decisions : List Link) : ProblemM Unit := do
  let _ ← deciding decisions Search.undo

/-- Solutions in the order of the search, at most `limit` of them if there is a limit. Afterwards
the problem is as it was. -/
def solutions (limit : Option Int) : ProblemM (List (List Link)) := fun problem =>
  if limit.any (· ≤ 0) then .ok [] problem
  else
    let fuel := Search.actionLimit problem.arena
    (problem.resume [] (Search.collectFrom problem.policy limit fuel [])).1

end Problem

end ExactCover
