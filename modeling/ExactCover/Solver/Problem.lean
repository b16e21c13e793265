import ExactCover.Arena.Cover

/-!
# Problems

An exact cover problem in an arena. The columns on the ring of the root are primary: a solution
meets each of them exactly once. The other columns are secondary: a solution meets each of them at
most once, and they never drive the search.

The search takes the columns of the root in one of two ways. `Policy.smallest` takes a column with
the fewest rows, the first of them in the order of the ring; `Policy.first` takes the first column.
-/

set_option autoImplicit false

namespace ExactCover

/-- How the next column is chosen. -/
inductive Policy where
  | smallest
  | first
deriving DecidableEq

/-- The link of the root, which is the first record of every problem. -/
def root : Link := .record 0

/-- An arena with its root, the policy, and the number of columns that were put on the ring of the
root. -/
structure Problem where
  arena : Arena
  policy : Policy
  primaryCount : Nat

/-- A computation that changes a problem. A failed one leaves the changes that it has made. -/
abbrev ProblemM := EStateM LinkError Problem

namespace Arena

/-- The columns on the ring of the root, in their order. -/
def activeHeaders (arena : Arena) : Except LinkError (List Link) := arena.ring Node.right root

/-- Whether no column is left on the ring of the root. -/
def isSolved (arena : Arena) : Except LinkError Bool := do
  return (← arena.record root).right.same root

/-! ## Choosing a column -/

/-- More rows than a column can have. -/
def sizeBound : Int := 9223372036854775807

/-- The first smallest column from `current` on; `best` is the one found so far. -/
def smallestFrom (arena : Arena) : Nat → Link → Link → Int → Except LinkError Link
  | 0, _, _, _ => .error .endless
  | fuel + 1, current, best, smallest =>
      if current.same root then .ok best
      else do
        let size ← arena.columnSize current
        let next := (← arena.record current).right
        if size < smallest then smallestFrom arena fuel next current size
        else smallestFrom arena fuel next best smallest

/-- The first of the smallest active columns, or -1 if there is none. -/
def smallestColumn (arena : Arena) : Except LinkError Link := do
  smallestFrom arena (arena.size + 2) (← arena.record root).right (.record (-1)) sizeBound

/-- The first active column, or the root if there is none. -/
def firstColumn (arena : Arena) : Except LinkError Link := do
  return (← arena.record root).right

/-- The column that the search takes next. -/
def chosenColumn (arena : Arena) : Policy → Except LinkError Link
  | .smallest => arena.smallestColumn
  | .first => arena.firstColumn

/-! ## Rows -/

/-- Covers the columns of the other records of a row, from left to right. -/
def coverRow (node : Link) : LinkM Unit :=
  walk Node.right (fun member => do cover (← read member).column) node

/-- Uncovers the columns of the other records of a row, from right to left. -/
def uncoverRow (node : Link) : LinkM Unit :=
  walk Node.left (fun member => do uncover (← read member).column) node

/-- The names of the columns of a row, beginning with the column of the record itself. -/
def rowNames (arena : Arena) (node : Link) : Except LinkError (List Value) := do
  (← arena.row node).mapM fun member => do arena.columnName (← arena.columnOf member)

/-- Whether the root is met on the way from `current` to the right, before `start`. -/
def meetsRootFrom (arena : Arena) (start : Link) : Nat → Link → Except LinkError Bool
  | 0, _ => .error .endless
  | fuel + 1, current =>
      if current.same start then .ok false
      else if current.same root then .ok true
      else do meetsRootFrom arena start fuel (← arena.record current).right

/-- Whether the root is on the horizontal ring of a column. -/
def meetsRoot (arena : Arena) (header : Link) : Except LinkError Bool := do
  meetsRootFrom arena header (arena.size + 2) (← arena.record header).right

end Arena

namespace Problem

/-- A problem without columns. -/
def empty (policy : Policy) : Problem :=
  { arena := ⟨#[⟨root, root, root, root, root, some ⟨.null, 0⟩⟩], 0⟩
    policy := policy
    primaryCount := 0 }

instance : Inhabited Problem := ⟨empty .smallest⟩

/-- Runs a computation on the arena of a problem. -/
def links {α : Type} (action : LinkM α) : ProblemM α := fun ⟨arena, policy, primaryCount⟩ =>
  match action arena with
  | .ok answer arena => .ok answer ⟨arena, policy, primaryCount⟩
  | .error problem arena => .error problem ⟨arena, policy, primaryCount⟩

/-- A new column to the right of another one, on the same ring; or alone on a ring of its own. A
column whose ring holds the root is primary. -/
def newColumn (name : Value) (after : Option Link) : ProblemM Link := do
  let header ← links (Arena.newHeader name)
  match after with
  | none => return header
  | some neighbour =>
      let _ ← links (Arena.insert neighbour header)
      if ← links (Arena.ask (·.meetsRoot header)) then
        modify fun ⟨arena, policy, primaryCount⟩ => ⟨arena, policy, primaryCount + 1⟩
      return header

/-- Whether no primary column is covered. -/
def isClean (problem : Problem) : Except LinkError Bool := do
  return (← problem.arena.activeHeaders).length == problem.primaryCount

end Problem

end ExactCover
