import ExactCover.Value.Basic

/-!
# Entries of a suite

What one run of a suite reports, and the values that stand for it in results. Runs are timed by a
clock that moves on by `span` at every measurement, so a report depends on its input alone.
-/

set_option autoImplicit false

namespace ExactCover

/-- The time in seconds that a measurement takes. -/
def span : Float := 0.125

/-- A run that enumerates the solutions of a board. -/
structure Enumeration where
  solutions : Nat
  updates : Nat
  time : Float
  /-- Whether no limit has stopped the run. -/
  exhausted : Bool

def Enumeration.toValue (entry : Enumeration) : Value :=
  .object [("solutions", .int entry.solutions), ("updates", .int entry.updates),
    ("time", .float entry.time), ("exhausted", .bool entry.exhausted)]

/-- A random solution of a board. -/
structure RandomRun where
  /-- Whether there is a solution and its board is valid. -/
  valid : Bool
  updates : Nat
  time : Float
  board : List Int

def RandomRun.toValue (run : RandomRun) : Value :=
  .object [("valid", .bool run.valid), ("updates", .int run.updates), ("time", .float run.time),
    ("board", Value.ofInts run.board)]

/-- A run that counts the solutions with queens forced on some squares. -/
structure Completion where
  squares : List (Int × Int)
  solutions : Nat
  /-- Whether the board is as it was before the run. -/
  restored : Bool
  time : Float

def Completion.squaresValue (entry : Completion) : Value :=
  .list (entry.squares.map fun (rank, file) => Value.ofInts [rank, file])

def Completion.toValue (entry : Completion) : Value :=
  .object [("cells", entry.squaresValue), ("solutions", .int entry.solutions),
    ("restored", .bool entry.restored), ("time", .float entry.time)]

/-- The results of a suite by board size: for every size the enumerations by policy, the summary of
the random runs, and the completions. -/
structure Results where
  enumerations : Entries Key Value
  samples : Entries Key Value
  completions : Entries Key Value

/-- Results without entries. -/
def Results.empty : Results := ⟨[], [], []⟩

instance : Inhabited Results := ⟨.empty⟩

end ExactCover
