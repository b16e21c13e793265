import ExactCover.Arena.Basic

/-!
# Rings

Following the links of one direction until they come back to where they began. `ring` lists the
members of a ring that stays as it is; `walk` visits the members of a ring that may change on the
way, reading the next link only after the visit.

Main statement: `not_same_of_mem_ring` (a ring is left as soon as it closes, so `ring` never lists the
record it began with).
-/

set_option autoImplicit false

namespace ExactCover.Arena

/-- The links from `current` on until `start` is met again. -/
def ringFrom (arena : Arena) (step : Node → Link) (start : Link) :
    Nat → Link → Except LinkError (List Link)
  | 0, _ => .error .endless
  | fuel + 1, current =>
      if current.same start then .ok []
      else do
        let node ← arena.record current
        return current :: (← ringFrom arena step start fuel (step node))

/-- The other members of a ring, in the direction of `step`. As no link changes, a ring that closes
does so within the number of records. -/
def ring (arena : Arena) (step : Node → Link) (start : Link) : Except LinkError (List Link) := do
  ringFrom arena step start (arena.size + 2) (step (← arena.record start))

theorem not_same_of_mem_ringFrom {arena : Arena} {step : Node → Link} {start : Link} {fuel : Nat}
    {current : Link} {members : List Link}
    (closed : ringFrom arena step start fuel current = .ok members) :
    ∀ member ∈ members, member.same start = false := by
  induction fuel generalizing current members with
  | zero => simp [ringFrom] at closed
  | succ fuel ih =>
      simp only [ringFrom] at closed
      split at closed
      · cases closed
        simp
      · rename_i different
        cases found : arena.record current with
        | error problem => simp [found, bind, Except.bind] at closed
        | ok node =>
            cases later : ringFrom arena step start fuel (step node) with
            | error problem => simp [found, later, bind, Except.bind] at closed
            | ok rest =>
                simp only [found, later, bind, Except.bind, pure, Except.pure] at closed
                cases closed
                intro member inside
                rcases List.mem_cons.1 inside with here | inside
                · subst here
                  simpa using different
                · exact ih later member inside

/-- **A ring never lists the record it began with.** -/
theorem not_same_of_mem_ring {arena : Arena} {step : Node → Link} {start : Link}
    {members : List Link} (closed : arena.ring step start = .ok members) :
    ∀ member ∈ members, member.same start = false := by
  unfold ring at closed
  cases found : arena.record start with
  | error problem => simp [found, bind, Except.bind] at closed
  | ok node => exact not_same_of_mem_ringFrom (by simpa [found, bind, Except.bind] using closed)

/-- The row of a record from left to right, beginning with the record itself. -/
def row (arena : Arena) (link : Link) : Except LinkError (List Link) := do
  return link :: (← arena.ring Node.right link)

/-- The records still on the ring of a column, from top to bottom. -/
def column (arena : Arena) (header : Link) : Except LinkError (List Link) :=
  arena.ring Node.down header

/-- Visits the records from `current` on until `start` is met again. -/
def walkFrom (step : Node → Link) (visit : Link → LinkM Unit) (start : Link) :
    Nat → Link → LinkM Unit
  | 0, _ => throw .endless
  | fuel + 1, current =>
      if current.same start then pure ()
      else do
        visit current
        walkFrom step visit start fuel (step (← read current))

/-- Room for the visits of a walk: a visit may change links, so a walk can be longer than its ring
was at the start. -/
def walkLimit (arena : Arena) : Nat := (arena.size + 2) * (arena.size + 2)

/-- Visits the other members of a ring, in the direction of `step`. -/
def walk (step : Node → Link) (visit : Link → LinkM Unit) (start : Link) : LinkM Unit := do
  let first ← read start
  walkFrom step visit start (walkLimit (← get)) (step first)

end ExactCover.Arena
