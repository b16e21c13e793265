import ExactCover.Proofs.Arena.Web
import ExactCover.Session

/-!
# Computations in a session

Two ways of telling what a computation in a session does, without saying how it goes on or whether it
fails. It leaves the files alone (`Untouched`), or whatever it returns has a property (`Gives`). Each is
shown for the smallest computations, and is kept when computations are put together (`Untouched.bind`,
`Gives.bind`), so that a longer computation is gone through line by line.
-/

set_option autoImplicit false

namespace ExactCover.Session

variable {α β : Type}

/-! ## Leaving the files alone -/

/-- A computation that leaves the files alone, whether it succeeds or fails. -/
def Untouched (action : SessionM α) : Prop :=
  ∀ before : Session, match action before with
    | .ok _ after | .error _ after => after.files = before.files

/-- **What is done one after the other** leaves the files alone if its parts do. -/
theorem Untouched.bind {action : SessionM α} {next : α → SessionM β} (first : Untouched action)
    (rest : ∀ answer, Untouched (next answer)) : Untouched (action >>= next) := by
  intro before
  have untouched := first before
  simp only [Bind.bind, EStateM.bind]
  cases done : action before with
  | ok answer between =>
      rw [done] at untouched
      have further := rest answer between
      rw [untouched] at further
      exact further
  | error problem between =>
      rw [done] at untouched
      exact untouched

/-- Whatever the computation returns has the property; it may fail. -/
def Gives (action : SessionM α) (property : α → Prop) : Prop :=
  ∀ before answer after, action before = .ok answer after → property answer

/-- **What is done one after the other** gives what its last part gives. -/
theorem Gives.bind {action : SessionM α} {next : α → SessionM β} {between : α → Prop} {property : β → Prop}
    (first : Gives action between) (rest : ∀ answer, between answer → Gives (next answer) property) :
    Gives (action >>= next) property := by
  intro before answer after succeeds
  obtain ⟨found, middle, done, onward⟩ := of_bind succeeds
  exact rest found (first before found middle done) middle answer after onward

end ExactCover.Session
