import ExactCover.Proofs.Search.Sources

/-!
# Updates are only counted

An arena counts its updates, and nothing that is done asks for the count. So if more updates were counted
beforehand, the same is done, with the same end, and just as many more are counted afterwards. This holds
of every splice and every walk, of covering and uncovering (`indistinct_isAhead`), and so of a random
search and of undoing. What is drawn and undone does not depend on the count, and what it adds to it does
not either (`sample_later`, `undo_later`).

Nothing is said of the arena here: this holds also of an arena with broken rings, and if what is done
fails.
-/

set_option autoImplicit false

namespace ExactCover

/-- An outcome with the state that it leaves turned into another. -/
def turned {ε σ α : Type} (turn : σ → σ) : EStateM.Result ε σ α → EStateM.Result ε σ α
  | .ok answer after => .ok answer (turn after)
  | .error problem after => .error problem (turn after)

/-- Computations that are alike have the same outcome, up to what relates the states. -/
theorem SameOutcome.eq_turned {ε σ α : Type} {related : σ → σ → Prop} {turn : σ → σ}
    (told : ∀ one other, related one other → one = turn other) {one other : EStateM.Result ε σ α}
    (same : SameOutcome related one other) : one = turned turn other := by
  cases same with
  | ok like =>
      rw [told _ _ like]
      rfl
  | error like =>
      rw [told _ _ like]
      rfl

namespace Arena

/-- An arena that has counted more updates. -/
def later (amount : Nat) (arena : Arena) : Arena := ⟨arena.nodes, arena.updates + amount⟩

/-- One arena has counted more updates than another one, and nothing else tells them apart. -/
def IsAhead (amount : Nat) (one other : Arena) : Prop := one = other.later amount

variable {amount : Nat}

/-! ## Links -/

theorem alike_read (link : Link) : Alike (IsAhead amount) (read link) (read link) := by
  refine alike_ask fun one other ahead => ?_
  rw [ahead]
  rfl

theorem alike_change (link : Link) (how : Node → Node) :
    Alike (IsAhead amount) (change link how) (change link how) := by
  rintro _ before rfl
  simp only [change, later, position, size]
  cases link.position before.nodes.size with
  | ok place => exact .ok rfl
  | error problem => exact .error rfl

theorem alike_resize (link : Link) (more : Int) :
    Alike (IsAhead amount) (resize link more) (resize link more) := by
  apply (alike_read link).bind
  intro node
  cases node.header with
  | none => exact alike_throw _
  | some header => exact alike_change _ _

/-- Counting one more update. -/
theorem alike_count :
    Alike (IsAhead amount)
      (modify fun arena => { arena with updates := arena.updates + 1 } : LinkM Unit)
      (modify fun arena => { arena with updates := arena.updates + 1 }) := by
  rintro _ before rfl
  exact .ok (congrArg (Arena.mk before.nodes) (Nat.add_right_comm before.updates amount 1))

theorem alike_hide (node : Link) : Alike (IsAhead amount) (hide node) (hide node) :=
  (alike_read _).bind fun _ => (alike_change _ _).bind fun _ => alike_change _ _

theorem alike_restore (node : Link) : Alike (IsAhead amount) (restore node) (restore node) :=
  (alike_read _).bind fun _ => (alike_change _ _).bind fun _ =>
    (alike_read _).bind fun _ => alike_change _ _

theorem alike_hideHeader (header : Link) :
    Alike (IsAhead amount) (hideHeader header) (hideHeader header) :=
  (alike_read _).bind fun _ => (alike_change _ _).bind fun _ => alike_change _ _

theorem alike_restoreHeader (header : Link) :
    Alike (IsAhead amount) (restoreHeader header) (restoreHeader header) :=
  (alike_read _).bind fun _ => (alike_change _ _).bind fun _ =>
    (alike_read _).bind fun _ => alike_change _ _

theorem alike_hideMember (node : Link) :
    Alike (IsAhead amount) (hideMember node) (hideMember node) :=
  (alike_hide _).bind fun _ => (alike_read _).bind fun _ =>
    (alike_resize _ _).bind fun _ => alike_count

theorem alike_restoreMember (node : Link) :
    Alike (IsAhead amount) (restoreMember node) (restoreMember node) :=
  (alike_read _).bind fun _ => (alike_resize _ _).bind fun _ => alike_restore _

/-! ## Walks -/

section

variable {step : Node → Link} {visit : Link → LinkM Unit}
  (visits : ∀ member, Alike (IsAhead amount) (visit member) (visit member))
include visits

theorem alike_walkFrom (start : Link) (fuel : Nat) (current : Link) :
    Alike (IsAhead amount) (walkFrom step visit start fuel current)
      (walkFrom step visit start fuel current) := by
  induction fuel generalizing current with
  | zero => exact alike_throw _
  | succ fuel ih =>
      simp only [walkFrom]
      split
      · exact alike_pure _
      · exact (visits current).bind fun _ => (alike_read current).bind fun node => ih (step node)

/-- **A walk is done alike** if its visits are. -/
theorem alike_walk (start : Link) :
    Alike (IsAhead amount) (walk step visit start) (walk step visit start) := by
  apply (alike_read start).bind
  intro first
  apply alike_get_bind
  rintro _ before rfl
  exact alike_walkFrom visits start before.walkLimit (step first)

end

theorem alike_cover (header : Link) : Alike (IsAhead amount) (cover header) (cover header) :=
  (alike_hideHeader header).bind fun _ => alike_walk (alike_walk alike_hideMember) header

theorem alike_uncover (header : Link) : Alike (IsAhead amount) (uncover header) (uncover header) :=
  (alike_walk (alike_walk alike_restoreMember) header).bind fun _ => alike_restoreHeader header

theorem alike_uncoverRow (node : Link) :
    Alike (IsAhead amount) (uncoverRow node) (uncoverRow node) :=
  alike_walk (fun _ => (alike_read _).bind fun _ => alike_uncover _) node

/-! ## Questions that search for something -/

theorem smallestFrom_later (arena : Arena) (fuel : Nat) (current best : Link) (smallest : Int) :
    smallestFrom (arena.later amount) fuel current best smallest =
      smallestFrom arena fuel current best smallest := by
  induction fuel generalizing current best smallest with
  | zero => rfl
  | succ fuel ih =>
      simp only [smallestFrom, ih]
      rfl

theorem ringFrom_later (arena : Arena) (step : Node → Link) (start : Link) (fuel : Nat)
    (current : Link) :
    ringFrom (arena.later amount) step start fuel current =
      ringFrom arena step start fuel current := by
  induction fuel generalizing current with
  | zero => rfl
  | succ fuel ih =>
      simp only [ringFrom, ih]
      rfl

/-- **A search cannot tell how many updates were counted.** -/
theorem indistinct_isAhead : Indistinct (IsAhead amount) where
  size := by
    rintro _ arena rfl
    rfl
  isSolved := by
    rintro _ arena rfl
    rfl
  smallestColumn := by
    rintro _ arena rfl
    simp only [smallestColumn, smallestFrom_later]
    rfl
  column := by
    rintro header _ arena rfl
    simp only [column, ring, ringFrom_later]
    rfl
  isHeader := by
    rintro link _ arena rfl
    rfl
  columnOf := by
    rintro link _ arena rfl
    rfl
  cover := alike_cover
  uncover := alike_uncover
  coverRow := alike_walk fun _ => (alike_read _).bind fun _ => alike_cover _
  uncoverRow := alike_uncoverRow

end Arena

/-! ## Random searches -/

namespace Sampling

variable {σ : Type} {amount : Nat}

/-- A random search in an arena that has counted more updates. -/
def later (amount : Nat) (sampling : Sampling σ) : Sampling σ :=
  { sampling with arena := sampling.arena.later amount }

theorem Like.eq_later {one other : Sampling σ} (like : Like (Arena.IsAhead amount) Eq one other) :
    one = other.later amount := by
  cases one
  simp only [later, Sampling.mk.injEq]
  exact ⟨like.arena, like.stack, like.untried, like.source⟩

/-- A source answers as it does itself. -/
theorem answers_eq (draw : σ → Nat → Nat × σ) : Answers Eq draw draw := by
  rintro source _ bound - rfl
  exact ⟨rfl, rfl⟩

end Sampling

/-! ## Undoing -/

namespace Search

variable {amount : Nat}

/-- The same decisions in an arena that has counted more updates. -/
def later (amount : Nat) (search : Search) : Search :=
  { search with arena := search.arena.later amount }

theorem alike_links {α : Type} {action : LinkM α}
    (alike : Alike (Arena.IsAhead amount) action action) :
    Alike (fun one other => one = later amount other) (links action) (links action) := by
  rintro _ ⟨arena, stack⟩ rfl
  have outcomes := alike (arena.later amount) arena rfl
  simp only [links, later]
  generalize action (arena.later amount) = result, action arena = result' at outcomes
  cases outcomes with
  | ok ahead =>
      cases ahead
      exact .ok rfl
  | error ahead =>
      cases ahead
      exact .error rfl

/-- **Undoing is done alike.** -/
theorem alike_undoFrom (decisions : List Link) :
    Alike (fun one other => one = later amount other) (undoFrom decisions) (undoFrom decisions) := by
  induction decisions with
  | nil => exact alike_pure _
  | cons top below ih =>
      apply (alike_links (Arena.alike_uncoverRow top)).bind
      intro _
      have sets : Alike (fun one other => one = later amount other) (setStack below)
          (setStack below) := by
        rintro _ search rfl
        exact .ok rfl
      apply sets.bind
      intro _
      exact (alike_links ((Arena.alike_read top).bind fun _ => Arena.alike_uncover _)).bind
        fun _ => ih

end Search

namespace Problem

/-- A problem whose arena has counted more updates. -/
def later (amount : Nat) (problem : Problem) : Problem :=
  { problem with arena := problem.arena.later amount }

/-- **What is drawn does not depend on the count**, nor does what is added to it. -/
theorem sample_later {σ : Type} (draw : σ → Nat → Nat × σ) (source : σ) (amount : Nat)
    (problem : Problem) :
    Problem.sample draw source (problem.later amount) =
      (turned (later amount) (Problem.sample draw source problem).1,
        (Problem.sample draw source problem).2) := by
  obtain ⟨arena, policy, primaryCount⟩ := problem
  have alike := Sampling.alike_search (Sampling.answers_eq draw) Arena.indistinct_isAhead
    ⟨arena.later amount, [], [], source⟩ ⟨arena, [], [], source⟩ ⟨rfl, rfl, rfl, rfl⟩
  have searched := alike.eq_turned fun _ _ => Sampling.Like.eq_later
  simp only [sample, later, searched]
  cases Sampling.search draw ⟨arena, [], [], source⟩ with
  | ok answer after => rfl
  | error problem after => rfl

/-- **What is undone does not depend on the count**, nor does what is added to it. -/
theorem undo_later (decisions : List Link) (amount : Nat) (problem : Problem) :
    undo decisions (problem.later amount) = turned (later amount) (undo decisions problem) := by
  obtain ⟨arena, policy, primaryCount⟩ := problem
  have alike := @Search.alike_undoFrom amount decisions.reverse
    ⟨arena.later amount, decisions.reverse⟩ ⟨arena, decisions.reverse⟩ rfl
  have undone := alike.eq_turned fun _ _ ahead => ahead
  have undoes : ∀ search : Search, Search.undo search = Search.undoFrom search.stack search :=
    fun _ => rfl
  simp only [undo, Problem.deciding, resume, later, undoes, undone, bind, EStateM.bind]
  cases Search.undoFrom decisions.reverse ⟨arena, decisions.reverse⟩ with
  | ok answer after => rfl
  | error problem after => rfl

end Problem

end ExactCover
