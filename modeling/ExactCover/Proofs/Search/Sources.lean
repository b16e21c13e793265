import ExactCover.Solver.Sampling

/-!
# Searches that go alike

Two computations are alike if related states lead them to the same end and leave them in related states
(`Alike`). A random search asks few questions about its arena, and knows its source by the numbers that it
draws. So two searches that begin alike go alike and end alike, however their arenas and their sources are
related, as long as the questions are answered alike, what is done to the arenas keeps them related
(`Arena.Indistinct`), and the sources answer alike (`alike_search`). The search draws only below positive
bounds, so nothing is asked of what the sources answer to the bound zero (`Answers`).

With the same arena, a source that keeps a record of the bounds answers as the source without the record,
and its record only grows by positive bounds (`sample_recording`). Nothing is said of the problem here:
this holds of any arena, also if the search fails.
-/

set_option autoImplicit false

namespace ExactCover

section

variable {ε σ τ α β : Type} {related : τ → σ → Prop}

/-- Two outcomes that tell the same and leave states that are related. -/
inductive SameOutcome (related : τ → σ → Prop) :
    EStateM.Result ε τ α → EStateM.Result ε σ α → Prop
  | ok {answer : α} {one : τ} {other : σ} :
      related one other → SameOutcome related (.ok answer one) (.ok answer other)
  | error {problem : ε} {one : τ} {other : σ} :
      related one other → SameOutcome related (.error problem one) (.error problem other)

/-- Two computations that do the same to states that are related. -/
def Alike (related : τ → σ → Prop) (one : EStateM ε τ α) (other : EStateM ε σ α) : Prop :=
  ∀ first second, related first second → SameOutcome related (one first) (other second)

/-! ## Computations -/

theorem alike_pure (answer : α) :
    Alike related (pure answer : EStateM ε τ α) (pure answer : EStateM ε σ α) :=
  fun _ _ like => .ok like

theorem alike_throw (problem : ε) :
    Alike related (throw problem : EStateM ε τ α) (throw problem : EStateM ε σ α) :=
  fun _ _ like => .error like

/-- **What is done one after the other is done alike** if its parts are. -/
theorem Alike.bind {one : EStateM ε τ α} {other : EStateM ε σ α} {next : α → EStateM ε τ β}
    {next' : α → EStateM ε σ β} (first : Alike related one other)
    (rest : ∀ answer, Alike related (next answer) (next' answer)) :
    Alike related (one >>= next) (other >>= next') := by
  intro before before' like
  have outcomes := first before before' like
  simp only [Bind.bind, EStateM.bind]
  generalize one before = result, other before' = result' at outcomes
  cases outcomes with
  | ok after => exact rest _ _ _ after
  | error after => exact .error after

/-- What reads the state is done alike if this is so for any two states that are related. -/
theorem alike_get_bind {next : τ → EStateM ε τ β} {next' : σ → EStateM ε σ β}
    (rest : ∀ first second, related first second → Alike related (next first) (next' second)) :
    Alike related (get >>= next) (get >>= next') :=
  fun first second like => rest first second like first second like

/-- Nothing is more alike than what is done twice to the same. -/
theorem alike_eq (action : EStateM ε σ α) : Alike Eq action action := by
  rintro before _ rfl
  cases action before with
  | ok answer after => exact .ok rfl
  | error problem after => exact .error rfl

end

/-! ## Arenas -/

namespace Arena

variable {arenas : Arena → Arena → Prop}

/-- A question that is answered alike. -/
theorem alike_ask {α : Type} {question : Arena → Except LinkError α}
    (same : ∀ one other, arenas one other → question one = question other) :
    Alike arenas (ask question) (ask question) := by
  intro one other like
  simp only [ask, same one other like]
  cases question other with
  | ok answer => exact .ok like
  | error problem => exact .error like

/-- A search cannot tell related arenas apart: they answer its questions alike, and whatever it does to
them is done alike. -/
structure Indistinct (arenas : Arena → Arena → Prop) : Prop where
  size : ∀ one other, arenas one other → one.size = other.size
  isSolved : ∀ one other, arenas one other → one.isSolved = other.isSolved
  smallestColumn : ∀ one other, arenas one other → one.smallestColumn = other.smallestColumn
  column : ∀ header one other, arenas one other → one.column header = other.column header
  isHeader : ∀ link one other, arenas one other → one.isHeader link = other.isHeader link
  columnOf : ∀ link one other, arenas one other → one.columnOf link = other.columnOf link
  cover : ∀ header, Alike arenas (cover header) (cover header)
  uncover : ∀ header, Alike arenas (uncover header) (uncover header)
  coverRow : ∀ node, Alike arenas (coverRow node) (coverRow node)
  uncoverRow : ∀ node, Alike arenas (uncoverRow node) (uncoverRow node)

theorem indistinct_eq : Indistinct Eq where
  size _ _ := congrArg size
  isSolved _ _ := congrArg isSolved
  smallestColumn _ _ := congrArg smallestColumn
  column header _ _ := congrArg fun arena : Arena => arena.column header
  isHeader link _ _ := congrArg fun arena : Arena => arena.isHeader link
  columnOf link _ _ := congrArg fun arena : Arena => arena.columnOf link
  cover _ := alike_eq _
  uncover _ := alike_eq _
  coverRow _ := alike_eq _
  uncoverRow _ := alike_eq _

end Arena

/-! ## Random searches -/

namespace Sampling

variable {σ τ α : Type} {arenas : Arena → Arena → Prop} {sources : τ → σ → Prop}

/-- Two random searches whose arenas and whose sources are related, and that have decided alike. -/
structure Like (arenas : Arena → Arena → Prop) (sources : τ → σ → Prop) (one : Sampling τ)
    (other : Sampling σ) : Prop where
  arena : arenas one.arena other.arena
  stack : one.stack = other.stack
  untried : one.untried = other.untried
  source : sources one.source other.source

theorem alike_links {action : LinkM α} (alike : Alike arenas action action) :
    Alike (Like arenas sources) (links action : SamplingM τ α) (links action : SamplingM σ α) := by
  rintro ⟨arena, stack, untried, source⟩ ⟨arena', _, _, source'⟩ ⟨related, rfl, rfl, like⟩
  have outcomes := alike arena arena' related
  simp only [links]
  generalize action arena = result, action arena' = result' at outcomes
  cases outcomes with
  | ok after => exact .ok ⟨after, rfl, rfl, like⟩
  | error after => exact .error ⟨after, rfl, rfl, like⟩

theorem alike_setPending (stack : List Link) (untried : List (List Link)) :
    Alike (Like arenas sources) (setPending stack untried : SamplingM τ Unit)
      (setPending stack untried : SamplingM σ Unit) := by
  rintro ⟨arena, _, _, source⟩ ⟨_, _, _, source'⟩ ⟨related, -, -, like⟩
  exact .ok ⟨related, rfl, rfl, like⟩

theorem alike_pending :
    Alike (Like arenas sources) (pending : SamplingM τ (List Link × List (List Link)))
      (pending : SamplingM σ (List Link × List (List Link))) := by
  rintro ⟨arena, stack, untried, source⟩ ⟨_, _, _, source'⟩ ⟨related, rfl, rfl, like⟩
  exact .ok ⟨related, rfl, rfl, like⟩

/-- Two sources that answer alike to every positive bound, and stay related. -/
def Answers (sources : τ → σ → Prop) (draw' : τ → Nat → Nat × τ) (draw : σ → Nat → Nat × σ) : Prop :=
  ∀ source' source bound, 0 < bound → sources source' source →
    (draw' source' bound).1 = (draw source bound).1 ∧
      sources (draw' source' bound).2 (draw source bound).2

section

variable {draw' : τ → Nat → Nat × τ} {draw : σ → Nat → Nat × σ}
  (answers : Answers sources draw' draw)
include answers

theorem alike_drawBelow {bound : Nat} (positive : 0 < bound) :
    Alike (Like arenas sources) (drawBelow draw' bound) (drawBelow draw bound) := by
  rintro ⟨arena, stack, untried, source'⟩ ⟨_, _, _, source⟩ ⟨related, rfl, rfl, like⟩
  obtain ⟨sameNumber, like'⟩ := answers source' source bound positive like
  simp only [drawBelow, sameNumber]
  exact .ok ⟨related, rfl, rfl, like'⟩

/-- A number is drawn only from rows, so the bound is positive. -/
theorem alike_decide (rows : List Link) (fallback : Link) (stack : List Link)
    (untried : List (List Link)) :
    Alike (Like arenas sources) (decide draw' rows fallback stack untried)
      (decide draw rows fallback stack untried) := by
  cases rows with
  | nil => exact alike_setPending _ _
  | cons row rows =>
      apply Alike.bind (alike_drawBelow answers (Nat.succ_pos _))
      exact fun place => alike_setPending _ _

variable (indistinct : Arena.Indistinct arenas)
include indistinct

/-! ## Actions -/

theorem alike_choose : Alike (Like arenas sources) (choose draw') (choose draw) := by
  apply (alike_links (Arena.alike_ask indistinct.smallestColumn)).bind
  intro header
  apply (alike_links (indistinct.cover header)).bind
  intro _
  apply (alike_links (Arena.alike_ask (indistinct.column header))).bind
  intro rows
  apply alike_pending.bind
  rintro ⟨stack, untried⟩
  exact (alike_decide answers rows header stack untried).bind fun _ => alike_pure _

omit answers in
theorem alike_enter (top : Link) (below : List Link) (untried : List (List Link)) :
    Alike (Like arenas sources) (enter top below untried : SamplingM τ (Option Action))
      (enter top below untried : SamplingM σ (Option Action)) := by
  apply (alike_links (Arena.alike_ask (indistinct.isHeader top))).bind
  intro isHeader
  cases isHeader with
  | true =>
      apply (alike_setPending _ _).bind
      intro _
      apply (alike_links (indistinct.uncover top)).bind
      intro _
      exact (alike_setPending _ _).bind fun _ => alike_pure _
  | false =>
      apply (alike_links (indistinct.coverRow top)).bind
      intro _
      apply (alike_links (Arena.alike_ask indistinct.isSolved)).bind
      intro solved
      cases solved <;> exact alike_pure _

theorem alike_retry (top : Link) (below : List Link) (untried : List (List Link)) :
    Alike (Like arenas sources) (retry draw' top below untried) (retry draw top below untried) := by
  apply (alike_setPending _ _).bind
  intro _
  apply (alike_links (indistinct.uncoverRow top)).bind
  intro _
  apply (alike_links (Arena.alike_ask (indistinct.columnOf top))).bind
  intro column
  exact (alike_decide answers _ column below _).bind fun _ => alike_pure _

/-- **One action is done alike.** -/
theorem alike_step (action : Action) :
    Alike (Like arenas sources) (step draw' action) (step draw action) := by
  apply alike_pending.bind
  rintro ⟨stack, untried⟩
  cases action with
  | choose => exact (alike_choose answers indistinct).bind fun _ => alike_pure _
  | enter =>
      cases stack with
      | nil => exact alike_pure _
      | cons top below => exact alike_enter indistinct top below untried
  | retry =>
      cases stack with
      | nil => exact alike_pure _
      | cons top below =>
          exact (alike_retry answers indistinct top below untried).bind fun _ => alike_pure _

/-- Any number of actions is done alike. -/
theorem alike_run (fuel : Nat) (action : Action) :
    Alike (Like arenas sources) (run draw' fuel action) (run draw fuel action) := by
  induction fuel generalizing action with
  | zero => exact alike_throw _
  | succ fuel ih =>
      apply (alike_step answers indistinct action).bind
      intro outcome
      cases outcome with
      | none => exact alike_pure _
      | some next => exact ih next

/-- **Searches are alike if they begin alike.** -/
theorem alike_search : Alike (Like arenas sources) (search draw') (search draw) := by
  apply alike_get_bind
  intro one other like
  have limits : Search.actionLimit one.arena = Search.actionLimit other.arena := by
    rw [Search.actionLimit, Search.actionLimit, indistinct.size _ _ like.arena]
  dsimp only
  rw [limits]
  apply (alike_links (Arena.alike_ask indistinct.isSolved)).bind
  intro solved
  cases solved with
  | true => exact alike_pure _
  | false => exact alike_run answers indistinct _ _

end

/-! ## Keeping a record -/

/-- A source that keeps a record of the bounds that it was asked to draw below, the latest first. -/
def recording (draw : σ → Nat → Nat × σ) : σ × List Nat → Nat → Nat × (σ × List Nat) :=
  fun (source, bounds) bound => ((draw source bound).1, ((draw source bound).2, bound :: bounds))

end Sampling

/-- **A record of the bounds changes nothing, and every bound in it is positive.** -/
theorem Problem.sample_recording {σ : Type} (draw : σ → Nat → Nat × σ) (source : σ)
    (problem : Problem) :
    ∃ bounds, (∀ bound ∈ bounds, 1 ≤ bound) ∧
      Problem.sample (Sampling.recording draw) (source, []) problem =
        ((Problem.sample draw source problem).1, ((Problem.sample draw source problem).2, bounds)) := by
  have answers : Sampling.Answers
      (fun (kept : σ × List Nat) plain => kept.1 = plain ∧ ∀ bound ∈ kept.2, 1 ≤ bound)
      (Sampling.recording draw) draw := by
    rintro ⟨_, bounds⟩ plain bound positive ⟨rfl, areBounds⟩
    exact ⟨rfl, rfl, List.forall_mem_cons.2 ⟨positive, areBounds⟩⟩
  obtain ⟨arena, policy, primaryCount⟩ := problem
  have alike := Sampling.alike_search answers Arena.indistinct_eq ⟨arena, [], [], (source, [])⟩
    ⟨arena, [], [], source⟩ ⟨rfl, rfl, rfl, rfl, by simp⟩
  simp only [Problem.sample]
  generalize Sampling.search (Sampling.recording draw) ⟨arena, [], [], (source, [])⟩ = recorded at *
  generalize Sampling.search draw ⟨arena, [], [], source⟩ = plain at *
  cases alike with
  | @ok _ one other like =>
      obtain ⟨arena, stack, untried, source, bounds⟩ := one
      obtain ⟨_, _, _, _⟩ := other
      obtain ⟨rfl, rfl, rfl, rfl, positive⟩ := like
      exact ⟨bounds, positive, rfl⟩
  | @error problem one other like =>
      obtain ⟨arena, stack, untried, source, bounds⟩ := one
      obtain ⟨_, _, _, _⟩ := other
      obtain ⟨rfl, rfl, rfl, rfl, positive⟩ := like
      exact ⟨bounds, positive, rfl⟩

end ExactCover
