import ExactCover.Proofs.Search.Simulation

/-!
# Decisions

A decision is a row, given by one of its records. Deciding for a row covers its columns, from the
column of that record on, so decisions that are made one after the other lead along one trail
(`Layout.withRows`). That is possible whenever no row is met by the time that it is decided for
(`Layout.Allows`), in particular if the rows share no column (`allows_of_apart`).

Undoing decisions takes them back from the latest to the first, and leads back to the very web they
were made in (`undo_web`). As that holds for decisions made on top of any others, decisions may also be
undone in parts.

Main statements: `commits_of_allows` (deciding for rows by hand) and `undo_web` (undoing decisions).
-/

set_option autoImplicit false

namespace ExactCover

/-- Decisions as links. -/
def linksTo (path : List Nat) : List Link := path.map fun node : Nat => Link.record node

@[simp] theorem linksTo_nil : linksTo [] = [] := rfl

@[simp] theorem linksTo_cons (node : Nat) (path : List Nat) :
    linksTo (node :: path) = .record node :: linksTo path := rfl

@[simp] theorem linksTo_append (path more : List Nat) :
    linksTo (path ++ more) = linksTo path ++ linksTo more := List.map_append

theorem linksTo_reverse (path : List Nat) : linksTo path.reverse = (linksTo path).reverse :=
  List.map_reverse

@[simp] theorem linksTo_flatten (paths : List (List Nat)) :
    linksTo paths.flatten = (paths.map linksTo).flatten := List.map_flatten

/-- Deciding for links is deciding for the records that they name. -/
theorem foldlM_commit_linksTo (path : List Nat) (decisions : List Link) :
    (linksTo path).foldlM (fun decisions node => Problem.commit node decisions) decisions =
      path.foldlM (fun decisions (node : Nat) => Problem.commit (.record node) decisions)
        decisions := List.foldlM_map

namespace Layout

variable {layout : Layout} {start : Web} {covered path : List Nat} {policy : Policy}

/-- The trail after rows were decided for. -/
def withRows (layout : Layout) (covered forced : List Nat) : List Nat :=
  forced.foldl layout.withRow covered

@[simp] theorem withRows_nil : layout.withRows covered [] = covered := rfl

@[simp] theorem withRows_cons (node : Nat) :
    layout.withRows covered (node :: path) = layout.withRows (layout.withRow covered node) path := rfl

@[simp] theorem withRows_append (more : List Nat) :
    layout.withRows covered (path ++ more) = layout.withRows (layout.withRows covered path) more :=
  List.foldl_append

theorem mem_withRows {forced : List Nat} {column : Nat} :
    column ∈ layout.withRows covered forced ↔
      column ∈ forced.flatMap layout.columnsOf ∨ column ∈ covered := by
  induction forced generalizing covered with
  | nil => simp [withRows]
  | cons node forced ih =>
      rw [withRows, List.foldl_cons, ← withRows, ih, mem_withRow, List.flatMap_cons,
        List.mem_append]
      tauto

theorem mem_withRows_nil {forced : List Nat} {column : Nat} :
    column ∈ layout.withRows [] forced ↔ column ∈ forced.flatMap layout.columnsOf := by
  rw [mem_withRows, or_iff_left List.not_mem_nil]

/-- Decisions that leave a primary column uncovered leave something to search. -/
theorem active_withRows_ne_nil {forced : List Nat}
    (left : ∃ column ∈ layout.primary, column ∉ forced.flatMap layout.columnsOf) :
    layout.active (layout.withRows [] forced) ≠ [] := by
  intro solved
  obtain ⟨column, isPrimary, uncovered⟩ := left
  exact uncovered (mem_withRows_nil.1 (active_eq_nil.1 solved column isPrimary))

/-! ## Rows that can be decided for -/

/-- Rows that can be decided for one after the other: none of them is met when its turn comes. -/
def Allows (layout : Layout) : List Nat → List Nat → Prop
  | _, [] => True
  | covered, node :: path =>
      node ∈ layout.nodes ∧ layout.meets covered node = false ∧
        layout.Allows (layout.withRow covered node) path

theorem allows_append {more : List Nat} :
    layout.Allows covered (path ++ more) ↔
      layout.Allows covered path ∧ layout.Allows (layout.withRows covered path) more := by
  induction path generalizing covered with
  | nil => simp [Allows]
  | cons node path ih =>
      rw [List.cons_append, Allows, Allows, ih, withRows_cons]
      tauto

/-- One decision more. -/
theorem allows_concat {node : Nat} :
    layout.Allows covered (path ++ [node]) ↔ layout.Allows covered path ∧
      node ∈ layout.nodes ∧ layout.meets (layout.withRows covered path) node = false := by
  rw [allows_append]
  simp [Allows]

/-- Rows are decided for by their records. -/
theorem node_of_allows (allowed : layout.Allows covered path) :
    ∀ node ∈ path, node ∈ layout.nodes := by
  induction path generalizing covered with
  | nil => simp
  | cons node path ih => exact List.forall_mem_cons.2 ⟨allowed.1, ih allowed.2.2⟩

/-- A row meets another one, or a column that was covered before it. -/
theorem meets_withRow_eq_false {node other : Nat} :
    layout.meets (layout.withRow covered node) other = false ↔
      (layout.columnsOf node).Disjoint (layout.columnsOf other) ∧
        layout.meets covered other = false := by
  simp only [meets_eq_false, mem_withRow, List.disjoint_left]
  constructor
  · intro free
    exact ⟨fun column isOwn => free column (.inl isOwn),
      fun column isEarlier => free column (.inr isEarlier)⟩
  · rintro ⟨apart, earlier⟩ column (isOwn | isEarlier)
    · exact apart isOwn
    · exact earlier column isEarlier

/-- **Rows that share no column can be decided for one after the other**, in any order. -/
theorem allows_of_apart {forced : List Nat} (areNodes : ∀ node ∈ forced, node ∈ layout.nodes)
    (apart : forced.Pairwise fun one other =>
      (layout.columnsOf one).Disjoint (layout.columnsOf other))
    (free : ∀ node ∈ forced, layout.meets covered node = false) : layout.Allows covered forced := by
  induction forced generalizing covered with
  | nil => trivial
  | cons node forced ih =>
      rw [List.pairwise_cons] at apart
      refine ⟨areNodes node List.mem_cons_self, free node List.mem_cons_self, ?_⟩
      apply ih (fun other isLater => areNodes other (List.mem_cons_of_mem _ isLater)) apart.2
      intro other isLater
      exact meets_withRow_eq_false.2
        ⟨apart.1 other isLater, free other (List.mem_cons_of_mem _ isLater)⟩

/-- Decisions lead along a trail. -/
theorem IsTrail.withRows {count : Nat} (trail : layout.IsTrail covered) (sound : layout.Sound count)
    (proper : layout.Proper) (allowed : layout.Allows covered path) :
    layout.IsTrail (layout.withRows covered path) := by
  induction path generalizing covered with
  | nil => exact trail
  | cons node path ih =>
      obtain ⟨isNode, free, rest⟩ := allowed
      exact ih (trail.withRow sound proper isNode free) rest

section

variable (proper : layout.Proper) (built : start.Shows layout [])
include proper built

/-! ## Deciding by hand -/

/-- Deciding for a row by hand covers its columns. -/
theorem commit_search {node : Nat} (isNode : node ∈ layout.nodes)
    (further : layout.IsTrail (layout.withRow covered node)) (updates : Nat) (stack : List Link) :
    ∃ more, Search.commit (.record node) (layout.search start covered updates stack) =
      .ok () (layout.search start (layout.withRow covered node) more (.record node :: stack)) := by
  have own : layout.IsTrail (layout.column node :: covered) := by
    rw [withRow_eq] at further
    exact further.of_suffix (List.suffix_append _ _)
  have trail := (isTrail_cons.1 own).2.2
  have home := columnOf_web proper built trail isNode updates
  have covers := cover_web proper built own updates
  obtain ⟨more, coversRow⟩ : ∃ more, Arena.coverRow (.record node)
      ((layout.web start (layout.column node :: covered)).arena
        (updates + (layout.struck covered (layout.column node)).length)) =
        .ok () ((layout.web start (layout.withRow covered node)).arena more) :=
    ⟨_, coverRow_web proper built isNode further _⟩
  refine ⟨more, ?_⟩
  refine (bind_of_ok (Search.links_of_ok ((bind_of_ok (Arena.ask_of_ok home)).trans covers) _)).trans ?_
  exact bind_of_ok (Search.links_of_ok coversRow _)

/-- Deciding for one row of a problem. -/
theorem commit_web {node : Nat} (isNode : node ∈ layout.nodes)
    (further : layout.IsTrail (layout.withRow covered node)) (updates primaryCount : Nat)
    (decisions : List Link) :
    ∃ more, Problem.commit (.record node) decisions
        ⟨(layout.web start covered).arena updates, policy, primaryCount⟩ =
      .ok (decisions ++ [.record node])
        ⟨(layout.web start (layout.withRow covered node)).arena more, policy, primaryCount⟩ := by
  obtain ⟨more, committed⟩ := commit_search proper built isNode further updates decisions.reverse
  simp only [search] at committed
  refine ⟨more, ?_⟩
  simp only [Problem.commit, Problem.deciding, Problem.resume, committed]
  simp

/-- **Deciding for rows by hand**, on top of any decisions made before. -/
theorem commits_of_allows (trail : layout.IsTrail covered) (allowed : layout.Allows covered path)
    (updates primaryCount : Nat) (decisions : List Link) :
    ∃ more, path.foldlM (fun decisions (node : Nat) => Problem.commit (.record node) decisions)
        decisions ⟨(layout.web start covered).arena updates, policy, primaryCount⟩ =
      .ok (decisions ++ linksTo path)
        ⟨(layout.web start (layout.withRows covered path)).arena more, policy, primaryCount⟩ := by
  induction path generalizing covered updates decisions with
  | nil => exact ⟨updates, by simp [pure, EStateM.pure]⟩
  | cons node path ih =>
      obtain ⟨isNode, free, allowed⟩ := allowed
      have further := trail.withRow built.sound proper isNode free
      obtain ⟨between, first⟩ :=
        commit_web proper built isNode further updates primaryCount decisions
      obtain ⟨more, rest⟩ := ih further allowed between (decisions ++ [.record node])
      refine ⟨more, ?_⟩
      rw [List.foldlM_cons]
      refine (bind_of_ok first).trans ?_
      rw [rest]
      simp

/-- **Rows that share no column may be decided for by hand.** -/
theorem commits_web {forced : List Nat} (areNodes : ∀ node ∈ forced, node ∈ layout.nodes)
    (apart : forced.Pairwise fun one other =>
      (layout.columnsOf one).Disjoint (layout.columnsOf other))
    (free : ∀ node ∈ forced, layout.meets covered node = false) (trail : layout.IsTrail covered)
    (updates primaryCount : Nat) (decisions : List Link) :
    layout.IsTrail (layout.withRows covered forced) ∧
      ∃ more, forced.foldlM (fun decisions (node : Nat) => Problem.commit (.record node) decisions)
          decisions ⟨(layout.web start covered).arena updates, policy, primaryCount⟩ =
        .ok (decisions ++ linksTo forced)
          ⟨(layout.web start (layout.withRows covered forced)).arena more, policy, primaryCount⟩ := by
  have allowed := allows_of_apart areNodes apart free
  exact ⟨trail.withRows built.sound proper allowed,
    commits_of_allows proper built trail allowed updates primaryCount decisions⟩

/-! ## Undoing -/

/-- Decisions are undone from the latest to the first. -/
theorem undoFrom_search (trail : layout.IsTrail covered) (allowed : layout.Allows covered path)
    (updates : Nat) :
    Search.undoFrom (linksTo path).reverse
        (layout.search start (layout.withRows covered path) updates (linksTo path).reverse) =
      .ok () (layout.search start covered updates []) := by
  induction path using List.reverseRecOn with
  | nil => rfl
  | append_singleton path node ih =>
      obtain ⟨before, isNode, free⟩ := allows_concat.1 allowed
      have earlier := trail.withRows built.sound proper before
      have further := earlier.withRow built.sound proper isNode free
      have own : layout.IsTrail (layout.column node :: layout.withRows covered path) := by
        rw [withRow_eq] at further
        exact further.of_suffix (List.suffix_append _ _)
      have uncoversRow := uncoverRow_web proper built isNode further updates
      obtain ⟨read, home⟩ := read_web proper built isNode own updates
      have uncovers : (do Arena.uncover (← Arena.read (.record node)).column : LinkM Unit)
          ((layout.web start (layout.column node :: layout.withRows covered path)).arena updates) =
            .ok () ((layout.web start (layout.withRows covered path)).arena updates) := by
        refine (bind_of_ok read).trans ?_
        rw [home]
        exact uncover_web proper built own updates
      rw [linksTo_append, List.reverse_append, withRows_append]
      refine (bind_of_ok (Search.links_of_ok uncoversRow _)).trans ?_
      exact (bind_of_ok (Search.links_of_ok uncovers _)).trans (ih before)

/-- **Undoing decisions leads back to where they were made**, and uses them up. -/
theorem undo_web (trail : layout.IsTrail covered) (allowed : layout.Allows covered path)
    (updates primaryCount : Nat) :
    Problem.deciding (linksTo path) Search.undo
        ⟨(layout.web start (layout.withRows covered path)).arena updates, policy, primaryCount⟩ =
      .ok [] ⟨(layout.web start covered).arena updates, policy, primaryCount⟩ := by
  have undone : Search.undo
      (layout.search start (layout.withRows covered path) updates (linksTo path).reverse) =
        .ok () (layout.search start covered updates []) :=
    (bind_of_ok (rfl : Search.decisions _ = .ok (linksTo path).reverse _)).trans
      (undoFrom_search proper built trail allowed updates)
  simp only [search] at undone
  simp only [Problem.deciding, Problem.resume, undone, List.reverse_nil]

/-- So it does when nobody asks which decisions are left. -/
theorem undone_web (trail : layout.IsTrail covered) (allowed : layout.Allows covered path)
    (updates primaryCount : Nat) :
    Problem.undo (linksTo path)
        ⟨(layout.web start (layout.withRows covered path)).arena updates, policy, primaryCount⟩ =
      .ok () ⟨(layout.web start covered).arena updates, policy, primaryCount⟩ :=
  bind_of_ok (undo_web proper built trail allowed updates primaryCount)

end

end Layout

end ExactCover
