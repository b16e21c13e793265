import ExactCover.Proofs.Search.AlgorithmX
import ExactCover.Proofs.Search.Runs

/-!
# The search follows Algorithm X

The search machine stands at a trail: it has covered the columns of the trail, and its decisions are
a stack. Each of its actions moves along the trail. Taking a column puts the column on the trail;
trying a row puts the other columns of the row on it; giving a row up takes them off again, and using
up the rows of a column takes the column off.

So a search that begins at a trail gives the answers of Algorithm X on what the trail leaves, in the
same order, each on top of the decisions made before, and it comes back to the very trail it began at
(`runs_choose`). The induction is on the number of columns that are left; inside it the rows of one
column are tried one after the other (`runs_rows`).
-/

set_option autoImplicit false

namespace ExactCover

/-- Running a computation on the arena of a search. -/
theorem Search.links_of_ok {α : Type} {action : LinkM α} {arena after : Arena} {answer : α}
    (succeeds : action arena = .ok answer after) (stack : List Link) :
    Search.links action ⟨arena, stack⟩ = .ok answer ⟨after, stack⟩ := by
  simp only [Search.links, succeeds]

namespace Layout

variable {layout : Layout} {start : Web} {covered : List Nat} {policy : Policy}

/-- A search that stands at a trail, with its decisions. -/
def search (layout : Layout) (start : Web) (covered : List Nat) (updates : Nat)
    (stack : List Link) : Search :=
  ⟨(layout.web start covered).arena updates, stack⟩

section

variable (proper : layout.Proper) (built : start.Shows layout []) (trail : layout.IsTrail covered)
include proper built trail

/-! ## What an action does to the arena -/

/-- A column is taken: it is found and covered. -/
theorem take_web
    (small : policy = .smallest → ∀ column ∈ layout.active covered,
      ((layout.live covered column).length : Int) < Arena.sizeBound)
    (nonempty : layout.active covered ≠ []) (updates : Nat) :
    ∃ column more, layout.chosen covered policy = some column ∧
      ((layout.web start covered).arena updates).chosenColumn policy = .ok (.record column) ∧
      column ∉ covered ∧ layout.IsTrail (column :: covered) ∧
      Arena.cover (.record column) ((layout.web start covered).arena updates) =
        .ok () ((layout.web start (column :: covered)).arena more) := by
  obtain ⟨column, isChosen, found⟩ := chosenColumn_web proper built trail small nonempty updates
  obtain ⟨isPrimary, uncovered⟩ := mem_active.1 (mem_active_of_chosen isChosen)
  have isColumn : column ∈ layout.columns := List.mem_append_left _ isPrimary
  have further : layout.IsTrail (column :: covered) := isTrail_cons.2 ⟨isColumn, uncovered, trail⟩
  exact ⟨column, _, isChosen, found, uncovered, further, cover_web proper built further updates⟩

omit trail in
/-- A column is given up: it is told from a row, and uncovered. -/
theorem leave_web {column : Nat} (trail : layout.IsTrail (column :: covered)) (updates : Nat) :
    ((layout.web start (column :: covered)).arena updates).isHeader (.record column) = .ok true ∧
      Arena.uncover (.record column) ((layout.web start (column :: covered)).arena updates) =
        .ok () ((layout.web start covered).arena updates) := by
  have isColumn := (isTrail_cons.1 trail).1
  have isHeader := isHeader_web proper built trail (built.sound.column_lt isColumn) updates
  rw [decide_eq_true (mem_headerRings_flatten.2 (.inr isColumn))] at isHeader
  exact ⟨isHeader, uncover_web proper built trail updates⟩

/-- A row is tried: it is told from a column, its columns are covered, and the search looks whether
that leaves a column. -/
theorem try_web {column node : Nat} (uncovered : column ∉ covered)
    (inside : node ∈ layout.live covered column) (updates : Nat) :
    ∃ more,
      ((layout.web start (column :: covered)).arena updates).isHeader (.record node) = .ok false ∧
      Arena.coverRow (.record node) ((layout.web start (column :: covered)).arena updates) =
        .ok () ((layout.web start (layout.withRow covered node)).arena more) ∧
      ((layout.web start (layout.withRow covered node)).arena more).isSolved =
        .ok (layout.active (layout.withRow covered node)).isEmpty := by
  obtain ⟨isNode, home, free⟩ := (built.sound.mem_live proper uncovered).1 inside
  have further := trail.withRow built.sound proper isNode free
  have isColumn : column ∈ layout.columns := home ▸ built.sound.column_mem proper isNode
  have isHeader := isHeader_web proper built (isTrail_cons.2 ⟨isColumn, uncovered, trail⟩)
    (built.sound.node_lt isNode) updates
  rw [decide_eq_false fun isHeader => built.sound.header_not_node isHeader isNode] at isHeader
  have covers := coverRow_web proper built isNode further updates
  rw [home] at covers
  exact ⟨_, isHeader, covers, isSolved_web proper built further _⟩

/-- A row is given up: its columns are uncovered, but for the one that was taken. -/
theorem giveUp_web {column node : Nat} (uncovered : column ∉ covered)
    (inside : node ∈ layout.live covered column) (updates : Nat) :
    Arena.uncoverRow (.record node) ((layout.web start (layout.withRow covered node)).arena updates) =
      .ok () ((layout.web start (column :: covered)).arena updates) := by
  obtain ⟨isNode, home, free⟩ := (built.sound.mem_live proper uncovered).1 inside
  have further := trail.withRow built.sound proper isNode free
  have uncovers := uncoverRow_web proper built isNode further updates
  rwa [home] at uncovers

/-! ## One action -/

omit trail in
/-- A column that is found and covered is decided for by its first row. -/
theorem step_choose_of_cover {column updates more : Nat}
    (found : ((layout.web start covered).arena updates).chosenColumn policy = .ok (.record column))
    (uncovered : column ∉ covered) (further : layout.IsTrail (column :: covered))
    (covers : Arena.cover (.record column) ((layout.web start covered).arena updates) =
      .ok () ((layout.web start (column :: covered)).arena more)) (stack : List Link) :
    Search.step policy .choose (layout.search start covered updates stack) =
      .ok (some .enter) (layout.search start (column :: covered) more
        (.record ((layout.live covered column).headD column) :: stack)) := by
  obtain ⟨read, down⟩ := down_header_web proper built further (isTrail_cons.1 further).1 more
  rw [built.sound.live_cons_self proper uncovered] at down
  have chooses : Search.choose policy (layout.search start covered updates stack) =
      .ok .enter (layout.search start (column :: covered) more
        (.record ((layout.live covered column).headD column) :: stack)) := by
    refine (bind_of_ok (Search.links_of_ok (Arena.ask_of_ok found) stack)).trans ?_
    refine (bind_of_ok (Search.links_of_ok covers stack)).trans ?_
    refine (bind_of_ok (Search.links_of_ok read stack)).trans ?_
    rw [down]
    rfl
  exact bind_of_ok chooses

/-- The search takes a column and decides for its first row. -/
theorem step_choose
    (small : policy = .smallest → ∀ column ∈ layout.active covered,
      ((layout.live covered column).length : Int) < Arena.sizeBound)
    (nonempty : layout.active covered ≠ []) (updates : Nat) (stack : List Link) :
    ∃ column more, layout.chosen covered policy = some column ∧
      Search.step policy .choose (layout.search start covered updates stack) =
        .ok (some .enter) (layout.search start (column :: covered) more
          (.record ((layout.live covered column).headD column) :: stack)) := by
  obtain ⟨column, more, isChosen, found, uncovered, further, covers⟩ :=
    take_web proper built trail small nonempty updates
  exact ⟨column, more, isChosen,
    step_choose_of_cover proper built found uncovered further covers stack⟩

omit trail in
/-- When the rows of a column are used up the column is uncovered. -/
theorem step_enter_column {column : Nat} (trail : layout.IsTrail (column :: covered))
    (updates : Nat) (stack : List Link) :
    Search.step policy .enter
        (layout.search start (column :: covered) updates (.record column :: stack)) =
      .ok (some .retry) (layout.search start covered updates stack) := by
  obtain ⟨isHeader, uncovers⟩ := leave_web proper built trail updates
  refine (bind_of_ok (Search.links_of_ok (Arena.ask_of_ok isHeader) _)).trans ?_
  exact bind_of_ok (Search.links_of_ok uncovers stack)

variable {column node : Nat} (uncovered : column ∉ covered)

omit proper built trail in
/-- A row whose columns are covered is tried. -/
theorem step_enter_of_cover (policy : Policy) {updates more : Nat}
    (isHeader : ((layout.web start (column :: covered)).arena updates).isHeader (.record node) =
      .ok false)
    (covers : Arena.coverRow (.record node) ((layout.web start (column :: covered)).arena updates) =
      .ok () ((layout.web start (layout.withRow covered node)).arena more))
    (solved : ((layout.web start (layout.withRow covered node)).arena more).isSolved =
      .ok (layout.active (layout.withRow covered node)).isEmpty) (stack : List Link) :
    Search.step policy .enter
        (layout.search start (column :: covered) updates (.record node :: stack)) =
      .ok (if (layout.active (layout.withRow covered node)).isEmpty then none else some .choose)
        (layout.search start (layout.withRow covered node) more (.record node :: stack)) := by
  refine (bind_of_ok (Search.links_of_ok (Arena.ask_of_ok isHeader) _)).trans ?_
  refine (bind_of_ok (Search.links_of_ok covers _)).trans ?_
  refine (bind_of_ok (Search.links_of_ok (Arena.ask_of_ok solved) _)).trans ?_
  cases (layout.active (layout.withRow covered node)).isEmpty <;> rfl

include uncovered

/-- A row is tried by covering its columns. -/
theorem step_enter_node (policy : Policy) (inside : node ∈ layout.live covered column) (updates : Nat)
    (stack : List Link) :
    ∃ more, Search.step policy .enter
        (layout.search start (column :: covered) updates (.record node :: stack)) =
      .ok (if (layout.active (layout.withRow covered node)).isEmpty then none else some .choose)
        (layout.search start (layout.withRow covered node) more (.record node :: stack)) := by
  obtain ⟨more, isHeader, covers, solved⟩ := try_web proper built trail uncovered inside updates
  exact ⟨more, step_enter_of_cover policy isHeader covers solved stack⟩

/-- A row is given up for the next row of its column. -/
theorem step_retry {done rest : List Nat}
    (split : layout.live covered column = done ++ node :: rest) (updates : Nat)
    (stack : List Link) :
    Search.step policy .retry
        (layout.search start (layout.withRow covered node) updates (.record node :: stack)) =
      .ok (some .enter) (layout.search start (column :: covered) updates
        (.record (rest.headD column) :: stack)) := by
  have inside : node ∈ layout.live covered column := by simp [split]
  have uncovers := giveUp_web proper built trail uncovered inside updates
  obtain ⟨isNode, home⟩ := built.sound.node_of_mem_live inside
  have isColumn : column ∈ layout.columns := home ▸ built.sound.column_mem proper isNode
  rw [← built.sound.live_cons_self proper uncovered] at split
  obtain ⟨read, down⟩ := down_node_web proper built (isTrail_cons.2 ⟨isColumn, uncovered, trail⟩)
    isColumn split updates
  have retries : Search.retry (.record node) stack
      (layout.search start (layout.withRow covered node) updates (.record node :: stack)) =
      .ok .enter (layout.search start (column :: covered) updates
        (.record (rest.headD column) :: stack)) := by
    refine (bind_of_ok (Search.links_of_ok uncovers _)).trans ?_
    refine (bind_of_ok (Search.links_of_ok read _)).trans ?_
    rw [down]
    rfl
  exact bind_of_ok retries

/-! ## Runs -/

/-- The answers of Algorithm X on what a trail leaves, on top of the decisions made before. -/
def answers (layout : Layout) (policy : Policy) (covered : List Nat) (stack : List Link) :
    List (List Link) :=
  (algorithmX policy (layout.demandsLeft covered)).map fun path =>
    stack.reverse ++ path.map fun node : Nat => Link.record node

omit proper trail uncovered in
/-- If no column is left the decisions made before are the only answer. -/
theorem answers_of_active_nil (solved : layout.active covered = []) (stack : List Link) :
    layout.answers policy covered stack = [stack.reverse] := by
  rw [answers, algorithmX_demandsLeft built.sound, chosen_eq_none.2 solved]
  simp

omit proper trail uncovered in
/-- The answers are those with the rows of the column that is taken. -/
theorem answers_of_chosen (isChosen : layout.chosen covered policy = some column)
    (stack : List Link) :
    layout.answers policy covered stack = (layout.live covered column).flatMap fun node =>
      layout.answers policy (layout.withRow covered node) (.record node :: stack) := by
  rw [answers, algorithmX_demandsLeft built.sound, isChosen, List.map_flatMap]
  apply List.flatMap_congr
  intro node _
  simp [answers, Function.comp_def]

/-- Within the bound a search that begins at a trail gives the answers on what the trail leaves, and comes
back to the trail. -/
def Solves (layout : Layout) (start : Web) (policy : Policy) (bound : Nat) (covered : List Nat)
    (stack : List Link) : Prop :=
  ∀ updates, ∃ actions more, actions + 2 ≤ bound ∧ Search.Runs policy start.count actions
    .choose (layout.search start covered updates stack) (layout.answers policy covered stack)
    .retry (layout.search start covered more stack)

/-- Within the bound a search that tries a row gives the answers with that row, and comes to where it gives
the row up. -/
def Tries (layout : Layout) (start : Web) (policy : Policy) (bound : Nat) (covered : List Nat)
    (column : Nat) (stack : List Link) (node : Nat) : Prop :=
  ∀ updates, ∃ actions more, actions < bound ∧ Search.Runs policy start.count actions
    .enter (layout.search start (column :: covered) updates (.record node :: stack))
    (layout.answers policy (layout.withRow covered node) (.record node :: stack))
    .retry (layout.search start (layout.withRow covered node) more (.record node :: stack))

/-- A row is tried: if it leaves a column the search goes on from there, and else it is an answer. -/
theorem runs_row {bound : Nat} (wide : 2 ≤ bound) (inside : node ∈ layout.live covered column)
    {stack : List Link}
    (onward : layout.active (layout.withRow covered node) ≠ [] →
      layout.Solves start policy bound (layout.withRow covered node) (.record node :: stack)) :
    layout.Tries start policy bound covered column stack node := by
  intro updates
  obtain ⟨isNode, -, free⟩ := (built.sound.mem_live proper uncovered).1 inside
  have further := trail.withRow built.sound proper isNode free
  obtain ⟨between, enters⟩ :=
    step_enter_node proper built trail uncovered policy inside updates stack
  by_cases solved : layout.active (layout.withRow covered node) = []
  · rw [solved, List.isEmpty_nil, if_pos rfl] at enters
    have isSolved := isSolved_web proper built further between
    rw [solved, List.isEmpty_nil] at isSolved
    rw [answers_of_active_nil built solved]
    refine ⟨1, between, wide, .found enters ?_ isSolved (List.cons_ne_nil _ _) .here⟩
    simp [search]
  · rw [List.isEmpty_eq_false_iff.2 solved] at enters
    obtain ⟨actions, after, cheap, run⟩ := onward solved between
    exact ⟨actions + 1, after, by omega, .act enters run⟩

/-- The rows of a column are tried one after the other, and then the column is uncovered. -/
theorem runs_rows {bound : Nat} {stack : List Link} (isColumn : column ∈ layout.columns)
    (tried : ∀ node ∈ layout.live covered column,
      layout.Tries start policy bound covered column stack node)
    (done rest : List Nat) (split : layout.live covered column = done ++ rest) (updates : Nat) :
    ∃ actions more, actions ≤ rest.length * bound + 1 ∧
      Search.Runs policy start.count actions
        .enter (layout.search start (column :: covered) updates
          (.record (rest.headD column) :: stack))
        (rest.flatMap fun node =>
          layout.answers policy (layout.withRow covered node) (.record node :: stack))
        .retry (layout.search start covered more stack) := by
  induction rest generalizing done updates with
  | nil =>
      have further : layout.IsTrail (column :: covered) :=
        isTrail_cons.2 ⟨isColumn, uncovered, trail⟩
      exact ⟨1, updates, by simp,
        .single (step_enter_column proper built further updates stack)⟩
  | cons node rest ih =>
      obtain ⟨first, between, cheap, run⟩ := tried node (by simp [split]) updates
      obtain ⟨second, more, cheap', onward⟩ := ih (done ++ [node]) (by simp [split]) between
      refine ⟨first + (second + 1), more, ?_, ?_⟩
      · rw [List.length_cons, Nat.add_mul]
        omega
      · rw [List.flatMap_cons]
        exact run.trans (.act (step_retry proper built trail uncovered split between stack) onward)

omit uncovered in
/-- A row leaves fewer columns than there were, so it can be tried as soon as searches on fewer columns
are known. -/
theorem tries_of_solves {depth : Nat} (isActive : column ∈ layout.active covered)
    (short : (layout.active covered).length ≤ depth + 1) (stack : List Link)
    (solves : ∀ {covered : List Nat}, layout.IsTrail covered → layout.active covered ≠ [] →
      (layout.active covered).length ≤ depth → ∀ stack,
        layout.Solves start policy (Search.actionBound start.count depth) covered stack) :
    ∀ node ∈ layout.live covered column,
      layout.Tries start policy (Search.actionBound start.count depth) covered column stack node := by
  intro node inside
  have uncovered := (mem_active.1 isActive).2
  obtain ⟨isNode, -, free⟩ := (built.sound.mem_live proper uncovered).1 inside
  have fewer := length_active_withRow_lt built.sound isActive inside
  exact runs_row proper built trail uncovered (Search.two_le_actionBound _ _) inside fun left =>
    solves (trail.withRow built.sound proper isNode free) left (by omega) _

end

section

variable (proper : layout.Proper) (built : start.Shows layout [])
  (small : policy = .smallest → ∀ column ∈ layout.primary,
    ((layout.members column).length : Int) < Arena.sizeBound)
include proper built small

/-- **A search that begins at a trail gives the answers of Algorithm X on what the trail leaves**, and
comes back to the trail. -/
theorem runs_choose (depth : Nat) (trail : layout.IsTrail covered)
    (nonempty : layout.active covered ≠ []) (short : (layout.active covered).length ≤ depth)
    (stack : List Link) :
    layout.Solves start policy (Search.actionBound start.count depth) covered stack := by
  intro updates
  induction depth generalizing covered updates stack with
  | zero => exact absurd (List.eq_nil_of_length_eq_zero (Nat.le_zero.1 short)) nonempty
  | succ depth ih =>
      obtain ⟨column, more, isChosen, chooses⟩ := step_choose proper built trail
        (fun isSmallest => live_small (small isSmallest)) nonempty updates stack
      have isActive := mem_active_of_chosen isChosen
      have tried := tries_of_solves proper built trail isActive short stack
        fun trail nonempty short => ih trail nonempty short
      obtain ⟨actions, after, cheap, run⟩ := runs_rows proper built trail (mem_active.1 isActive).2
        (column_of_mem_active isActive) tried [] (layout.live covered column) rfl more
      rw [answers_of_chosen built isChosen]
      refine ⟨actions + 1, after, ?_, .act chooses run⟩
      have room := Search.rows_le_actionBound (length_live_le built.sound covered column) depth
      omega

end

end Layout

end ExactCover
