import ExactCover.Proofs.Search.Drawing
import ExactCover.Proofs.Search.Resumption
import ExactCover.Solver.Sampling

/-!
# The random search follows Algorithm X with drawn rows

The random search is the same machine with other decisions. It moves along trails as the search does,
but instead of going down a column it draws from the rows that it has set aside for the decision, and
it stops at the first solution.

What it does from some point on is a sequence of actions that leads to another action or to the end
(`Sampling.Leads`). A search that begins at a trail either stops at the path that Algorithm X finds with
the same draws, or it comes back to the trail and gives the decision before up
(`Layout.Settles`, `leads_choose`). In both cases the source of randomness is left as the procedure
leaves it. The draws themselves may be any numbers.

So one call returns, and it returns that path in the web of the path, or no decisions in the web that it
began with (`sample_web`).
-/

set_option autoImplicit false

namespace ExactCover

variable {σ : Type} {draw : σ → Nat → Nat × σ}

namespace Sampling

/-- Running a computation on the arena of a random search. -/
theorem links_of_ok {α : Type} {action : LinkM α} {arena after : Arena} {answer : α}
    (succeeds : action arena = .ok answer after) (stack : List Link) (untried : List (List Link))
    (source : σ) :
    links action ⟨arena, stack, untried, source⟩ = .ok answer ⟨after, stack, untried, source⟩ := by
  simp only [links, succeeds]

/-- What is decided for, and the rows that are set aside: a row that is drawn and the others, or the column
itself if nothing is drawn. -/
def decided (draw : σ → Nat → Nat × σ) (column : Nat) (rows : List Nat) (source : σ) :
    Nat × List Nat := (drawFrom draw rows source).1.getD (column, rows)

theorem decide_eq (rows : List Nat) (column : Nat) (stack : List Link)
    (untried : List (List Link)) (sampling : Sampling σ) :
    decide draw (linksTo rows) (.record column) stack untried sampling =
      .ok () ⟨sampling.arena,
        .record (decided draw column rows sampling.source).1 :: stack,
        linksTo (decided draw column rows sampling.source).2 :: untried,
        (drawFrom draw rows sampling.source).2⟩ := by
  obtain ⟨arena, before, left, source⟩ := sampling
  by_cases empty : rows = []
  · subst empty
    rfl
  · have told : (linksTo rows).isEmpty = false := by simpa [linksTo] using empty
    have full : rows.isEmpty = false := by simpa using empty
    simp only [decide, told, full, decided, drawFrom, Bool.false_eq_true, if_false]
    rcases drawn : draw source rows.length with ⟨place, after⟩
    have number : drawBelow draw (linksTo rows).length ⟨arena, before, left, source⟩ =
        .ok place ⟨arena, before, left, after⟩ := by
      simp only [drawBelow, linksTo, List.length_map, drawn]
    refine (bind_of_ok number).trans ?_
    by_cases inside : place < rows.length
    · simp [setPending, linksTo, inside, List.eraseIdx_map]
    · have outside := Nat.le_of_not_lt inside
      simp [setPending, linksTo, outside, List.eraseIdx_of_length_le]

/-- What the machine does from some action on, with the number of actions: it comes to another action, or
to the end. -/
inductive Leads (draw : σ → Nat → Nat × σ) :
    Nat → Action → Sampling σ → Option Action → Sampling σ → Prop
  /-- Nothing is done. -/
  | here {action : Action} {sampling : Sampling σ} :
      Leads draw 0 action sampling (some action) sampling
  /-- The search ends. -/
  | stop {action : Action} {sampling after : Sampling σ} :
      step draw action sampling = .ok none after → Leads draw 1 action sampling none after
  /-- One action leads to the next. -/
  | act {actions : Nat} {action next : Action} {outcome : Option Action}
      {sampling after final : Sampling σ} :
      step draw action sampling = .ok (some next) after →
      Leads draw actions next after outcome final →
      Leads draw (actions + 1) action sampling outcome final

variable {actions more : Nat} {action middle : Action} {outcome : Option Action}
  {sampling between final : Sampling σ}

/-- Sequences of actions are put together. -/
theorem Leads.trans (first : Leads draw actions action sampling (some middle) between)
    (second : Leads draw more middle between outcome final) :
    Leads draw (actions + more) action sampling outcome final := by
  generalize same : some middle = reached at first
  induction first with
  | here =>
      cases same
      simpa using second
  | stop => cases same
  | act done _ ih =>
      rw [Nat.add_right_comm]
      exact .act done (ih second same)

/-- A search that leads to its end ends there, if the actions are enough. -/
theorem Leads.run_eq (leads : Leads draw actions action sampling none final) {fuel : Nat}
    (enough : actions ≤ fuel) : run draw fuel action sampling = .ok () final := by
  generalize same : (none : Option Action) = reached at leads
  induction leads generalizing fuel with
  | here => cases same
  | stop done =>
      obtain ⟨fuel, rfl⟩ := Nat.exists_eq_add_of_lt (Nat.lt_of_succ_le enough)
      exact bind_of_ok done
  | act done _ ih =>
      obtain ⟨fuel, rfl⟩ := Nat.exists_eq_add_of_lt (Nat.lt_of_succ_le enough)
      exact (bind_of_ok done).trans (ih (by omega) same)

/-- A search begins by looking whether a column is left. -/
theorem search_eq {solved : Bool} (isSolved : sampling.arena.isSolved = .ok solved) :
    search draw sampling =
      if solved then .ok () sampling
      else run draw (Search.actionLimit sampling.arena) .choose sampling := by
  have asked := links_of_ok (Arena.ask_of_ok isSolved) sampling.stack sampling.untried sampling.source
  refine (bind_of_ok (rfl : (get : SamplingM σ (Sampling σ)) sampling = .ok sampling sampling)).trans ?_
  refine (bind_of_ok asked).trans ?_
  cases solved <;> rfl

end Sampling

/-- A call on a problem is a search on its arena. -/
theorem Problem.sample_of_search {arena : Arena} {source : σ} {final : Sampling σ}
    (searched : Sampling.search draw ⟨arena, [], [], source⟩ = .ok () final) (policy : Policy)
    (primaryCount : Nat) :
    Problem.sample draw source ⟨arena, policy, primaryCount⟩ =
      (.ok final.stack.reverse ⟨final.arena, policy, primaryCount⟩, final.source) := by
  simp only [Problem.sample, searched]

namespace Layout

variable {layout : Layout} {start : Web} {covered : List Nat}

/-- A random search that stands at a trail, with its decisions and the rows set aside for them. -/
def sampling (layout : Layout) (start : Web) (covered : List Nat) (updates : Nat)
    (stack : List Link) (untried : List (List Link)) (source : σ) : Sampling σ :=
  ⟨(layout.web start covered).arena updates, stack, untried, source⟩

/-- Where a random search has come that began at a trail: to the end, at the path that was found, or back
to the trail, where the decision before is given up. -/
inductive Settles (layout : Layout) (start : Web) (covered : List Nat) (stack : List Link)
    (untried : List (List Link)) :
    Option (List Nat) × σ → Option Action → Sampling σ → Prop
  | found {path : List Nat} {updates : Nat} {left : List (List Link)} {source : σ} :
      layout.IsPath covered path → layout.active (layout.withRows covered path) = [] →
      Settles layout start covered stack untried (some path, source) none
        (layout.sampling start (layout.withRows covered path) updates
          ((linksTo path).reverse ++ stack) left source)
  | failed {updates : Nat} {source : σ} :
      Settles layout start covered stack untried (none, source) (some .retry)
        (layout.sampling start covered updates stack untried source)

/-- What is settled with a row is settled without it: a path that was found begins with the row. -/
theorem Settles.found_withRow {count column node : Nat} {path : List Nat} {stack : List Link}
    {left untried : List (List Link)} {after : σ} {outcome : Option Action} {final : Sampling σ}
    (sound : layout.Sound count) (proper : layout.Proper) (isActive : column ∈ layout.active covered)
    (inside : node ∈ layout.live covered column)
    (settled : Settles layout start (layout.withRow covered node) (.record node :: stack) left
      (some path, after) outcome final) :
    Settles layout start covered stack untried (some (node :: path), after) outcome final := by
  obtain ⟨-, home⟩ := sound.node_of_mem_live inside
  subst home
  cases settled with
  | @found _ updates left _ isPath solved =>
      have longer : (linksTo (node :: path)).reverse ++ stack =
          (linksTo path).reverse ++ Link.record node :: stack := by simp
      rw [← longer]
      exact .found ((isPath_cons sound proper).2 ⟨⟨isActive, inside⟩, isPath⟩) solved

section

variable (proper : layout.Proper) (built : start.Shows layout []) (trail : layout.IsTrail covered)
include proper built trail

/-! ## One action -/

omit trail in
/-- A column that is found and covered is decided for by drawing one of its rows. -/
theorem sampling_choose_of_cover {column updates more : Nat}
    (found : ((layout.web start covered).arena updates).chosenColumn .smallest = .ok (.record column))
    (uncovered : column ∉ covered) (further : layout.IsTrail (column :: covered))
    (covers : Arena.cover (.record column) ((layout.web start covered).arena updates) =
      .ok () ((layout.web start (column :: covered)).arena more)) (stack : List Link)
    (untried : List (List Link)) (source : σ) :
    Sampling.step draw .choose (layout.sampling start covered updates stack untried source) =
      .ok (some .enter) (layout.sampling start (column :: covered) more
        (.record (Sampling.decided draw column (layout.live covered column) source).1 :: stack)
        (linksTo (Sampling.decided draw column (layout.live covered column) source).2 :: untried)
        (drawFrom draw (layout.live covered column) source).2) := by
  have rows := column_web proper built further (isTrail_cons.1 further).1 more
  rw [built.sound.live_cons_self proper uncovered] at rows
  have chooses : Sampling.choose draw
      (layout.sampling start covered updates stack untried source) =
        .ok .enter (layout.sampling start (column :: covered) more
          (.record (Sampling.decided draw column (layout.live covered column) source).1 :: stack)
          (linksTo (Sampling.decided draw column (layout.live covered column) source).2 :: untried)
          (drawFrom draw (layout.live covered column) source).2) := by
    refine (bind_of_ok (Sampling.links_of_ok (Arena.ask_of_ok found) stack untried source)).trans ?_
    refine (bind_of_ok (Sampling.links_of_ok covers stack untried source)).trans ?_
    refine (bind_of_ok (Sampling.links_of_ok (Arena.ask_of_ok rows) stack untried source)).trans ?_
    refine (bind_of_ok (rfl : Sampling.pending _ = .ok (stack, untried) _)).trans ?_
    exact bind_of_ok (Sampling.decide_eq _ column stack untried _)
  exact bind_of_ok chooses

/-- The search takes a smallest column and draws one of its rows. -/
theorem sampling_choose
    (small : ∀ column ∈ layout.active covered,
      ((layout.live covered column).length : Int) < Arena.sizeBound)
    (nonempty : layout.active covered ≠ []) (updates : Nat) (stack : List Link)
    (untried : List (List Link)) (source : σ) :
    ∃ column more, layout.chosen covered .smallest = some column ∧
      Sampling.step draw .choose (layout.sampling start covered updates stack untried source) =
        .ok (some .enter) (layout.sampling start (column :: covered) more
          (.record (Sampling.decided draw column (layout.live covered column) source).1 :: stack)
          (linksTo (Sampling.decided draw column (layout.live covered column) source).2 :: untried)
          (drawFrom draw (layout.live covered column) source).2) := by
  obtain ⟨column, more, isChosen, found, uncovered, further, covers⟩ :=
    @take_web layout start covered .smallest proper built trail (fun _ => small) nonempty updates
  exact ⟨column, more, isChosen,
    sampling_choose_of_cover proper built found uncovered further covers stack untried source⟩

omit trail in
/-- When the rows of a column are used up the column is uncovered. -/
theorem sampling_enter_column {column : Nat} (trail : layout.IsTrail (column :: covered))
    (updates : Nat) (stack : List Link) (rows : List Link) (untried : List (List Link)) (source : σ) :
    Sampling.step draw .enter (layout.sampling start (column :: covered) updates
        (.record column :: stack) (rows :: untried) source) =
      .ok (some .retry) (layout.sampling start covered updates stack untried source) := by
  obtain ⟨isHeader, uncovers⟩ := leave_web proper built trail updates
  refine (bind_of_ok (Sampling.links_of_ok (Arena.ask_of_ok isHeader) _ _ _)).trans ?_
  exact bind_of_ok (Sampling.links_of_ok uncovers _ _ _)

variable {column node : Nat} (uncovered : column ∉ covered)

omit proper built trail in
/-- A row whose columns are covered is tried. -/
theorem sampling_enter_of_cover {updates more : Nat}
    (isHeader : ((layout.web start (column :: covered)).arena updates).isHeader (.record node) =
      .ok false)
    (covers : Arena.coverRow (.record node) ((layout.web start (column :: covered)).arena updates) =
      .ok () ((layout.web start (layout.withRow covered node)).arena more))
    (solved : ((layout.web start (layout.withRow covered node)).arena more).isSolved =
      .ok (layout.active (layout.withRow covered node)).isEmpty) (stack : List Link)
    (untried : List (List Link)) (source : σ) :
    Sampling.step draw .enter (layout.sampling start (column :: covered) updates
        (.record node :: stack) untried source) =
      .ok (if (layout.active (layout.withRow covered node)).isEmpty then none else some .choose)
        (layout.sampling start (layout.withRow covered node) more (.record node :: stack) untried
          source) := by
  refine (bind_of_ok (Sampling.links_of_ok (Arena.ask_of_ok isHeader) _ _ _)).trans ?_
  refine (bind_of_ok (Sampling.links_of_ok covers _ _ _)).trans ?_
  refine (bind_of_ok (Sampling.links_of_ok (Arena.ask_of_ok solved) _ _ _)).trans ?_
  cases (layout.active (layout.withRow covered node)).isEmpty <;> rfl

include uncovered

/-- A row is tried by covering its columns. -/
theorem sampling_enter_node (inside : node ∈ layout.live covered column) (updates : Nat)
    (stack : List Link) (untried : List (List Link)) (source : σ) :
    ∃ more, Sampling.step draw .enter (layout.sampling start (column :: covered) updates
        (.record node :: stack) untried source) =
      .ok (if (layout.active (layout.withRow covered node)).isEmpty then none else some .choose)
        (layout.sampling start (layout.withRow covered node) more (.record node :: stack) untried
          source) := by
  obtain ⟨more, isHeader, covers, solved⟩ := try_web proper built trail uncovered inside updates
  exact ⟨more, sampling_enter_of_cover isHeader covers solved stack untried source⟩

/-- A row is given up for another row of its column, drawn from those that were set aside. -/
theorem sampling_retry (inside : node ∈ layout.live covered column) (rows : List Nat) (updates : Nat)
    (stack : List Link) (untried : List (List Link)) (source : σ) :
    Sampling.step draw .retry (layout.sampling start (layout.withRow covered node) updates
        (.record node :: stack) (linksTo rows :: untried) source) =
      .ok (some .enter) (layout.sampling start (column :: covered) updates
        (.record (Sampling.decided draw column rows source).1 :: stack)
        (linksTo (Sampling.decided draw column rows source).2 :: untried)
        (drawFrom draw rows source).2) := by
  obtain ⟨isNode, home⟩ := built.sound.node_of_mem_live inside
  have isColumn : column ∈ layout.columns := home ▸ built.sound.column_mem proper isNode
  have further := isTrail_cons.2 ⟨isColumn, uncovered, trail⟩
  have uncovers := giveUp_web proper built trail uncovered inside updates
  have found := columnOf_web proper built further isNode updates
  rw [home] at found
  have retries : Sampling.retry draw (.record node) stack (linksTo rows :: untried)
      (layout.sampling start (layout.withRow covered node) updates (.record node :: stack)
        (linksTo rows :: untried) source) =
      .ok .enter (layout.sampling start (column :: covered) updates
        (.record (Sampling.decided draw column rows source).1 :: stack)
        (linksTo (Sampling.decided draw column rows source).2 :: untried)
        (drawFrom draw rows source).2) := by
    refine (bind_of_ok (rfl : Sampling.setPending stack (linksTo rows :: untried) _ = .ok () _)).trans ?_
    refine (bind_of_ok (Sampling.links_of_ok uncovers stack (linksTo rows :: untried) source)).trans ?_
    refine (bind_of_ok (Sampling.links_of_ok (Arena.ask_of_ok found) stack _ source)).trans ?_
    exact bind_of_ok (Sampling.decide_eq rows column stack untried _)
  exact bind_of_ok retries

/-! ## Sequences of actions -/

/-- Within the bound a random search that begins at a trail settles what the procedure settles with the
same draws. -/
def SolvesDrawn (layout : Layout) (start : Web) (draw : σ → Nat → Nat × σ) (bound : Nat)
    (covered : List Nat) (stack : List Link) (untried : List (List Link)) (source : σ) : Prop :=
  ∀ updates, ∃ actions outcome final, actions + 2 ≤ bound ∧
    Sampling.Leads draw actions
      .choose (layout.sampling start covered updates stack untried source) outcome final ∧
    layout.Settles start covered stack untried
      (drawX draw (layout.demandsLeft covered) source) outcome final

/-- Within the bound a random search that tries a row settles what the procedure settles behind that
row. -/
def TriesDrawn (layout : Layout) (start : Web) (draw : σ → Nat → Nat × σ) (bound : Nat)
    (covered : List Nat) (column : Nat) (stack : List Link) (untried : List (List Link)) (source : σ)
    (node : Nat) : Prop :=
  ∀ updates, ∃ actions outcome final, actions < bound ∧
    Sampling.Leads draw actions
      .enter (layout.sampling start (column :: covered) updates (.record node :: stack) untried source)
      outcome final ∧
    layout.Settles start (layout.withRow covered node) (.record node :: stack) untried
      (drawX draw (layout.demandsLeft (layout.withRow covered node)) source) outcome final

/-- A row is tried: if it leaves a column the search goes on from there, and else it ends. -/
theorem leads_row {bound : Nat} (wide : 2 ≤ bound) (inside : node ∈ layout.live covered column)
    {stack : List Link} {untried : List (List Link)} {source : σ}
    (onward : layout.active (layout.withRow covered node) ≠ [] →
      layout.SolvesDrawn start draw bound (layout.withRow covered node) (.record node :: stack)
        untried source) :
    layout.TriesDrawn start draw bound covered column stack untried source node := by
  intro updates
  obtain ⟨between, enters⟩ := @sampling_enter_node σ draw layout start covered proper built trail
    column node uncovered inside updates stack untried source
  by_cases solved : layout.active (layout.withRow covered node) = []
  · rw [solved, List.isEmpty_nil, if_pos rfl] at enters
    rw [drawX_demandsLeft_nil solved]
    exact ⟨1, none, _, wide, .stop enters, .found isPath_nil solved⟩
  · rw [List.isEmpty_eq_false_iff.2 solved] at enters
    obtain ⟨actions, outcome, final, cheap, leads, settled⟩ := onward solved between
    exact ⟨actions + 1, outcome, final, by omega, .act enters leads, settled⟩

/-- The rows of a column are drawn one after the other until one of them is settled with a path, and
else the column is uncovered. The induction is on the number of rows that are left. -/
theorem leads_rows {bound : Nat} {stack : List Link} {untried : List (List Link)}
    (isActive : column ∈ layout.active covered)
    (tried : ∀ node ∈ layout.live covered column, ∀ left source,
      layout.TriesDrawn start draw bound covered column stack left source node)
    (rows : List Nat) (part : rows ⊆ layout.live covered column) (updates : Nat) (source : σ) :
    ∃ actions outcome final, actions ≤ rows.length * bound + 1 ∧ Sampling.Leads draw actions
      .enter (layout.sampling start (column :: covered) updates
        (.record (Sampling.decided draw column rows source).1 :: stack)
        (linksTo (Sampling.decided draw column rows source).2 :: untried)
        (drawFrom draw rows source).2) outcome final ∧
      layout.Settles start covered stack untried
        (tryDrawn draw (layout.drawnRow draw covered) rows source) outcome final := by
  have further : layout.IsTrail (column :: covered) :=
    isTrail_cons.2 ⟨column_of_mem_active isActive, uncovered, trail⟩
  induction fewer : rows.length using Nat.strong_induction_on generalizing rows updates source with
  | _ length ih =>
      subst fewer
      rw [Sampling.decided]
      rcases drawn : drawFrom draw rows source with ⟨_ | ⟨node, others⟩, between⟩
      · rw [tryDrawn_of_none drawn]
        exact ⟨1, some .retry, _, by omega,
          .act (sampling_enter_column proper built further updates _ _ _ _) .here, .failed⟩
      · obtain ⟨isRow, shorter, less⟩ := length_of_drawFrom drawn
        have inside := part isRow
        obtain ⟨first, outcome, final, cheap, leads, settled⟩ :=
          tried node inside (linksTo others :: untried) between updates
        rw [tryDrawn_of_some drawn, drawnRow]
        have room : others.length * bound + bound ≤ rows.length * bound := by
          rw [← Nat.succ_mul]
          exact Nat.mul_le_mul_right _ less
        rcases answered : drawX draw (layout.demandsLeft (layout.withRow covered node)) between with
          ⟨_ | path, after⟩
        · rw [answered] at settled
          cases settled with
          | @failed more _ =>
              obtain ⟨second, outcome, final, cheap', leads', settled'⟩ :=
                ih _ less others (fun _ isOther => part (shorter isOther)) more after rfl
              have retries := @sampling_retry σ draw layout start covered proper built trail column
                node uncovered inside others more stack untried after
              exact ⟨first + (second + 1), outcome, final, by omega,
                leads.trans (.act retries leads'), settled'⟩
        · rw [answered] at settled
          exact ⟨first, outcome, final, by omega, leads,
            settled.found_withRow built.sound proper isActive inside⟩

end

section

variable (proper : layout.Proper) (built : start.Shows layout [])
  (small : ∀ column ∈ layout.primary,
    ((layout.members column).length : Int) < Arena.sizeBound)
include proper built small

/-- **A random search that begins at a trail settles what Algorithm X settles with the same draws.** -/
theorem leads_choose (depth : Nat) (trail : layout.IsTrail covered)
    (nonempty : layout.active covered ≠ []) (short : (layout.active covered).length ≤ depth)
    (stack : List Link) (untried : List (List Link)) (source : σ) :
    layout.SolvesDrawn start draw (Search.actionBound start.count depth) covered stack untried
      source := by
  intro updates
  induction depth generalizing covered updates stack untried source with
  | zero => exact absurd (List.eq_nil_of_length_eq_zero (Nat.le_zero.1 short)) nonempty
  | succ depth ih =>
      obtain ⟨column, more, isChosen, chooses⟩ := @sampling_choose σ draw layout start covered proper
        built trail (live_small small) nonempty updates stack untried source
      have isActive := mem_active_of_chosen isChosen
      have uncovered := (mem_active.1 isActive).2
      have tried : ∀ node ∈ layout.live covered column, ∀ left source, layout.TriesDrawn start draw
          (Search.actionBound start.count depth) covered column stack left source node := by
        intro node inside left source
        obtain ⟨isNode, -, free⟩ := (built.sound.mem_live proper uncovered).1 inside
        have further := trail.withRow built.sound proper isNode free
        have fewer := length_active_withRow_lt built.sound isActive inside
        exact leads_row proper built trail uncovered (Search.two_le_actionBound _ _) inside
          fun nonempty => ih further nonempty (by omega) _ _ _
      obtain ⟨actions, outcome, final, cheap, leads, settled⟩ := leads_rows proper built trail
        uncovered isActive tried (layout.live covered column) (List.Subset.refl _) more source
      rw [← drawX_demandsLeft built.sound isChosen] at settled
      refine ⟨actions + 1, outcome, final, ?_, .act chooses leads, settled⟩
      have room := Search.rows_le_actionBound (length_live_le built.sound covered column) depth
      omega

/-- **One call of the random search** returns the path that Algorithm X finds with the same draws, in the
web of that path, or no decisions. -/
theorem sample_web (trail : layout.IsTrail covered) (updates primaryCount : Nat) (policy : Policy)
    (source : σ) :
    ∃ answer more, answer = (drawX draw (layout.demandsLeft covered) source).1.getD [] ∧
      layout.IsAnswer covered answer ∧
      Problem.sample draw source
          ⟨(layout.web start covered).arena updates, policy, primaryCount⟩ =
        (.ok (linksTo answer)
          ⟨(layout.web start (layout.withRows covered answer)).arena more, policy, primaryCount⟩,
          (drawX draw (layout.demandsLeft covered) source).2) := by
  have isSolved := isSolved_web proper built trail updates
  have search : Sampling.search draw (layout.sampling start covered updates [] [] source) = _ :=
    Sampling.search_eq isSolved
  by_cases solved : layout.active covered = []
  · rw [solved, List.isEmpty_nil, if_pos rfl] at search
    rw [drawX_demandsLeft_nil solved]
    exact ⟨[], updates, rfl, isAnswer_nil, Problem.sample_of_search search _ _⟩
  · rw [List.isEmpty_eq_false_iff.2 solved, if_neg Bool.false_ne_true] at search
    obtain ⟨actions, outcome, final, cheap, leads, settled⟩ := @leads_choose σ draw layout
      start covered proper built small start.count trail solved
      (length_active_le built.sound covered) [] [] source updates
    have enough : actions + 1 ≤
        Search.actionLimit ((layout.web start covered).arena updates) := by
      simp only [Search.actionLimit, Web.size_arena, count_web]
      omega
    rcases answered : drawX draw (layout.demandsLeft covered) source with ⟨_ | path, after⟩
    · rw [answered] at settled
      cases settled with
      | @failed more _ =>
          -- The machine is set to give up a decision when there is none, and that ends the search.
          have ended := leads.trans (.stop rfl)
          have called := Problem.sample_of_search (search.trans (ended.run_eq enough)) policy
            primaryCount
          exact ⟨[], more, rfl, isAnswer_nil, called⟩
    · rw [answered] at settled
      cases settled with
      | @found _ more _ _ isPath free =>
          have called := Problem.sample_of_search
            (search.trans (leads.run_eq (Nat.le_of_succ_le enough))) policy primaryCount
          refine ⟨path, more, rfl, ⟨isPath, .inr free⟩, ?_⟩
          simpa [sampling] using called

end

end Layout

end ExactCover
