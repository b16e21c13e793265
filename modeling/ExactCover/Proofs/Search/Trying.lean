import ExactCover.Proofs.Search.Completion
import ExactCover.Proofs.Search.Sampling

/-!
# What a random search tries

A decision stands from the moment that a column is taken until the column is given up. In between the
random search tries some rows of the column for it. What it tries can be written down while it works: a
new entry when a column is taken, a row added to the latest entry when a row is tried, and the entry
struck out when the column is given up (`Sampling.Passes`).

For every decision the rows tried and the rows set aside are different rows of its column
(`Layout.Shelf`). Each action keeps this, since drawing takes one row from those that were set aside
(`stocked_of_passes`). So no row is tried twice within one decision (`Stocked.rowsOf_nodup`). Nothing is
asked of the numbers that are drawn.
-/

set_option autoImplicit false

namespace ExactCover

variable {σ : Type} {draw : σ → Nat → Nat × σ}

/-- The actions of a random search one after the other, with the rows that it has tried so far for each
decision that stands, the latest decision and the latest row first. -/
inductive Sampling.Passes (draw : σ → Nat → Nat × σ) (start : Sampling σ) :
    Option Action → Sampling σ → List (List Link) → Prop
  | start : Passes draw start (some .choose) start []
  /-- A column is taken, and no row of it has been tried. -/
  | choose {before after : Sampling σ} {outcome : Option Action} {tried : List (List Link)} :
      Passes draw start (some .choose) before tried →
      Sampling.step draw .choose before = .ok outcome after →
      Passes draw start outcome after ([] :: tried)
  /-- A row is tried. -/
  | row {before after : Sampling σ} {outcome : Option Action} {top : Link} {below nodes : List Link}
      {tried : List (List Link)} :
      Passes draw start (some .enter) before (nodes :: tried) → before.stack = top :: below →
      before.arena.isHeader top = .ok false →
      Sampling.step draw .enter before = .ok outcome after →
      Passes draw start outcome after ((top :: nodes) :: tried)
  /-- The column is given up. -/
  | column {before after : Sampling σ} {outcome : Option Action} {top : Link}
      {below nodes : List Link} {tried : List (List Link)} :
      Passes draw start (some .enter) before (nodes :: tried) → before.stack = top :: below →
      before.arena.isHeader top = .ok true →
      Sampling.step draw .enter before = .ok outcome after →
      Passes draw start outcome after tried
  /-- The latest row is taken back, and another one is drawn. -/
  | retry {before after : Sampling σ} {outcome : Option Action} {tried : List (List Link)} :
      Passes draw start (some .retry) before tried →
      Sampling.step draw .retry before = .ok outcome after →
      Passes draw start outcome after tried

namespace Layout

variable {layout : Layout} {start : Web} {covered : List Nat}

/-- A decision: the row decided for, the rows tried for it before, and the rows set aside. -/
structure Shelf where
  node : Nat
  tried : List Nat
  left : List Nat

/-- The trail after some decisions, the latest first. -/
def trailOf (layout : Layout) (covered : List Nat) : List Shelf → List Nat
  | [] => covered
  | shelf :: earlier => layout.withRow (layout.trailOf covered earlier) shelf.node

/-- The rows tried and the rows set aside are different rows of a column. -/
structure Stock (layout : Layout) (covered : List Nat) (column : Nat) (tried left : List Nat) :
    Prop where
  once : (tried ++ left).Nodup
  inside : tried ++ left ⊆ layout.live covered column

/-- Decisions with their rows, each in a column that was left by then. -/
inductive Shelved (layout : Layout) (covered : List Nat) : List Shelf → Prop
  | none : Shelved layout covered []
  | more {shelf : Shelf} {earlier : List Shelf} :
      Shelved layout covered earlier →
      layout.column shelf.node ∈ layout.active (layout.trailOf covered earlier) →
      layout.Stock (layout.trailOf covered earlier) (layout.column shelf.node)
        (shelf.node :: shelf.tried) shelf.left →
      Shelved layout covered (shelf :: earlier)

/-- The decisions as the machine has them. -/
def stackOf (shelves : List Shelf) : List Link := shelves.map fun shelf => .record shelf.node

/-- The rows set aside as the machine has them. -/
def untriedOf (shelves : List Shelf) : List (List Link) := shelves.map fun shelf => linksTo shelf.left

/-- The rows tried as they are written down. -/
def triedOf (shelves : List Shelf) : List (List Link) :=
  shelves.map fun shelf => linksTo (shelf.node :: shelf.tried)

/-- Where a random search may stand, with what is written down. -/
inductive Stocked (layout : Layout) (start : Web) (covered : List Nat) :
    Option Action → Sampling σ → List (List Link) → Prop
  | choose {shelves : List Shelf} {updates : Nat} {source : σ} :
      layout.Shelved covered shelves →
      layout.active (layout.trailOf covered shelves) ≠ [] →
      Stocked layout start covered (some .choose)
        (layout.sampling start (layout.trailOf covered shelves) updates (stackOf shelves)
          (untriedOf shelves) source) (triedOf shelves)
  /-- A row that was drawn is about to be tried. -/
  | row {shelves : List Shelf} {column node : Nat} {tried left : List Nat} {updates : Nat} {source : σ} :
      layout.Shelved covered shelves →
      column ∈ layout.active (layout.trailOf covered shelves) →
      layout.Stock (layout.trailOf covered shelves) column (node :: tried) left →
      Stocked layout start covered (some .enter)
        (layout.sampling start (column :: layout.trailOf covered shelves) updates
          (.record node :: stackOf shelves) (linksTo left :: untriedOf shelves) source)
        (linksTo tried :: triedOf shelves)
  /-- No row was drawn, and the column is about to be given up. -/
  | column {shelves : List Shelf} {column : Nat} {tried left : List Nat} {updates : Nat} {source : σ} :
      layout.Shelved covered shelves →
      column ∈ layout.active (layout.trailOf covered shelves) →
      layout.Stock (layout.trailOf covered shelves) column tried left →
      Stocked layout start covered (some .enter)
        (layout.sampling start (column :: layout.trailOf covered shelves) updates
          (.record column :: stackOf shelves) (linksTo left :: untriedOf shelves) source)
        (linksTo tried :: triedOf shelves)
  | retry {shelves : List Shelf} {updates : Nat} {source : σ} :
      layout.Shelved covered shelves →
      Stocked layout start covered (some .retry)
        (layout.sampling start (layout.trailOf covered shelves) updates (stackOf shelves)
          (untriedOf shelves) source) (triedOf shelves)
  | stop {shelves : List Shelf} {sampling : Sampling σ} :
      layout.Shelved covered shelves → Stocked layout start covered none sampling (triedOf shelves)

/-- Drawing for a decision: one of the rows set aside is drawn, and joins those that were tried, or none
is. -/
theorem decided_cases (draw : σ → Nat → Nat × σ) (column : Nat) (rows : List Nat) (source : σ) :
    Sampling.decided draw column rows source = (column, rows) ∨
      ((Sampling.decided draw column rows source).1 ::
        (Sampling.decided draw column rows source).2).Perm rows := by
  rw [Sampling.decided]
  rcases drawn : drawFrom draw rows source with ⟨_ | ⟨item, others⟩, after⟩
  · exact .inl rfl
  · exact .inr (perm_of_drawFrom drawn)

/-- Drawing one of the rows set aside keeps them stock. -/
theorem Stock.of_perm {column node : Nat} {tried left rest : List Nat}
    (stock : layout.Stock covered column tried left) (drawn : (node :: rest).Perm left) :
    layout.Stock covered column (node :: tried) rest := by
  have perm : (node :: tried ++ rest).Perm (tried ++ left) :=
    (List.perm_middle.symm).trans (drawn.append_left tried)
  exact ⟨perm.nodup_iff.2 stock.once, fun other isOther => stock.inside (perm.subset isOther)⟩

section

variable (proper : layout.Proper) (built : start.Shows layout []) (trail : layout.IsTrail covered)
include proper built trail

/-- Decisions lead along a trail. -/
theorem Shelved.isTrail {shelves : List Shelf} (shelved : layout.Shelved covered shelves) :
    layout.IsTrail (layout.trailOf covered shelves) := by
  induction shelved with
  | none => exact trail
  | more _ isActive stock ih =>
      have uncovered := (mem_active.1 isActive).2
      obtain ⟨isNode, -, free⟩ :=
        (built.sound.mem_live proper uncovered).1 (stock.inside List.mem_cons_self)
      exact ih.withRow built.sound proper isNode free

/-- A column that is left may be taken. -/
theorem Shelved.isTrail_cons {shelves : List Shelf} {column : Nat}
    (shelved : layout.Shelved covered shelves)
    (isActive : column ∈ layout.active (layout.trailOf covered shelves)) :
    layout.IsTrail (column :: layout.trailOf covered shelves) :=
  Layout.isTrail_cons.2 ⟨column_of_mem_active isActive, (mem_active.1 isActive).2,
    shelved.isTrail proper built trail⟩

omit proper built trail in
/-- After drawing, a row is about to be tried or the column is about to be given up. -/
theorem stocked_of_decided {shelves : List Shelf} {column : Nat} {tried left : List Nat}
    (shelved : layout.Shelved covered shelves)
    (isActive : column ∈ layout.active (layout.trailOf covered shelves))
    (stock : layout.Stock (layout.trailOf covered shelves) column tried left) (source after : σ)
    (updates : Nat) :
    layout.Stocked start covered (some .enter)
      (layout.sampling start (column :: layout.trailOf covered shelves) updates
        (.record (Sampling.decided draw column left source).1 :: stackOf shelves)
        (linksTo (Sampling.decided draw column left source).2 :: untriedOf shelves) after)
      (linksTo tried :: triedOf shelves) := by
  rcases decided_cases draw column left source with none' | drawn
  · rw [none']
    exact .column shelved isActive stock
  · exact .row shelved isActive (stock.of_perm drawn)

/-- **Whatever a random search does, it stands where it may stand.** -/
theorem stocked_of_passes
    (small : ∀ column ∈ layout.primary, ((layout.members column).length : Int) < Arena.sizeBound)
    (nonempty : layout.active covered ≠ []) {updates : Nat} {source : σ} {sampling : Sampling σ}
    {outcome : Option Action} {tried : List (List Link)}
    (passes : Sampling.Passes draw (layout.sampling start covered updates [] [] source) outcome
      sampling tried) :
    layout.Stocked start covered outcome sampling tried := by
  have sound := built.sound
  induction passes with
  | start => exact .choose .none nonempty
  | choose _ stepped ih =>
      cases ih with
      | @choose shelves updates source shelved nonempty =>
          have further := shelved.isTrail proper built trail
          obtain ⟨column, more, isChosen, chooses⟩ := @sampling_choose σ draw layout start _ proper
            built further (live_small small) nonempty updates (stackOf shelves) (untriedOf shelves)
            source
          obtain ⟨rfl, rfl⟩ := EStateM.Result.ok.inj (stepped.symm.trans chooses)
          have stock : layout.Stock (layout.trailOf covered shelves) column []
              (layout.live (layout.trailOf covered shelves) column) :=
            ⟨sound.live_nodup _ column, List.Subset.refl _⟩
          exact stocked_of_decided shelved (mem_active_of_chosen isChosen) stock source _ more
  | @row _ _ _ top below nodes _ _ isTop isRow stepped ih =>
      cases ih with
      | @row shelves column node tried left updates source shelved isActive stock =>
          have further := shelved.isTrail proper built trail
          have uncovered := (mem_active.1 isActive).2
          have inside := stock.inside List.mem_cons_self
          obtain ⟨more, enters⟩ := @sampling_enter_node σ draw layout start _ proper built further
            column node uncovered inside updates (stackOf shelves)
            (linksTo left :: untriedOf shelves) source
          obtain ⟨rfl, rfl⟩ := EStateM.Result.ok.inj (stepped.symm.trans enters)
          obtain ⟨rfl, -⟩ := List.cons.inj isTop
          obtain rfl := (sound.node_of_mem_live inside).2
          have shelved' : layout.Shelved covered (⟨node, tried, left⟩ :: shelves) :=
            .more shelved isActive stock
          by_cases solved : layout.active (layout.withRow (layout.trailOf covered shelves) node) = []
          · rw [solved, List.isEmpty_nil, if_pos rfl]
            exact .stop shelved'
          · rw [List.isEmpty_eq_false_iff.2 solved]
            exact .choose shelved' solved
      | @column shelves column tried left updates source shelved isActive stock =>
          have further := shelved.isTrail_cons proper built trail isActive
          obtain ⟨rfl, -⟩ := List.cons.inj isTop
          cases isRow.symm.trans (leave_web proper built further updates).1
  | @column _ _ _ top below nodes _ _ isTop isHeader stepped ih =>
      cases ih with
      | @row shelves column node tried left updates source shelved isActive stock =>
          obtain ⟨more, isRow, -⟩ := try_web proper built (shelved.isTrail proper built trail)
            (mem_active.1 isActive).2 (stock.inside List.mem_cons_self) updates
          obtain ⟨rfl, -⟩ := List.cons.inj isTop
          cases isHeader.symm.trans isRow
      | @column shelves column tried left updates source shelved isActive stock =>
          have further := shelved.isTrail_cons proper built trail isActive
          have leaves := @sampling_enter_column σ draw layout start _ proper built column further updates
            (stackOf shelves) (linksTo left) (untriedOf shelves) source
          obtain ⟨rfl, rfl⟩ := EStateM.Result.ok.inj (stepped.symm.trans leaves)
          exact .retry shelved
  | retry _ stepped ih =>
      cases ih with
      | @retry shelves updates source shelved =>
          cases shelved with
          | none =>
              cases stepped
              exact .stop .none
          | @more shelf earlier shelved isActive stock =>
              have retries := @sampling_retry σ draw layout start _ proper built
                (shelved.isTrail proper built trail) _ shelf.node (mem_active.1 isActive).2
                (stock.inside List.mem_cons_self) shelf.left updates (stackOf earlier)
                (untriedOf earlier) source
              obtain ⟨rfl, rfl⟩ := EStateM.Result.ok.inj (stepped.symm.trans retries)
              exact stocked_of_decided shelved isActive stock source _ updates

/-- Whatever a random search does next can be written down. -/
theorem Stocked.passes {begin before after : Sampling σ} {action : Action} {outcome : Option Action}
    {tried : List (List Link)} (stocked : layout.Stocked start covered (some action) before tried)
    (passes : Sampling.Passes draw begin (some action) before tried)
    (stepped : Sampling.step draw action before = .ok outcome after) :
    ∃ tried', Sampling.Passes draw begin outcome after tried' := by
  cases stocked with
  | choose => exact ⟨_, .choose passes stepped⟩
  | @row shelves column node tried left updates source shelved isActive stock =>
      obtain ⟨more, isRow, -⟩ := try_web proper built (shelved.isTrail proper built trail)
        (mem_active.1 isActive).2 (stock.inside List.mem_cons_self) updates
      exact ⟨_, .row passes rfl isRow stepped⟩
  | @column shelves column tried left updates source shelved isActive stock =>
      have further := shelved.isTrail_cons proper built trail isActive
      exact ⟨_, .column passes rfl (leave_web proper built further updates).1 stepped⟩
  | retry => exact ⟨_, .retry passes stepped⟩

/-- **A search that comes to its end can be written down**, from its beginning to its end. -/
theorem passes_of_run
    (small : ∀ column ∈ layout.primary, ((layout.members column).length : Int) < Arena.sizeBound)
    (nonempty : layout.active covered ≠ []) {updates fuel : Nat} {source : σ}
    {sampling final : Sampling σ} {action : Action} {tried : List (List Link)}
    (passes : Sampling.Passes draw (layout.sampling start covered updates [] [] source) (some action)
      sampling tried)
    (finished : Sampling.run draw fuel action sampling = .ok () final) :
    ∃ tried', Sampling.Passes draw (layout.sampling start covered updates [] [] source) none final
      tried' := by
  induction fuel generalizing action sampling tried with
  | zero => cases finished
  | succ fuel ih =>
      have stocked := stocked_of_passes proper built trail small nonempty passes
      cases stepped : Sampling.step draw action sampling with
      | error problem after => simp [Sampling.run, bind, EStateM.bind, stepped] at finished
      | ok outcome after =>
          have onward : Sampling.run draw (fuel + 1) action sampling = _ := bind_of_ok stepped
          rw [onward] at finished
          obtain ⟨tried', passes'⟩ := stocked.passes proper built trail passes stepped
          cases outcome with
          | none =>
              cases finished
              exact ⟨tried', passes'⟩
          | some next => exact ih passes' finished

/-- So a call can be written down. -/
theorem passes_of_sample
    (small : ∀ column ∈ layout.primary, ((layout.members column).length : Int) < Arena.sizeBound)
    (nonempty : layout.active covered ≠ []) {updates primaryCount : Nat} {policy : Policy}
    {source later : σ} {answer : List Link} {after : Problem}
    (called : Problem.sample draw source
        ⟨(layout.web start covered).arena updates, policy, primaryCount⟩ = (.ok answer after, later)) :
    ∃ left tried, Sampling.Passes draw (layout.sampling start covered updates [] [] source) none
      ⟨after.arena, answer.reverse, left, later⟩ tried := by
  have isSolved := isSolved_web proper built trail updates
  rw [List.isEmpty_eq_false_iff.2 nonempty] at isSolved
  have searched : Sampling.search draw (layout.sampling start covered updates [] [] source) = _ :=
    Sampling.search_eq isSolved
  rw [if_neg Bool.false_ne_true] at searched
  generalize Search.actionLimit _ = fuel at searched
  simp only [Problem.sample] at called
  rw [← sampling, searched] at called
  cases finished : Sampling.run draw fuel .choose
      (layout.sampling start covered updates [] [] source) with
  | error problem final => simp [finished] at called
  | ok _ final =>
      obtain ⟨tried, passes⟩ := passes_of_run proper built trail small nonempty .start finished
      simp only [finished] at called
      cases called
      refine ⟨final.untried, tried, ?_⟩
      rwa [List.reverse_reverse]

end

/-! ## Rows tried once -/

section

variable {count : Nat} (sound : layout.Sound count) (proper : layout.Proper)
include sound proper

/-- Different records of a column are of different rows. -/
theorem rowsOf_nodup {column : Nat} {records : List Nat} (once : records.Nodup)
    (inside : records ⊆ layout.live covered column) : (layout.rowsOf records).Nodup := by
  apply once.map_on
  intro one isOne other isOther sameRow
  obtain ⟨isNode, home⟩ := sound.node_of_mem_live (inside isOne)
  obtain ⟨isNode', home'⟩ := sound.node_of_mem_live (inside isOther)
  have inRow : one ∈ layout.rowOf other := sameRow ▸ sound.mem_rowOf isNode
  exact sound.column_injective proper isNode' inRow (home.trans home'.symm)

/-- The rows tried are different. -/
theorem Stock.rowsOf_nodup {column : Nat} {tried left : List Nat}
    (stock : layout.Stock covered column tried left) : (layout.rowsOf tried).Nodup :=
  Layout.rowsOf_nodup sound proper (List.nodup_append.1 stock.once).1
    fun _ inside => stock.inside (List.mem_append_left _ inside)

theorem Shelved.rowsOf_nodup {shelves : List Shelf} (shelved : layout.Shelved covered shelves) :
    ∀ nodes ∈ triedOf shelves, ∃ records, nodes = linksTo records ∧ (layout.rowsOf records).Nodup := by
  induction shelved with
  | none => simp [triedOf]
  | more _ _ stock ih =>
      exact List.forall_mem_cons.2 ⟨⟨_, rfl, stock.rowsOf_nodup sound proper⟩, ih⟩

/-- **No row is tried twice within one decision.** -/
theorem Stocked.rowsOf_nodup {sampling : Sampling σ} {outcome : Option Action}
    {tried : List (List Link)} (stocked : layout.Stocked start covered outcome sampling tried) :
    ∀ nodes ∈ tried, ∃ records, nodes = linksTo records ∧ (layout.rowsOf records).Nodup := by
  cases stocked with
  | choose shelved _ => exact shelved.rowsOf_nodup sound proper
  | row shelved _ stock =>
      have once := (stock.rowsOf_nodup sound proper).of_cons
      exact List.forall_mem_cons.2 ⟨⟨_, rfl, once⟩, shelved.rowsOf_nodup sound proper⟩
  | column shelved _ stock =>
      have once := stock.rowsOf_nodup sound proper
      exact List.forall_mem_cons.2 ⟨⟨_, rfl, once⟩, shelved.rowsOf_nodup sound proper⟩
  | retry shelved => exact shelved.rowsOf_nodup sound proper
  | stop shelved => exact shelved.rowsOf_nodup sound proper

end

end Layout

end ExactCover
