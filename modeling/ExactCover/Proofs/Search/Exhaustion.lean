import ExactCover.Proofs.Build.Steps
import ExactCover.Proofs.Search.Sources
import ExactCover.Proofs.Search.Trying

/-!
# The random search fails only if it must

Whatever numbers the source gives, as long as they are below the positive bounds that they are drawn
below, the random search finds a completion of what was committed if there is one, and else it fails
(`sample_exhausts`). If it finds one, that is an answer of Algorithm X. If it fails, every row of the
column taken first was tried and failed, and so on down the tree of decisions, so no row of that column
is in a completion (`not_isCompletion_of_drawX`).

A cover asks less than a completion: it may have rows without a primary column. They can be left out of
it, so there is a cover if and only if there is a completion (`exists_isCover_iff`).
-/

set_option autoImplicit false

namespace ExactCover

namespace Layout

variable {layout : Layout} {count : Nat} {covered : List Nat}

/-! ## Covers -/

/-- A set of rows that meets every primary column that is left exactly once and every secondary column at
most once. The rows are live: they meet no covered column. -/
structure IsCover (layout : Layout) (covered : List Nat) (chosen : Finset (List Nat)) : Prop where
  rows : ∀ row ∈ chosen, row ∈ layout.rows
  live : ∀ row ∈ chosen, ∀ column ∈ row.map layout.column, column ∉ covered
  primary : ∀ column ∈ layout.primary, column ∉ covered →
    ∃! row, row ∈ chosen ∧ column ∈ row.map layout.column
  secondary : ∀ column ∈ layout.secondary.flatten, ∀ one ∈ chosen, ∀ other ∈ chosen,
    column ∈ one.map layout.column → column ∈ other.map layout.column → one = other

theorem IsCompletion.isCover {chosen : Finset (List Nat)}
    (complete : layout.IsCompletion covered chosen) : layout.IsCover covered chosen :=
  ⟨complete.rows, complete.apart, complete.primary, complete.secondary⟩

/-- The rows of a cover that meet a primary column are a completion. -/
theorem IsCover.isCompletion {chosen : Finset (List Nat)} (cover : layout.IsCover covered chosen) :
    layout.IsCompletion covered
      (chosen.filter fun row => ∃ column ∈ row.map layout.column, column ∈ layout.primary) := by
  constructor
  · exact fun row isRow => cover.rows row (Finset.mem_filter.1 isRow).1
  · exact fun row isRow => cover.live row (Finset.mem_filter.1 isRow).1
  · exact fun row isRow => (Finset.mem_filter.1 isRow).2
  · intro column isPrimary uncovered
    obtain ⟨row, ⟨isRow, inRow⟩, only⟩ := cover.primary column isPrimary uncovered
    refine ⟨row, ⟨Finset.mem_filter.2 ⟨isRow, column, inRow, isPrimary⟩, inRow⟩, ?_⟩
    rintro other ⟨isOther, inOther⟩
    exact only other ⟨(Finset.mem_filter.1 isOther).1, inOther⟩
  · intro column isSecondary one isOne other isOther
    exact cover.secondary column isSecondary one (Finset.mem_filter.1 isOne).1 other
      (Finset.mem_filter.1 isOther).1

/-- **There is a cover if and only if there is a completion.** -/
theorem exists_isCover_iff :
    (∃ chosen, layout.IsCover covered chosen) ↔ ∃ chosen, layout.IsCompletion covered chosen := by
  constructor
  · rintro ⟨chosen, cover⟩
    exact ⟨_, cover.isCompletion⟩
  · rintro ⟨chosen, complete⟩
    exact ⟨chosen, complete.isCover⟩

/-! ## What the draws come to -/

section

variable {σ : Type} {draw : σ → Nat → Nat × σ} (sound : layout.Sound count) (proper : layout.Proper)
include sound proper

/-- **If no path is found there is no completion.** -/
theorem not_isCompletion_of_drawX (inRange : InRange draw) {source : σ}
    (fails : (drawX draw (layout.demandsLeft covered) source).1 = none) (chosen : Finset (List Nat)) :
    ¬ layout.IsCompletion covered chosen := by
  generalize left : (layout.active covered).length = depth
  induction depth using Nat.strong_induction_on generalizing covered source chosen with
  | _ depth ih =>
      intro complete
      cases isChosen : layout.chosen covered .smallest with
      | none =>
          rw [drawX_demandsLeft_nil (chosen_eq_none.1 isChosen)] at fails
          cases fails
      | some column =>
          have isActive := mem_active_of_chosen isChosen
          obtain ⟨node, inside, rest, complete', -⟩ :=
            (isCompletion_iff sound proper isActive).1 complete
          rw [drawX_demandsLeft sound isChosen] at fails
          obtain ⟨before, failsRow⟩ := exists_of_tryDrawn_none inRange fails node inside
          have fewer := length_active_withRow_lt sound isActive inside
          exact ih _ (left ▸ fewer) (Option.map_eq_none_iff.1 failsRow) rest rfl complete'

/-- The rows of an answer of Algorithm X are different, and they are a completion. -/
theorem isCompletion_of_mem_algorithmX {policy : Policy} {path : List Nat}
    (inside : path ∈ algorithmX policy (layout.demandsLeft covered)) :
    (layout.rowsOf path).Nodup ∧ layout.IsCompletion covered (layout.rowsOf path).toFinset :=
  ⟨(path_of_mem_algorithmX sound proper inside).1,
    (mem_completions_iff sound proper).1 (List.mem_map.2 ⟨path, inside, rfl⟩)⟩

/-- As long as a column is left, no answer is empty. -/
theorem ne_nil_of_mem_algorithmX {policy : Policy} {path : List Nat}
    (nonempty : layout.active covered ≠ [])
    (inside : path ∈ algorithmX policy (layout.demandsLeft covered)) : path ≠ [] := by
  rintro rfl
  obtain ⟨column, isActive⟩ := List.exists_mem_of_ne_nil _ nonempty
  obtain ⟨isPrimary, uncovered⟩ := mem_active.1 isActive
  have complete := (isCompletion_of_mem_algorithmX sound proper inside).2
  obtain ⟨row, ⟨isRow, -⟩, -⟩ := complete.primary column isPrimary uncovered
  cases isRow

/-- **A path is found if and only if there is a completion**, and then its rows are one. -/
theorem drawX_exhausts (inRange : InRange draw) (nonempty : layout.active covered ≠ []) (source : σ)
    {answer : List Nat}
    (isAnswer : answer = (drawX draw (layout.demandsLeft covered) source).1.getD []) :
    (answer = [] ↔ ¬ ∃ chosen, layout.IsCompletion covered chosen) ∧
      (answer ≠ [] → (layout.rowsOf answer).Nodup ∧
        layout.IsCompletion covered (layout.rowsOf answer).toFinset) := by
  cases found : (drawX draw (layout.demandsLeft covered) source).1 with
  | none =>
      obtain rfl : answer = [] := by rw [isAnswer, found]; rfl
      refine ⟨⟨fun _ => ?_, fun _ => rfl⟩, fun decided => absurd rfl decided⟩
      rintro ⟨chosen, complete⟩
      exact not_isCompletion_of_drawX sound proper inRange found chosen complete
  | some path =>
      obtain rfl : answer = path := by rw [isAnswer, found]; rfl
      have inside := mem_algorithmX_of_drawX sound found
      have complete := isCompletion_of_mem_algorithmX sound proper inside
      have decided := ne_nil_of_mem_algorithmX sound proper nonempty inside
      exact ⟨⟨fun none' => absurd none' decided, fun none' => absurd ⟨_, complete.2⟩ none'⟩,
        fun _ => complete⟩

end

end Layout

/-! ## Problems that were built -/

/-- **The random search fails only if it must.** Rows that share no column are decided for, and they leave
a primary column. Then a call of the random search returns, whatever numbers it draws below positive
bounds: it returns no decisions if and only if the uncovered columns have no cover, and then the links are
as they were, and else decisions whose rows are a cover and whose undoing leads back. The numbers are drawn
below positive bounds only, as a record of the bounds shows. And if what the call does is written down,
action by action, no row is tried twice within one decision. (No column has more rows than a search can
count.) -/
theorem sample_exhausts {problem : Problem} {layout : Layout} (builtAs : BuiltAs problem layout)
    (small : ∀ column ∈ layout.primary, ((layout.members column).length : Int) < Arena.sizeBound)
    {forced : List Nat} (areNodes : ∀ node ∈ forced, node ∈ layout.nodes)
    (apart : forced.Pairwise fun one other =>
      (layout.columnsOf one).Disjoint (layout.columnsOf other))
    (left : ∃ column ∈ layout.primary, column ∉ forced.flatMap layout.columnsOf) :
    ∃ committed,
      forced.foldlM (fun decisions (node : Nat) => Problem.commit (.record node) decisions) []
          problem = .ok (linksTo forced) committed ∧
        ∀ {σ : Type} (draw : σ → Nat → Nat × σ) (source : σ), InRange draw →
          ∃ path after later bounds untried tried,
            Problem.sample draw source committed = (.ok (linksTo path) after, later) ∧
            (path = [] ↔
              ¬ ∃ chosen, layout.IsCover (forced.flatMap layout.columnsOf) chosen) ∧
            (path = [] → after.arena.nodes = committed.arena.nodes) ∧
            (path ≠ [] → (layout.rowsOf path).Nodup ∧
              layout.IsCover (forced.flatMap layout.columnsOf) (layout.rowsOf path).toFinset ∧
              ∃ restored, Problem.deciding (linksTo path) Search.undo after = .ok [] restored ∧
                restored.arena.nodes = committed.arena.nodes) ∧
            Problem.sample (Sampling.recording draw) (source, []) committed =
              (.ok (linksTo path) after, (later, bounds)) ∧
            (∀ bound ∈ bounds, 1 ≤ bound) ∧
            Sampling.Passes draw ⟨committed.arena, [], [], source⟩ none
              ⟨after.arena, (linksTo path).reverse, untried, later⟩ tried ∧
            ∀ (outcome : Option Action) (between : Sampling σ) (tried : List (List Link)),
              Sampling.Passes draw ⟨committed.arena, [], [], source⟩ outcome between tried →
              ∀ nodes ∈ tried, ∃ records, nodes = linksTo records ∧ (layout.rowsOf records).Nodup := by
  obtain ⟨web, updates, policy, rfl, shown⟩ := builtAs.shows
  have proper := builtAs.proper
  have sound := shown.sound
  obtain ⟨trail, between, committed⟩ := Layout.commits_web proper shown areNodes apart
    (fun _ _ => rfl) Layout.isTrail_nil updates layout.primary.length []
  have nonempty := Layout.active_withRows_ne_nil left
  refine ⟨_, committed, fun {σ} draw source inRange => ?_⟩
  obtain ⟨path, more, isDrawn, isAnswer, called⟩ := @Layout.sample_web σ draw layout web _ proper
    shown small trail between layout.primary.length policy source
  obtain ⟨exhausts, complete⟩ :=
    Layout.drawX_exhausts sound proper inRange nonempty source isDrawn
  simp only [Layout.isCompletion_congr fun _ => Layout.mem_withRows_nil] at exhausts complete
  obtain ⟨bounds, positive, recorded⟩ := Problem.sample_recording draw source
    ⟨(layout.web web (layout.withRows [] forced)).arena between, policy, layout.primary.length⟩
  obtain ⟨untried, tried, passes⟩ :=
    Layout.passes_of_sample proper shown trail small nonempty called
  rw [called] at recorded
  refine ⟨path, _, _, bounds, untried, tried, called, ?_, ?_, fun decided => ⟨?_, ?_, ?_⟩, recorded,
    positive, passes, ?_⟩
  · rw [exhausts, Layout.exists_isCover_iff]
  · rintro rfl
    rfl
  · exact (complete decided).1
  · exact (complete decided).2.isCover
  · exact ⟨_, Layout.undo_web proper shown trail isAnswer.allowed more _, rfl⟩
  · intro outcome between tried passes
    exact (Layout.stocked_of_passes proper shown trail small nonempty passes).rowsOf_nodup sound proper

/-- A source that counts, and gives what is left of its count below a bound. -/
def counting (source bound : Nat) : Nat × Nat := (source % bound, source + 1)

/-- With the row of the record 6 decided for, a random search finds a cover, and it draws below positive
bounds. -/
theorem sample_exhausts_small :
    ∃ (problem committed after : Problem) (path : List Nat) (later : Nat) (bounds : List Nat),
      BuiltAs problem .small ∧
        [6].foldlM (fun decisions (node : Nat) => Problem.commit (.record node) decisions) []
            problem = .ok [.record 6] committed ∧
        InRange counting ∧
        Problem.sample counting 5 committed = (.ok (linksTo path) after, later) ∧ path ≠ [] ∧
        Problem.sample (Sampling.recording counting) (5, []) committed =
          (.ok (linksTo path) after, (later, bounds)) ∧
        ∀ bound ∈ bounds, 1 ≤ bound := by
  obtain ⟨problem, builtAs, -⟩ := exists_builtAs_small
  obtain ⟨committed, commits, samples⟩ :=
    @sample_exhausts problem .small builtAs (by decide) [6] (by decide) (List.pairwise_singleton _ _)
      ⟨1, by decide, by decide⟩
  have inRange : InRange counting := fun source bound positive => Nat.mod_lt source positive
  obtain ⟨path, after, later, bounds, -, -, called, exhausts, -, -, recorded, positive, -⟩ :=
    samples counting 5 inRange
  refine ⟨problem, committed, after, path, later, bounds, builtAs, commits, inRange, called, ?_,
    recorded, positive⟩
  intro none'
  refine exhausts.1 none' ⟨{[4, 5]}, ?_⟩
  exact
    { rows := by decide
      live := by decide
      primary := fun column isPrimary uncovered => by
        have isFirst : column = 1 := by
          revert column
          decide
        subst isFirst
        exact ⟨[4, 5], by decide, fun row here => Finset.mem_singleton.1 here.1⟩
      secondary := fun _ _ _ isOne _ isOther _ _ =>
        (Finset.mem_singleton.1 isOne).trans (Finset.mem_singleton.1 isOther).symm }

end ExactCover
