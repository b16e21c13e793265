import ExactCover.Proofs.Layout.Reading

/-!
# Algorithm X

The recursive procedure that the search stands for, on plain lists. It knows the columns that have to
be met, each with the rows that can be tried for it. It takes a column, tries its rows one after the
other, and each time goes on with what the row leaves: the columns that it does not meet, with the
rows that share no column with it. A path of rows is an answer when no column is left.

What a trail leaves of a layout is such a list (`demandsLeft`), and covering the columns of a row is
one step of the procedure (`strike_demandsLeft`). So the procedure may be followed along trails.

Main statement: `algorithmX_demandsLeft` (one step of the procedure, told by the layout).
-/

set_option autoImplicit false

namespace ExactCover

/-- A row that can be tried for a column, given by its record in the column, with all columns that
it meets. -/
structure Candidate where
  record : Nat
  columns : List Nat
deriving DecidableEq

/-- A column that has to be met, with the rows that can be tried for it from top to bottom. -/
structure Demand where
  column : Nat
  candidates : List Candidate
deriving DecidableEq

/-- The column that is taken next: the first one, or the first one with the fewest rows. -/
def Policy.pick (demands : List Demand) : Policy → Option Demand
  | .first => demands.head?
  | .smallest => demands.argmin (·.candidates.length)

/-- Drops columns, and every row that meets one of them. -/
def strike (taken : List Nat) (demands : List Demand) : List Demand :=
  (demands.filter (·.column ∉ taken)).map fun demand =>
    { demand with
      candidates := demand.candidates.filter fun candidate => candidate.columns.all (· ∉ taken) }

theorem Policy.mem_of_pick {policy : Policy} {demands : List Demand} {demand : Demand}
    (picked : policy.pick demands = some demand) : demand ∈ demands := by
  cases policy with
  | first => exact List.mem_of_mem_head? picked
  | smallest => exact List.argmin_mem picked

theorem length_strike_lt {demands : List Demand} {demand : Demand} (inside : demand ∈ demands)
    (columns : List Nat) : (strike (demand.column :: columns) demands).length < demands.length := by
  rw [strike, List.length_map]
  exact List.length_filter_lt_length_iff_exists.2 ⟨demand, inside, by simp⟩

/-- **Algorithm X**: the paths of rows that meet every column exactly once, in the order in which they
are found. -/
def algorithmX (policy : Policy) (demands : List Demand) : List (List Nat) :=
  match _picked : policy.pick demands with
  | none => [[]]
  | some demand =>
      demand.candidates.flatMap fun candidate =>
        (algorithmX policy (strike (demand.column :: candidate.columns) demands)).map
          (candidate.record :: ·)
termination_by demands.length
decreasing_by exact length_strike_lt (Policy.mem_of_pick _picked) _

/-- Nothing is left to be met. -/
theorem algorithmX_of_none {policy : Policy} {demands : List Demand}
    (picked : policy.pick demands = none) : algorithmX policy demands = [[]] := by
  rw [algorithmX]
  split
  · rfl
  · rename_i other
    rw [picked] at other
    cases other

/-- A column is taken, and its rows are tried. -/
theorem algorithmX_of_some {policy : Policy} {demands : List Demand} {demand : Demand}
    (picked : policy.pick demands = some demand) :
    algorithmX policy demands = demand.candidates.flatMap fun candidate =>
      (algorithmX policy (strike (demand.column :: candidate.columns) demands)).map
        (candidate.record :: ·) := by
  rw [algorithmX]
  split
  · rename_i other
    rw [picked] at other
    cases other
  · rename_i other
    rw [picked] at other
    cases other
    rfl

/-- The smallest item of a list is found by what is measured of it. -/
theorem argmin_map {α β : Type} (items : List α) (turn : α → β) (measure : β → Nat) :
    (items.map turn).argmin measure = (items.argmin (measure ∘ turn)).map turn := by
  induction items using List.reverseRecOn with
  | nil => rfl
  | append_singleton items last ih =>
      rw [List.map_append, List.map_singleton, List.argmin_concat, List.argmin_concat, ih]
      cases found : items.argmin (measure ∘ turn) with
      | none => rfl
      | some smallest =>
          simp only [Option.map_some, Function.comp_apply]
          split <;> rfl

namespace Layout

variable {layout : Layout} {count : Nat} {covered : List Nat}

/-- A row as a candidate, by one of its records. -/
def candidate (layout : Layout) (node : Nat) : Candidate := ⟨node, layout.columnsOf node⟩

/-- The primary columns with the rows that were put into them, in the order in which that was
done. -/
def demands (layout : Layout) : List Demand :=
  layout.primary.map fun column => ⟨column, (layout.members column).map layout.candidate⟩

/-- What the covered columns leave of them. -/
def demandsLeft (layout : Layout) (covered : List Nat) : List Demand :=
  (layout.active covered).map fun column =>
    ⟨column, (layout.live covered column).map layout.candidate⟩

theorem demandsLeft_nil : layout.demandsLeft [] = layout.demands := by
  simp [demandsLeft, demands, active, live, linked]

/-- The procedure and the search take the same column. -/
theorem pick_demandsLeft (policy : Policy) :
    policy.pick (layout.demandsLeft covered) = (layout.chosen covered policy).map fun column =>
      ⟨column, (layout.live covered column).map layout.candidate⟩ := by
  cases policy with
  | first => exact List.head?_map
  | smallest =>
      rw [Policy.pick, demandsLeft, argmin_map, chosen]
      congr 2
      funext column
      simp

/-- **Covering the columns of a row is one step of the procedure.** -/
theorem strike_demandsLeft (sound : layout.Sound count) {node column : Nat}
    (inside : node ∈ layout.live covered column) :
    strike (column :: layout.columnsOf node) (layout.demandsLeft covered) =
      layout.demandsLeft (layout.withRow covered node) := by
  have own := sound.mem_columnsOf_of_live inside
  have taken : ∀ other, other ∈ column :: layout.columnsOf node ↔ other ∈ layout.columnsOf node := by
    intro other
    rw [List.mem_cons, or_iff_right_of_imp]
    rintro rfl
    exact own
  have left : layout.active (layout.withRow covered node) =
      (layout.active covered).filter (· ∉ column :: layout.columnsOf node) := by
    rw [active_withRow]
    apply List.filter_congr
    intro other _
    simp only [taken]
  rw [strike, demandsLeft, demandsLeft, left, List.filter_map, List.map_map]
  apply List.map_congr_left
  intro other inActive
  obtain ⟨isLeft, free⟩ := List.mem_filter.1 inActive
  simp only [Function.comp_apply, decide_eq_true_eq, taken] at free
  have uncovered : other ∉ covered := (mem_active.1 isLeft).2
  have uncovered' : other ∉ layout.withRow covered node := by
    simp [mem_withRow, free, uncovered]
  simp only [Function.comp_apply, List.filter_map]
  congr 2
  rw [live, live, List.filter_filter]
  apply List.filter_congr
  intro member isMember
  have home := (sound.node_of_mem_members isMember).2
  rw [Bool.eq_iff_iff, Bool.and_eq_true, linked_iff_of_not_mem (home ▸ uncovered),
    linked_iff_of_not_mem (home ▸ uncovered'), meets_eq_false, meets_eq_false]
  simp only [Function.comp_apply, candidate, List.all_eq_true, decide_eq_true_eq, taken,
    mem_withRow]
  constructor
  · rintro ⟨apart, earlier⟩ met (isOwn | isEarlier)
    · exact fun isMet => apart met isMet isOwn
    · exact earlier met isEarlier
  · intro apart
    exact ⟨fun met isMet isOwn => apart met (.inl isOwn) isMet,
      fun met isEarlier => apart met (.inr isEarlier)⟩

/-- **One step of the procedure**, told by the layout. -/
theorem algorithmX_demandsLeft (sound : layout.Sound count) (policy : Policy) :
    algorithmX policy (layout.demandsLeft covered) =
      match layout.chosen covered policy with
      | none => [[]]
      | some column => (layout.live covered column).flatMap fun node =>
          (algorithmX policy
            (layout.demandsLeft (layout.withRow covered node))).map (node :: ·) := by
  have picked := @pick_demandsLeft layout covered policy
  cases isChosen : layout.chosen covered policy with
  | none =>
      rw [isChosen] at picked
      exact algorithmX_of_none picked
  | some column =>
      rw [isChosen] at picked
      rw [algorithmX_of_some picked, List.flatMap_map]
      apply List.flatMap_congr
      intro node inside
      rw [candidate, strike_demandsLeft sound inside]

end Layout

end ExactCover
