import Mathlib.Data.List.GetD
import Mathlib.Data.List.InsertIdx
import ExactCover.Proofs.Search.AlgorithmX

/-!
# Algorithm X with drawn rows

The recursive procedure that the random search stands for. It takes the columns as Algorithm X does,
always a smallest one, but it draws the rows of a column one after the other from those that were not
drawn yet, and it is content with the first path that meets every column. The state of the source of
randomness is handed on from draw to draw.

Drawing takes the drawn item out of the list (`perm_of_drawFrom`), so every item is tried at most once
(`tryDrawn`). A number that is no place in the list draws nothing, and then the rest is given up. If that
does not happen (`InRange`) every item is tried before all are given up (`exists_of_tryDrawn_none`).

Main statements: `drawX_demandsLeft` (one step of the procedure, told by the layout) and
`mem_algorithmX_of_drawX` (what is found is an answer of Algorithm X).
-/

set_option autoImplicit false

namespace ExactCover

variable {σ α β : Type} {draw : σ → Nat → Nat × σ}

/-- Draws one of some items and tells the others. From no items nothing is drawn, and the source is left
alone. -/
def drawFrom (draw : σ → Nat → Nat × σ) (items : List α) (source : σ) : Option (α × List α) × σ :=
  if items.isEmpty then (none, source)
  else
    let (place, source) := draw source items.length
    (items[place]?.map fun item => (item, items.eraseIdx place), source)

/-- **Drawing takes one item out of the list.** -/
theorem perm_of_drawFrom {items others : List α} {item : α} {source after : σ}
    (drawn : drawFrom draw items source = (some (item, others), after)) :
    (item :: others).Perm items := by
  unfold drawFrom at drawn
  split at drawn
  · cases drawn
  · obtain ⟨found, -⟩ := Prod.mk.inj drawn
    obtain ⟨same, here, pair⟩ := Option.map_eq_some_iff.1 found
    obtain ⟨rfl, rfl⟩ := Prod.mk.inj pair
    obtain ⟨inside, rfl⟩ := List.getElem?_eq_some_iff.1 here
    exact List.getElem_cons_eraseIdx_perm inside

/-- What is drawn is one of the items, and the others are fewer. -/
theorem length_of_drawFrom {items others : List α} {item : α} {source after : σ}
    (drawn : drawFrom draw items source = (some (item, others), after)) :
    item ∈ items ∧ others ⊆ items ∧ others.length < items.length := by
  have perm := perm_of_drawFrom drawn
  have shorter := perm.length_eq
  rw [List.length_cons] at shorter
  exact ⟨perm.subset List.mem_cons_self,
    fun other isOther => perm.subset (List.mem_cons_of_mem _ isOther), by omega⟩

/-- A source that gives numbers below every positive bound. -/
def InRange (draw : σ → Nat → Nat × σ) : Prop :=
  ∀ source bound, 0 < bound → (draw source bound).1 < bound

/-- Then something is drawn as long as there is something. -/
theorem eq_nil_of_drawFrom (inRange : InRange draw) {items : List α} {source after : σ}
    (drawn : drawFrom draw items source = (none, after)) : items = [] := by
  cases items with
  | nil => rfl
  | cons item items =>
      have inside := inRange source (items.length + 1) (Nat.succ_pos _)
      simp only [drawFrom, List.isEmpty_cons, Bool.false_eq_true, if_false, Prod.mk.injEq,
        Option.map_eq_none_iff, List.getElem?_eq_none_iff, List.length_cons] at drawn
      omega

/-- Items that are told by others are drawn with them. -/
theorem drawFrom_map (turn : α → β) (items : List α) (source : σ) :
    drawFrom draw (items.map turn) source =
      ((drawFrom draw items source).1.map fun drawn => (turn drawn.1, drawn.2.map turn),
        (drawFrom draw items source).2) := by
  by_cases empty : items.isEmpty
  · simp [drawFrom, empty]
  · simp [drawFrom, empty, List.eraseIdx_map, Function.comp_def]

/-- Tries items drawn one after the other until one of them succeeds. -/
def tryDrawn (draw : σ → Nat → Nat × σ) (attempt : α → σ → Option β × σ) (items : List α)
    (source : σ) : Option β × σ :=
  match _drawn : drawFrom draw items source with
  | (none, source) => (none, source)
  | (some (item, others), source) =>
      match attempt item source with
      | (some found, source) => (some found, source)
      | (none, source) => tryDrawn draw attempt others source
termination_by items.length
decreasing_by exact (length_of_drawFrom _drawn).2.2

section

variable {attempt : α → σ → Option β × σ} {items others : List α} {item : α} {source between after : σ}

/-- Nothing is drawn. -/
theorem tryDrawn_of_none (drawn : drawFrom draw items source = (none, after)) :
    tryDrawn draw attempt items source = (none, after) := by
  rw [tryDrawn]
  split
  · rename_i other
    rw [drawn] at other
    cases other
    rfl
  · rename_i other
    rw [drawn] at other
    cases other

/-- An item is drawn. -/
theorem tryDrawn_of_some (drawn : drawFrom draw items source = (some (item, others), between)) :
    tryDrawn draw attempt items source =
      match attempt item between with
      | (some found, source) => (some found, source)
      | (none, source) => tryDrawn draw attempt others source := by
  rw [tryDrawn]
  split
  · rename_i other
    rw [drawn] at other
    cases other
  · rename_i other
    rw [drawn] at other
    cases other
    rfl

end

/-- What succeeds is one of the items. -/
theorem exists_of_tryDrawn_some {attempt : α → σ → Option β × σ} {items : List α} {source : σ}
    {found : β} (succeeds : (tryDrawn draw attempt items source).1 = some found) :
    ∃ item ∈ items, ∃ before, (attempt item before).1 = some found := by
  induction fewer : items.length using Nat.strong_induction_on generalizing items source with
  | _ length ih =>
      subst fewer
      rcases drawn : drawFrom draw items source with ⟨_ | ⟨item, others⟩, between⟩
      · rw [tryDrawn_of_none drawn] at succeeds
        cases succeeds
      · obtain ⟨inside, part, shorter⟩ := length_of_drawFrom drawn
        rw [tryDrawn_of_some drawn] at succeeds
        rcases attempted : attempt item between with ⟨_ | answer, after⟩
        · rw [attempted] at succeeds
          obtain ⟨other, isOther, succeeds'⟩ := ih _ shorter succeeds rfl
          exact ⟨other, part isOther, succeeds'⟩
        · rw [attempted] at succeeds
          exact ⟨item, inside, between, by rw [attempted]; exact succeeds⟩

/-- **If nothing succeeds every item was tried**, as long as the numbers drawn are places in the list. -/
theorem exists_of_tryDrawn_none (inRange : InRange draw) {attempt : α → σ → Option β × σ}
    {items : List α} {source : σ} (fails : (tryDrawn draw attempt items source).1 = none) :
    ∀ item ∈ items, ∃ before, (attempt item before).1 = none := by
  induction fewer : items.length using Nat.strong_induction_on generalizing items source with
  | _ length ih =>
      subst fewer
      rcases drawn : drawFrom draw items source with ⟨_ | ⟨item, others⟩, between⟩
      · obtain rfl := eq_nil_of_drawFrom inRange drawn
        simp
      · have perm := perm_of_drawFrom drawn
        have shorter := (length_of_drawFrom drawn).2.2
        rw [tryDrawn_of_some drawn] at fails
        rcases attempted : attempt item between with ⟨_ | answer, after⟩
        · rw [attempted] at fails
          have others' := ih _ shorter fails rfl
          intro other isOther
          rcases List.mem_cons.1 (perm.symm.subset isOther) with rfl | isOther
          · exact ⟨between, by rw [attempted]⟩
          · exact others' other isOther
        · rw [attempted] at fails
          cases fails

/-- Items that are told by others are tried with them. -/
theorem tryDrawn_map {γ : Type} {turn : α → β} {attempt : β → σ → Option γ × σ}
    {attempt' : α → σ → Option γ × σ} {items : List α} (source : σ)
    (same : ∀ item ∈ items, attempt (turn item) = attempt' item) :
    tryDrawn draw attempt (items.map turn) source = tryDrawn draw attempt' items source := by
  induction fewer : items.length using Nat.strong_induction_on generalizing items source with
  | _ length ih =>
      subst fewer
      have turned : drawFrom draw (items.map turn) source = _ := drawFrom_map turn items source
      rcases drawn : drawFrom draw items source with ⟨_ | ⟨item, others⟩, between⟩
      · rw [drawn] at turned
        rw [tryDrawn_of_none turned, tryDrawn_of_none drawn]
      · rw [drawn] at turned
        obtain ⟨inside, part, shorter⟩ := length_of_drawFrom drawn
        rw [tryDrawn_of_some turned, tryDrawn_of_some drawn, same item inside]
        rcases attempt' item between with ⟨_ | found, after⟩
        · exact ih _ shorter after (fun other isOther => same other (part isOther)) rfl
        · rfl

/-- **Algorithm X with drawn rows**: a path of rows that meets every column exactly once, if one is
found. -/
def drawX (draw : σ → Nat → Nat × σ) (demands : List Demand) (source : σ) :
    Option (List Nat) × σ :=
  match _picked : Policy.smallest.pick demands with
  | none => (some [], source)
  | some demand =>
      tryDrawn draw (fun row source =>
        let (path, source) := drawX draw (strike (demand.column :: row.columns) demands) source
        (path.map (row.record :: ·), source)) demand.candidates source
termination_by demands.length
decreasing_by exact length_strike_lt (Policy.mem_of_pick _picked) _

/-- Nothing is left to be met. -/
theorem drawX_of_none {demands : List Demand} (picked : Policy.smallest.pick demands = none)
    (source : σ) : drawX draw demands source = (some [], source) := by
  rw [drawX]
  split
  · rfl
  · rename_i other
    rw [picked] at other
    cases other

/-- A column is taken, and its rows are drawn. -/
theorem drawX_of_some {demands : List Demand} {demand : Demand}
    (picked : Policy.smallest.pick demands = some demand) (source : σ) :
    drawX draw demands source = tryDrawn draw (fun row source =>
        ((drawX draw (strike (demand.column :: row.columns) demands) source).1.map
            (row.record :: ·),
          (drawX draw (strike (demand.column :: row.columns) demands) source).2))
      demand.candidates source := by
  rw [drawX]
  split
  · rename_i other
    rw [picked] at other
    cases other
  · rename_i other
    rw [picked] at other
    cases other
    rfl

namespace Layout

variable {layout : Layout} {count : Nat} {covered : List Nat}

/-- What the procedure makes of a row that was drawn. -/
def drawnRow (layout : Layout) (draw : σ → Nat → Nat × σ) (covered : List Nat) (node : Nat)
    (source : σ) : Option (List Nat) × σ :=
  ((drawX draw (layout.demandsLeft (layout.withRow covered node)) source).1.map (node :: ·),
    (drawX draw (layout.demandsLeft (layout.withRow covered node)) source).2)

/-- Nothing is left of the layout to be met. -/
theorem drawX_demandsLeft_nil (solved : layout.active covered = []) (source : σ) :
    drawX draw (layout.demandsLeft covered) source = (some [], source) :=
  drawX_of_none (by rw [pick_demandsLeft, chosen_eq_none.2 solved]; rfl) source

/-- **One step of the procedure**, told by the layout. -/
theorem drawX_demandsLeft (sound : layout.Sound count) {column : Nat}
    (isChosen : layout.chosen covered .smallest = some column) (source : σ) :
    drawX draw (layout.demandsLeft covered) source =
      tryDrawn draw (layout.drawnRow draw covered) (layout.live covered column) source := by
  have picked := @pick_demandsLeft layout covered .smallest
  rw [isChosen] at picked
  rw [drawX_of_some picked]
  apply tryDrawn_map
  intro node inside
  funext source
  rw [candidate, strike_demandsLeft sound inside, drawnRow]

/-- **What is found by drawing is one of the answers of Algorithm X.** -/
theorem mem_algorithmX_of_drawX (sound : layout.Sound count) {path : List Nat} {source : σ}
    (found : (drawX draw (layout.demandsLeft covered) source).1 = some path) :
    path ∈ algorithmX .smallest (layout.demandsLeft covered) := by
  generalize left : (layout.active covered).length = depth
  induction depth using Nat.strong_induction_on generalizing covered path source with
  | _ depth ih =>
      rw [algorithmX_demandsLeft sound]
      cases isChosen : layout.chosen covered .smallest with
      | none =>
          rw [drawX_demandsLeft_nil (chosen_eq_none.1 isChosen)] at found
          obtain rfl := Option.some.inj found
          exact List.mem_singleton_self _
      | some column =>
          rw [drawX_demandsLeft sound isChosen] at found
          obtain ⟨node, inside, before, foundRow⟩ := exists_of_tryDrawn_some found
          obtain ⟨rest, foundRest, rfl⟩ := Option.map_eq_some_iff.1 foundRow
          have fewer := length_active_withRow_lt sound (mem_active_of_chosen isChosen) inside
          exact List.mem_flatMap.2
            ⟨node, inside, List.mem_map.2 ⟨rest, ih _ (left ▸ fewer) foundRest rfl, rfl⟩⟩

end Layout

end ExactCover
