import ExactCover.Proofs.Cover.Nesting
import ExactCover.Proofs.Search.Decisions

/-!
# Placing columns

A new column is asked for with the column or the root that it is put next to, or with none
(`Request`). What the columns were put next to tells which of them are on the ring of the root: those
from which the way from neighbour to neighbour leads there (`LeadsToRoot`). A problem keeps none of
these ways. It goes round the ring of each new column and counts the column if it meets the root, and
never looks again. That is enough: a column is put right behind its neighbour, and all others stay
where they are (`Receives`).

What is known of the columns made so far is kept by one request more (`Placed.make`), and so by any
number of them (`Placed.run`). Columns alone are a problem that was built (`Placed.builtAs`), and with
rows or without, a problem that was built is clean as long as no column that was counted is covered
(`BuiltAs.cleanUnless`).

Main statement: `columns_stand_as_requested`.
-/

set_option autoImplicit false

namespace ExactCover

open Function

/-! ## Requests -/

/-- What a new column is asked for with: its name, and the column or the root to the right of which it
comes, if it does not come on a ring of its own. -/
structure Request where
  name : Value
  beside : Option Nat

/-- Makes the column that is asked for. -/
def Request.make (request : Request) : ProblemM Link :=
  Problem.newColumn request.name (request.beside.map fun neighbour : Nat => .record neighbour)

section

variable {requests : List Request} {request : Request} {column neighbour : Nat}

/-- What a column was put next to, if columns are made one after the other. The root is not made, and
the first column has the number 1. -/
def neighbourOf (requests : List Request) : Nat → Option Nat
  | 0 => none
  | place + 1 => requests[place]?.bind (·.beside)

/-- Going from a column to what it was put next to, and so on, leads to the root. -/
inductive LeadsToRoot (requests : List Request) : Nat → Prop
  | root : LeadsToRoot requests 0
  | beside {column neighbour : Nat} : neighbourOf requests column = some neighbour →
      LeadsToRoot requests neighbour → LeadsToRoot requests column

/-- Each column is put next to the root or to a column made before, if next to any. -/
def InOrder (requests : List Request) : Prop :=
  ∀ column ≤ requests.length, ∀ neighbour ∈ neighbourOf requests column, neighbour < column

instance (requests : List Request) : Decidable (InOrder requests) :=
  inferInstanceAs (Decidable (∀ column ≤ requests.length, _))

theorem le_length_of_neighbourOf (isBeside : neighbourOf requests column = some neighbour) :
    column ≤ requests.length := by
  cases column with
  | zero => exact Nat.zero_le _
  | succ place =>
      obtain ⟨request, found, -⟩ := Option.bind_eq_some_iff.1 isBeside
      exact (List.getElem?_eq_some_iff.1 found).1

/-- One column more does not move the others. -/
theorem neighbourOf_concat :
    neighbourOf (requests ++ [request]) column =
      if column = requests.length + 1 then request.beside else neighbourOf requests column := by
  cases column with
  | zero => rfl
  | succ place =>
      simp only [neighbourOf, Nat.add_right_cancel_iff]
      split
      · rename_i last
        rw [last, List.getElem?_concat_length, Option.bind_some]
      · rename_i different
        rcases Nat.lt_or_gt_of_ne different with early | late
        · rw [List.getElem?_append_left early]
        · rw [List.getElem?_eq_none (Nat.le_of_lt late), List.getElem?_eq_none]
          simpa using Nat.succ_le_of_lt late

theorem InOrder.concat (inOrder : InOrder requests)
    (early : ∀ neighbour ∈ request.beside, neighbour ≤ requests.length) :
    InOrder (requests ++ [request]) := by
  intro column _ neighbour isBeside
  rw [neighbourOf_concat] at isBeside
  split at isBeside
  · rename_i last
    exact last ▸ Nat.lt_succ_of_le (early neighbour isBeside)
  · exact inOrder column (le_length_of_neighbourOf isBeside) neighbour isBeside

/-- The next column is put next to one that there is. -/
theorem InOrder.next {front back : List Request}
    (inOrder : InOrder (front ++ request :: back)) :
    ∀ neighbour ∈ request.beside, neighbour ≤ front.length := by
  intro neighbour isBeside
  have inside : front.length + 1 ≤ (front ++ request :: back).length := by simp
  refine Nat.le_of_lt_succ (inOrder _ inside neighbour ?_)
  rw [neighbourOf, List.getElem?_append_right (Nat.le_refl _), Nat.sub_self]
  exact isBeside

/-- **The way from the next column** leads to the root if the way from its neighbour does. -/
theorem leadsToRoot_concat (inOrder : InOrder requests)
    (early : ∀ neighbour ∈ request.beside, neighbour ≤ requests.length) :
    LeadsToRoot (requests ++ [request]) column ↔ LeadsToRoot requests column ∨
      column = requests.length + 1 ∧ ∃ neighbour ∈ request.beside, LeadsToRoot requests neighbour := by
  have old : ∀ {other}, LeadsToRoot requests other → LeadsToRoot (requests ++ [request]) other := by
    intro other leads
    induction leads with
    | root => exact .root
    | beside isBeside _ ih =>
        have different := Nat.ne_of_lt (Nat.lt_succ_of_le (le_length_of_neighbourOf isBeside))
        exact .beside (by rw [neighbourOf_concat, if_neg different, isBeside]) ih
  constructor
  · intro leads
    induction leads with
    | root => exact .inl .root
    | @beside column neighbour isBeside _ ih =>
        -- The new column is nobody's neighbour yet, so the rest of the way is an old one.
        rw [neighbourOf_concat] at isBeside
        split at isBeside
        · rename_i last
          have before := early neighbour isBeside
          rcases ih with leads | ⟨new, -⟩
          · exact .inr ⟨last, neighbour, isBeside, leads⟩
          · omega
        · have inside := le_length_of_neighbourOf isBeside
          have before := inOrder column inside neighbour isBeside
          rcases ih with leads | ⟨new, -⟩
          · exact .inl (.beside isBeside leads)
          · omega
  · rintro (leads | ⟨rfl, neighbour, isBeside, leads⟩)
    · exact old leads
    · exact .beside (by rw [neighbourOf_concat, if_pos rfl, isBeside]) (old leads)

end

/-! ## Neighbours -/

namespace Arena

/-- A new column has come next to another one, in front of what stood to the right of that before, or
on a ring of its own. Elsewhere all records stand as they stood. -/
def Receives (before after : Arena) (header : Nat) : Option Nat → Prop
  | none => after.Adjoins header header ∧
      ∀ one other, before.Adjoins one other → after.Adjoins one other
  | some neighbour => after.Adjoins neighbour header ∧
      ∀ one other, before.Adjoins one other →
        if one = neighbour then after.Adjoins header other else after.Adjoins one other

end Arena

namespace Web

variable {web : Web} {frame : Frame} {updates : Nat}

/-- A new column on a ring of its own leaves all neighbours as they are. -/
theorem receives_ring (name : Value) :
    (web.arena updates).Receives ((web.addHeader name).arena updates) web.count none := by
  refine ⟨adjoins_iff.2 ?_, fun one other adjoins => adjoins_iff.2 ?_⟩
  · exact ⟨⟨Nat.lt_succ_self _, Nat.lt_succ_self _⟩, update_self _ _ _, update_self _ _ _⟩
  · obtain ⟨⟨oneInside, otherInside⟩, forward, backward⟩ := adjoins_iff.1 adjoins
    refine ⟨⟨Nat.lt_succ_of_lt oneInside, Nat.lt_succ_of_lt otherInside⟩, ?_, ?_⟩
    · exact (update_of_ne (Nat.ne_of_lt oneInside) _ _).trans forward
    · exact (update_of_ne (Nat.ne_of_lt otherInside) _ _).trans backward

namespace Bears

variable (bears : web.Bears frame)
include bears

/-- **Every column stands between two columns.** -/
theorem exists_adjoins {header : Nat} (isHeader : header ∈ frame.headerRings.flatten) (updates : Nat) :
    ∃ left ∈ frame.headerRings.flatten, ∃ right ∈ frame.headerRings.flatten,
      (web.arena updates).Adjoins left header ∧ (web.arena updates).Adjoins header right := by
  obtain ⟨ring, isRing, inRing⟩ := List.mem_flatten.1 isHeader
  obtain ⟨forward, backward, nextInRing, prevInRing⟩ := (bears.headers ring isRing).next_prev inRing
  have nextIsHeader := List.mem_flatten.2 ⟨ring, isRing, nextInRing⟩
  have prevIsHeader := List.mem_flatten.2 ⟨ring, isRing, prevInRing⟩
  have inside := bears.inside header isHeader
  refine ⟨_, prevIsHeader, _, nextIsHeader, adjoins_iff.2 ?_, adjoins_iff.2 ?_⟩
  · exact ⟨⟨bears.inside _ prevIsHeader, inside⟩, forward, rfl⟩
  · exact ⟨⟨inside, bears.inside _ nextIsHeader⟩, rfl, backward⟩

/-- **A new column comes right behind its neighbour.** -/
theorem receives_beside (name : Value) {neighbour : Nat}
    (isHeader : neighbour ∈ frame.headerRings.flatten) (updates : Nat) :
    (web.arena updates).Receives
      (((web.addHeader name).insert neighbour web.count).arena updates) web.count
        (some neighbour) := by
  obtain ⟨ring, isRing, inRing⟩ := List.mem_flatten.1 isHeader
  obtain ⟨-, backward, -, -⟩ := (bears.headers ring isRing).next_prev inRing
  have inside := bears.inside neighbour isHeader
  have notNew := Nat.ne_of_lt inside
  refine ⟨adjoins_iff.2 ⟨⟨Nat.lt_succ_of_lt inside, Nat.lt_succ_self _⟩, ?_, ?_⟩, ?_⟩
  · exact update_self _ _ _
  · exact update_self _ _ _
  intro one other adjoins
  obtain ⟨⟨oneInside, otherInside⟩, rfl, toLeft⟩ := adjoins_iff.1 adjoins
  have oneOld := Nat.ne_of_lt oneInside
  have otherOld := Nat.ne_of_lt otherInside
  split
  · rename_i same
    subst same
    refine adjoins_iff.2 ⟨⟨Nat.lt_succ_self _, Nat.lt_succ_of_lt otherInside⟩, ?_, ?_⟩
    · simp [Web.insert, Thread.link, Web.addHeader, update_of_ne (Ne.symm notNew), update_of_ne notNew]
    · simp [Web.insert, Thread.link, Web.addHeader, update_of_ne otherOld, update_of_ne notNew]
  · rename_i different
    -- What stands to the right of another record is not what stood to the right of the neighbour.
    have apart : web.across.next one ≠ web.across.next neighbour := fun same =>
      different (toLeft.symm.trans ((congrArg web.across.prev same).trans backward))
    refine adjoins_iff.2 ⟨⟨Nat.lt_succ_of_lt oneInside, Nat.lt_succ_of_lt otherInside⟩, ?_, ?_⟩
    · simp [Web.insert, Thread.link, Web.addHeader, update_of_ne different, update_of_ne oneOld]
    · simp [Web.insert, Thread.link, Web.addHeader, update_of_ne otherOld, update_of_ne notNew,
        update_of_ne apart, toLeft]

end Bears

end Web

/-! ## Counting the columns that are left -/

/-- However some of the columns are covered, a problem is clean as long as no primary one is among
them. -/
def Problem.CleanUnless (problem : Problem) (columns primary : List Nat) : Prop :=
  ∀ headers : List Nat, headers.Nodup → (∀ header ∈ headers, header ∈ columns) → ∃ covered,
    Arena.play (headers.map .cover) problem.arena = .ok () covered ∧
      Problem.isClean { problem with arena := covered } =
        .ok (decide (∀ header ∈ headers, header ∉ primary))

namespace BuiltAs

variable {problem : Problem} {layout : Layout} (builtAs : BuiltAs problem layout)
include builtAs

/-- The columns on the ring of the root are the primary ones, and their number was counted. -/
theorem counts_primary :
    problem.arena.activeHeaders = .ok (linksTo layout.primary) ∧
      problem.primaryCount = layout.primary.length := by
  obtain ⟨web, updates, policy, rfl, shown⟩ := builtAs.shows
  have active := Layout.activeHeaders_web builtAs.proper shown Layout.isTrail_nil updates
  rw [Layout.active_nil] at active
  exact ⟨active, rfl⟩

/-- **A problem is clean as long as no column that was counted is covered**, whatever its rows and its
other columns are. -/
theorem cleanUnless : problem.CleanUnless layout.columns layout.primary := by
  intro headers once areColumns
  obtain ⟨web, updates, policy, rfl, shown⟩ := builtAs.shows
  have trail : layout.IsTrail headers.reverse :=
    ⟨List.nodup_reverse.2 once, fun header inside => areColumns header (List.mem_reverse.1 inside)⟩
  obtain ⟨spent, covers⟩ := Layout.covers_web builtAs.proper shown trail.areHeaders updates
  refine ⟨_, covers, (Layout.isClean_trail builtAs.proper shown trail policy spent).trans ?_⟩
  congr 1
  rw [decide_eq_decide]
  simp only [List.mem_reverse]
  exact ⟨fun free header isCovered isPrimary => free header isPrimary isCovered,
    fun free header isPrimary isCovered => free header isCovered isPrimary⟩

end BuiltAs

/-! ## Columns made one after the other -/

/-- Columns were made as requests say, and nothing else was built. -/
structure Placed (requests : List Request) (problem : Problem) (frame : Frame) : Prop where
  built : Built problem frame
  inOrder : InOrder requests
  counted : problem.arena.size = requests.length + 1
  numbered : frame.headerRings.flatten.Perm (List.range (requests.length + 1))
  primary : ∀ column, column ∈ 0 :: frame.primary ↔ LeadsToRoot requests column

namespace Placed

variable {requests : List Request} {request : Request} {problem : Problem} {frame : Frame}

theorem empty (policy : Policy) : Placed [] (.empty policy) .empty where
  built := .empty policy
  inOrder := by decide
  counted := rfl
  numbered := List.Perm.refl _
  primary := fun column => by
    constructor
    · intro inside
      obtain rfl := List.mem_singleton.1 inside
      exact .root
    · intro leads
      cases leads with
      | root => exact List.mem_cons_self
      | @beside _ neighbour isBeside _ => cases column <;> cases isBeside

variable (placed : Placed requests problem frame)
include placed

theorem isHeader_iff {header : Nat} :
    header ∈ frame.headerRings.flatten ↔ header ≤ requests.length := by
  rw [placed.numbered.mem_iff, List.mem_range, Nat.lt_succ_iff]

theorem columns_nodup : (0 :: frame.columns).Nodup :=
  placed.numbered.nodup_iff.2 List.nodup_range

/-- The columns are numbered from the first one on. -/
theorem mem_columns_iff {header : Nat} :
    header ∈ frame.columns ↔ header ∈ List.range' 1 requests.length := by
  have isHeader := @placed.isHeader_iff _ _ _ header
  have notRoot := (List.nodup_cons.1 placed.columns_nodup).1
  change header ∈ 0 :: frame.columns ↔ _ at isHeader
  rw [List.mem_cons] at isHeader
  rw [List.mem_range'_1]
  constructor
  · intro isColumn
    have late : header ≠ 0 := fun same => notRoot (same ▸ isColumn)
    have early := isHeader.1 (.inr isColumn)
    omega
  · rintro ⟨late, early⟩
    exact (isHeader.2 (by omega)).resolve_left (by omega)

/-- The columns on the ring of the root are those from which the way leads there. -/
theorem mem_primary_iff {header : Nat} :
    header ∈ frame.primary ↔ header ≠ 0 ∧ LeadsToRoot requests header := by
  have notRoot := (List.nodup_cons.1 placed.columns_nodup).1
  rw [← placed.primary, List.mem_cons]
  constructor
  · intro isPrimary
    exact ⟨fun same => notRoot (List.mem_append_left _ (same ▸ isPrimary)), .inr isPrimary⟩
  · rintro ⟨different, inside⟩
    exact inside.resolve_left different

/-- The root and every column stand between two of them. -/
theorem exists_adjoins {header : Nat} (inside : header ≤ requests.length) :
    ∃ left ≤ requests.length, ∃ right ≤ requests.length,
      problem.arena.Adjoins left header ∧ problem.arena.Adjoins header right := by
  obtain ⟨web, updates, policy, rfl, bears⟩ := placed.built.bears
  obtain ⟨left, isLeft, right, isRight, adjoins⟩ :=
    bears.exists_adjoins (placed.isHeader_iff.2 inside) updates
  exact ⟨left, placed.isHeader_iff.1 isLeft, right, placed.isHeader_iff.1 isRight, adjoins⟩

/-- A column more, on the ring of the root if its neighbour is. -/
theorem concat {after : Problem} {more : Frame}
    (early : ∀ neighbour ∈ request.beside, neighbour ≤ requests.length) (built : Built after more)
    (counted : after.arena.size = problem.arena.size + 1)
    (oneMore : more.headerRings.flatten.Perm
      ((requests.length + 1) :: frame.headerRings.flatten))
    (primary : ∀ column, column ∈ 0 :: more.primary ↔ column ∈ 0 :: frame.primary ∨
      column = requests.length + 1 ∧ ∃ neighbour ∈ request.beside, neighbour ∈ 0 :: frame.primary) :
    Placed (requests ++ [request]) after more where
  built := built
  inOrder := placed.inOrder.concat early
  counted := by rw [counted, placed.counted, List.length_append, List.length_singleton]
  numbered := by
    rw [List.length_append, List.length_singleton, List.range_succ]
    refine oneMore.trans ((placed.numbered.cons _).trans ?_)
    exact (List.perm_append_singleton _ _).symm
  primary := fun column => by
    rw [leadsToRoot_concat placed.inOrder early, primary]
    simp only [placed.primary]

/-- **One more column is made** and put where it is asked for. -/
theorem make (early : ∀ neighbour ∈ request.beside, neighbour ≤ requests.length) :
    ∃ after more, Placed (requests ++ [request]) after more ∧
      request.make problem = .ok (.record (requests.length + 1 : Nat)) after ∧
      problem.arena.Receives after.arena (requests.length + 1) request.beside := by
  obtain ⟨web, updates, policy, rfl, bears⟩ := placed.built.bears
  have counted : web.count = requests.length + 1 := web.size_arena.symm.trans placed.counted
  obtain ⟨name, beside⟩ := request
  cases beside with
  | none =>
      have made := @Problem.newColumn_ring web updates frame.primary.length policy name
      have receives := @Web.receives_ring web updates name
      rw [counted] at made receives
      refine ⟨_, _, placed.concat early (.ring placed.built made) ?_ Frame.addRing_perm ?_, made,
        receives⟩
      · rw [Web.size_arena, Web.size_arena]
        rfl
      · intro column
        simp [Frame.addRing]
  | some neighbour =>
      have isHeader : neighbour ∈ frame.headerRings.flatten :=
        placed.isHeader_iff.2 (early neighbour rfl)
      have made := @Problem.newColumn_beside web frame updates policy bears name neighbour isHeader
      have receives := bears.receives_beside name isHeader updates
      have oneMore := @Frame.addBeside_perm frame web.count neighbour bears.once isHeader
      rw [counted] at made receives oneMore
      refine ⟨_, _, placed.concat early (.beside placed.built (List.mem_cons.1 isHeader) made) ?_
        oneMore ?_, made, receives⟩
      · rw [Web.size_arena, Web.size_arena]
        rfl
      · intro column
        rw [Frame.mem_primary_addBeside]
        simp

/-- **Columns are made one after the other.** -/
theorem run {further : List Request} (inOrder : InOrder (requests ++ further)) :
    ∃ after more, Placed (requests ++ further) after more ∧
      further.mapM Request.make problem =
        .ok (linksTo (List.range' (requests.length + 1) further.length)) after := by
  induction further generalizing requests problem frame with
  | nil =>
      rw [List.append_nil]
      exact ⟨problem, frame, placed, rfl⟩
  | cons request further ih =>
      obtain ⟨between, more, placedOne, made, -⟩ := placed.make inOrder.next
      rw [List.append_cons] at inOrder ⊢
      obtain ⟨after, most, placedAll, rest⟩ := ih placedOne inOrder
      refine ⟨after, most, placedAll, ?_⟩
      rw [List.length_append, List.length_singleton] at rest
      rw [List.mapM_cons]
      exact (bind_of_ok made).trans (bind_of_ok rest)

/-- Columns alone are a problem that was built, without rows. -/
theorem builtAs : BuiltAs problem ⟨frame, []⟩ where
  built := placed.built
  numbered := by
    rw [placed.counted]
    exact (List.append_nil _).symm ▸ placed.numbered
  inhabited := List.not_mem_nil
  cycles := fun _ isRow => absurd isRow List.not_mem_nil
  proper := ⟨fun _ isNode => absurd isNode List.not_mem_nil,
    fun _ isRow => absurd isRow List.not_mem_nil⟩

end Placed

/-! ## Problems that were built -/

/-- **Columns stand as they were asked for.** Columns are asked for one after the other, each next to
the root, next to a column made before, or on a ring of its own. After any number of requests all of them
have succeeded, the columns on the ring of the root are those from which the way from neighbour to
neighbour leads to the root, and their number was counted. The root and every column stand between two
of them, with links both ways. One request more succeeds as well, and puts its column right behind the
neighbour that it names. However columns are then covered, the problem is clean as long as none of those
on the ring of the root is among them; and so it is with rows, in every problem that was built. -/
theorem columns_stand_as_requested :
    (∀ (policy : Policy) (requests : List Request), InOrder requests →
      ∃ (problem : Problem) (active : List Nat),
        requests.mapM Request.make (.empty policy) =
          .ok (linksTo (List.range' 1 requests.length)) problem ∧
        problem.arena.activeHeaders = .ok (linksTo active) ∧ active.Nodup ∧
        problem.primaryCount = active.length ∧
        (∀ header, header ∈ active ↔ header ≠ 0 ∧ LeadsToRoot requests header) ∧
        (∀ header ≤ requests.length, ∃ left ≤ requests.length, ∃ right ≤ requests.length,
          problem.arena.Adjoins left header ∧ problem.arena.Adjoins header right) ∧
        (∀ request : Request, (∀ neighbour ∈ request.beside, neighbour ≤ requests.length) →
          ∃ after, request.make problem = .ok (.record (requests.length + 1 : Nat)) after ∧
            problem.arena.Receives after.arena (requests.length + 1) request.beside) ∧
        problem.CleanUnless (List.range' 1 requests.length) active) ∧
    ∀ {problem : Problem} {layout : Layout}, BuiltAs problem layout →
      problem.arena.activeHeaders = .ok (linksTo layout.primary) ∧
        problem.primaryCount = layout.primary.length ∧
        problem.CleanUnless layout.columns layout.primary := by
  refine ⟨fun policy requests inOrder => ?_, fun builtAs => ?_⟩
  · obtain ⟨problem, frame, placed, made⟩ := (Placed.empty policy).run inOrder
    rw [List.nil_append] at placed
    obtain ⟨active, counted⟩ := placed.builtAs.counts_primary
    have once := (List.nodup_cons.1 placed.columns_nodup).2
    refine ⟨problem, frame.primary, made, active, (List.nodup_append.1 once).1, counted,
      fun header => placed.mem_primary_iff, fun header inside => placed.exists_adjoins inside, ?_, ?_⟩
    · intro request early
      obtain ⟨after, -, -, made, receives⟩ := placed.make early
      exact ⟨after, made, receives⟩
    · intro headers once areColumns
      exact placed.builtAs.cleanUnless headers once fun header inside =>
        placed.mem_columns_iff.2 (areColumns header inside)
  · obtain ⟨active, counted⟩ := builtAs.counts_primary
    exact ⟨active, counted, builtAs.cleanUnless⟩

/-- Three columns that come to stand on the ring of the root, one of them by way of another, and two on a
ring of their own. -/
def Request.small : List Request :=
  [⟨.null, some 0⟩, ⟨.null, none⟩, ⟨.null, some 1⟩, ⟨.null, some 2⟩, ⟨.null, some 0⟩]

/-- The columns 1, 3 and 5 are on the ring of the root and the columns 2 and 4 are not, so the problem
stays clean while these two are covered, and it is not clean once the column 3 is. A sixth column comes
right behind the column 4. With rows it is the same: covering the secondary column leaves a problem
clean, and covering a primary one does not. -/
theorem columns_stand_as_requested_small :
    (∃ problem active after apart within, InOrder Request.small ∧
      Request.small.mapM Request.make (.empty .smallest) =
        .ok (linksTo [1, 2, 3, 4, 5]) problem ∧
      problem.arena.activeHeaders = .ok (linksTo active) ∧
      (1 ∈ active ∧ 2 ∉ active ∧ 3 ∈ active ∧ 4 ∉ active ∧ 5 ∈ active) ∧
      Request.make ⟨.null, some 4⟩ problem = .ok (.record 6) after ∧ after.arena.Adjoins 4 6 ∧
      Arena.play [.cover 4, .cover 2] problem.arena = .ok () apart ∧
      Problem.isClean { problem with arena := apart } = .ok true ∧
      Arena.play [.cover 4, .cover 3] problem.arena = .ok () within ∧
      Problem.isClean { problem with arena := within } = .ok false) ∧
    ∃ problem apart within, BuiltAs problem .small ∧
      Arena.play [.cover 3] problem.arena = .ok () apart ∧
      Problem.isClean { problem with arena := apart } = .ok true ∧
      Arena.play [.cover 3, .cover 1] problem.arena = .ok () within ∧
      Problem.isClean { problem with arena := within } = .ok false := by
  constructor
  · have inOrder : InOrder Request.small := by decide
    obtain ⟨problem, active, made, headers, -, -, onRing, -, next, clean⟩ :=
      columns_stand_as_requested.1 .smallest Request.small inOrder
    have one : LeadsToRoot Request.small 1 := .beside rfl .root
    have two : ¬ LeadsToRoot Request.small 2 := fun leads => by
      cases leads with
      | beside isBeside _ => cases isBeside
    have four : ¬ LeadsToRoot Request.small 4 := fun leads => by
      cases leads with
      | beside isBeside onward =>
          cases isBeside
          exact two onward
    have hasThree : 3 ∈ active := (onRing 3).2 ⟨by decide, .beside rfl one⟩
    have noTwo : 2 ∉ active := fun inside => two ((onRing 2).1 inside).2
    have noFour : 4 ∉ active := fun inside => four ((onRing 4).1 inside).2
    obtain ⟨after, sixth, behind, -⟩ := next ⟨.null, some 4⟩ (by decide)
    obtain ⟨apart, coversApart, cleanApart⟩ := clean [4, 2] (by decide) (by decide)
    obtain ⟨within, coversWithin, cleanWithin⟩ := clean [4, 3] (by decide) (by decide)
    rw [decide_eq_true (by simp [noTwo, noFour])] at cleanApart
    rw [decide_eq_false (by simp [hasThree])] at cleanWithin
    exact ⟨problem, active, after, apart, within, inOrder, made, headers,
      ⟨(onRing 1).2 ⟨by decide, one⟩, noTwo, hasThree, noFour,
        (onRing 5).2 ⟨by decide, .beside rfl .root⟩⟩,
      sixth, behind, coversApart, cleanApart, coversWithin, cleanWithin⟩
  · obtain ⟨problem, builtAs, -⟩ := exists_builtAs_small
    obtain ⟨-, -, clean⟩ := columns_stand_as_requested.2 builtAs
    obtain ⟨apart, coversApart, cleanApart⟩ := clean [3] (by decide) (by decide)
    obtain ⟨within, coversWithin, cleanWithin⟩ := clean [3, 1] (by decide) (by decide)
    exact ⟨problem, apart, within, builtAs, coversApart, cleanApart, coversWithin, cleanWithin⟩

end ExactCover
