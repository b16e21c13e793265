import ExactCover.Arena.Cover
import ExactCover.Proofs.Arena.Thread

/-!
# Webs

A web is an arena told by functions: for every record its neighbours on the two threads that run
through it, its column, its name and its size. `Web.arena` lays a web out as the list of records
that the program works on.

Every splice of an arena is one change of the functions, provided that the links it follows lead to
records (`hide_arena`, `restore_arena`, `hideHeader_arena`, `restoreHeader_arena`, `insert_arena`,
`append_arena`). So reasoning about covering and building is reasoning about threads.
-/

set_option autoImplicit false

namespace ExactCover

open Function

/-- Running on after a computation that has succeeded. -/
theorem bind_of_ok {ε σ α β : Type} {first : EStateM ε σ α} {then' : α → EStateM ε σ β}
    {before after : σ} {answer : α} (succeeds : first before = .ok answer after) :
    (first >>= then') before = then' answer after := by
  change EStateM.bind first then' before = _
  simp only [EStateM.bind, succeeds]

/-- Nothing runs on after a computation that has failed. -/
theorem bind_of_error {ε σ α β : Type} {first : EStateM ε σ α} {then' : α → EStateM ε σ β}
    {before after : σ} {problem : ε} (fails : first before = .error problem after) :
    (first >>= then') before = .error problem after := by
  change EStateM.bind first then' before = _
  simp only [EStateM.bind, fails]

/-- What succeeds one after the other succeeds in both parts. -/
theorem of_bind {ε σ α β : Type} {action : EStateM ε σ α} {next : α → EStateM ε σ β}
    {before after : σ} {answer : β} (succeeds : (action >>= next) before = .ok answer after) :
    ∃ between middle, action before = .ok between middle ∧ next between middle = .ok answer after := by
  simp only [Bind.bind, EStateM.bind] at succeeds
  cases done : action before with
  | error problem broken =>
      rw [done] at succeeds
      cases succeeds
  | ok between middle =>
      rw [done] at succeeds
      exact ⟨between, middle, rfl, succeeds⟩

/-- What succeeds one after the other succeeds in both parts, where nothing is changed. -/
theorem ok_of_bind {ε α β : Type} {result : Except ε α} {next : α → Except ε β} {answer : β}
    (succeeds : result >>= next = .ok answer) :
    ∃ between, result = .ok between ∧ next between = .ok answer := by
  cases result with
  | error problem => cases succeeds
  | ok between => exact ⟨between, rfl, succeeds⟩

/-- Reading the items of a list, none of which fails. -/
theorem mapM_of_ok {ε α β : Type} {read : α → Except ε β} {answer : α → β} {items : List α}
    (reads : ∀ item ∈ items, read item = .ok (answer item)) :
    items.mapM read = .ok (items.map answer) := by
  induction items with
  | nil => rfl
  | cons item items ih =>
      have others := ih fun other inside => reads other (List.mem_cons_of_mem _ inside)
      rw [List.mapM_cons, reads item List.mem_cons_self, others]
      rfl

/-- What is read off some items is read off one of them. -/
theorem mem_iff_of_mapM {ε α β : Type} {read : α → Except ε β} {items : List α} {answers : List β}
    (all : items.mapM read = .ok answers) {answer : β} :
    answer ∈ answers ↔ ∃ item ∈ items, read item = .ok answer := by
  induction items generalizing answers with
  | nil =>
      cases all
      simp
  | cons item items ih =>
      rw [List.mapM_cons] at all
      cases first : read item with
      | error fault =>
          rw [first] at all
          cases all
      | ok own =>
          cases rest : items.mapM read with
          | error fault =>
              rw [first, rest] at all
              cases all
          | ok others =>
              rw [first, rest] at all
              cases all
              simp [ih rest, first, eq_comm]

/-- Checks none of which fails. -/
theorem forM_of_ok {ε α : Type} {check : α → Except ε Unit} {items : List α}
    (passes : ∀ item ∈ items, check item = .ok ()) : items.forM check = .ok () := by
  induction items with
  | nil => rfl
  | cons item items ih =>
      have others := ih fun other isOther => passes other (List.mem_cons_of_mem _ isOther)
      rw [List.forM_eq_forM] at others ⊢
      rw [List.forM_cons, passes item List.mem_cons_self]
      exact others

/-- Asking a question. -/
theorem Arena.ask_of_ok {α : Type} {question : Arena → Except LinkError α} {arena : Arena}
    {answer : α} (answered : question arena = .ok answer) :
    Arena.ask question arena = .ok answer arena := by
  simp only [Arena.ask, answered]

/-- Only the numbers of records lead to records. -/
theorem Arena.lt_size_of_record {arena : Arena} {place : Nat} {node : Node}
    (found : arena.record (.record place) = .ok node) : place < arena.size := by
  by_contra outside
  have notNegative : ¬ ((place : Int) < 0) := by omega
  have tooLarge : ¬ (0 ≤ (place : Int) ∧ (place : Int) < arena.size) := by omega
  have nowhere : ∃ problem, arena.position (.record place) = .error problem := by
    simp only [Arena.position, Link.position, Link.place, if_neg notNegative, if_neg tooLarge]
    split
    · exact ⟨_, rfl⟩
    · exact ⟨_, rfl⟩
  obtain ⟨problem, nothing⟩ := nowhere
  simp [Arena.record, nothing] at found

/-- An arena told by functions. -/
structure Web where
  count : Nat
  /-- The name of a column; a record that is no column has none. -/
  name? : Nat → Option Value
  /-- From left to right. -/
  across : Thread
  /-- From top to bottom. -/
  along : Thread
  column : Nat → Int
  size : Nat → Int

namespace Web

variable (web : Web) {updates : Nat}

/-- A record of a web. -/
def node (web : Web) (place : Nat) : Node :=
  { left := .record (web.across.prev place)
    right := .record (web.across.next place)
    up := .record (web.along.prev place)
    down := .record (web.along.next place)
    column := .record (web.column place)
    header := (web.name? place).map fun name => ⟨name, web.size place⟩ }

/-- The records of a web, with the number of updates made so far. -/
def arena (web : Web) (updates : Nat) : Arena :=
  ⟨Array.ofFn fun place : Fin web.count => web.node place, updates⟩

@[simp] theorem size_arena : (web.arena updates).size = web.count := by
  simp [arena, Arena.size]

theorem position_arena {place : Nat} (inside : place < web.count) :
    (web.arena updates).position (.record place) = .ok place :=
  Arena.position_record (by simpa using inside)

theorem record_arena {place : Nat} (inside : place < web.count) :
    (web.arena updates).record (.record place) = .ok (web.node place) := by
  simp only [Arena.record, web.position_arena inside]
  simp [arena, inside]

theorem read_arena {place : Nat} (inside : place < web.count) :
    Arena.read (.record place) (web.arena updates) =
      .ok (web.node place) (web.arena updates) := by
  simp only [Arena.read, Arena.ask, web.record_arena inside]

/-- Changing one record of a web gives the web that differs in this record. -/
theorem change_arena {after : Web} {place : Nat} {how : Node → Node} (inside : place < web.count)
    (sameCount : after.count = web.count)
    (nodes : ∀ other,
      after.node other = if other = place then how (web.node other) else web.node other) :
    Arena.change (.record place) how (web.arena updates) = .ok () (after.arena updates) := by
  simp only [Arena.change, web.position_arena inside]
  congr 1
  simp only [arena, Arena.mk.injEq, and_true]
  refine Array.ext (by simp [sameCount]) ?_
  intro other before _
  rw [Array.getElem_modify]
  simp only [Array.getElem_ofFn, nodes, @eq_comm _ place]

/-! ## Changing one link -/

/-- A web with another link to the right. -/
def setRight (web : Web) (place target : Nat) : Web :=
  { web with across := ⟨update web.across.next place target, web.across.prev⟩ }

/-- A web with another link to the left. -/
def setLeft (web : Web) (place target : Nat) : Web :=
  { web with across := ⟨web.across.next, update web.across.prev place target⟩ }

/-- A web with another link down. -/
def setDown (web : Web) (place target : Nat) : Web :=
  { web with along := ⟨update web.along.next place target, web.along.prev⟩ }

/-- A web with another link up. -/
def setUp (web : Web) (place target : Nat) : Web :=
  { web with along := ⟨web.along.next, update web.along.prev place target⟩ }

/-- The size of a column changed. -/
def resize (web : Web) (header : Nat) (amount : Int) : Web :=
  { web with size := update web.size header (web.size header + amount) }

theorem change_right {place : Nat} (inside : place < web.count) (target : Nat) :
    Arena.change (.record place) ({ · with right := .record target }) (web.arena updates) =
      .ok () ((web.setRight place target).arena updates) := by
  refine web.change_arena inside rfl ?_
  intro other
  by_cases same : other = place <;> simp [setRight, node, same]

theorem change_left {place : Nat} (inside : place < web.count) (target : Nat) :
    Arena.change (.record place) ({ · with left := .record target }) (web.arena updates) =
      .ok () ((web.setLeft place target).arena updates) := by
  refine web.change_arena inside rfl ?_
  intro other
  by_cases same : other = place <;> simp [setLeft, node, same]

theorem change_down {place : Nat} (inside : place < web.count) (target : Nat) :
    Arena.change (.record place) ({ · with down := .record target }) (web.arena updates) =
      .ok () ((web.setDown place target).arena updates) := by
  refine web.change_arena inside rfl ?_
  intro other
  by_cases same : other = place <;> simp [setDown, node, same]

theorem change_up {place : Nat} (inside : place < web.count) (target : Nat) :
    Arena.change (.record place) ({ · with up := .record target }) (web.arena updates) =
      .ok () ((web.setUp place target).arena updates) := by
  refine web.change_arena inside rfl ?_
  intro other
  by_cases same : other = place <;> simp [setUp, node, same]

theorem resize_arena {header : Nat} (inside : header < web.count)
    (named : (web.name? header).isSome) (amount : Int) :
    Arena.resize (.record header) amount (web.arena updates) =
      .ok () ((web.resize header amount).arena updates) := by
  obtain ⟨name, isName⟩ := Option.isSome_iff_exists.1 named
  refine (bind_of_ok (web.read_arena inside)).trans ?_
  have found : (web.node header).header = some ⟨name, web.size header⟩ := by
    simp [node, isName]
  simp only [found]
  refine web.change_arena inside rfl ?_
  intro other
  by_cases same : other = header <;> simp [resize, node, same, isName]

/-! ## Splices -/

/-- A record taken out of its column. -/
def hide (web : Web) (node : Nat) : Web := { web with along := web.along.unlink node }

/-- A record put back into its column. -/
def restore (web : Web) (node : Nat) : Web := { web with along := web.along.relink node }

/-- A column taken out of its horizontal ring. -/
def hideHeader (web : Web) (header : Nat) : Web := { web with across := web.across.unlink header }

/-- A column put back into its horizontal ring. -/
def restoreHeader (web : Web) (header : Nat) : Web :=
  { web with across := web.across.relink header }

/-- A record put behind another one on its horizontal ring. -/
def insert (web : Web) (place node : Nat) : Web :=
  { web with across := web.across.link place node }

/-- A record put at the bottom of a column. -/
def append (web : Web) (header node : Nat) : Web :=
  { web with
    along := web.along.link (web.along.prev header) node
    column := update web.column node header
    size := update web.size header (web.size header + 1) }

theorem hide_arena {node : Nat} (inside : node < web.count)
    (upInside : web.along.prev node < web.count) (downInside : web.along.next node < web.count) :
    Arena.hide (.record node) (web.arena updates) = .ok () ((web.hide node).arena updates) := by
  refine (bind_of_ok (web.read_arena inside)).trans ?_
  refine (bind_of_ok (web.change_down upInside (web.along.next node))).trans ?_
  exact (web.setDown _ _).change_up downInside (web.along.prev node)

theorem hideHeader_arena {header : Nat} (inside : header < web.count)
    (leftInside : web.across.prev header < web.count)
    (rightInside : web.across.next header < web.count) :
    Arena.hideHeader (.record header) (web.arena updates) =
      .ok () ((web.hideHeader header).arena updates) := by
  refine (bind_of_ok (web.read_arena inside)).trans ?_
  refine (bind_of_ok (web.change_right leftInside (web.across.next header))).trans ?_
  exact (web.setRight _ _).change_left rightInside (web.across.prev header)

theorem restore_arena {node : Nat} (inside : node < web.count)
    (upInside : web.along.prev node < web.count) (downInside : web.along.next node < web.count) :
    Arena.restore (.record node) (web.arena updates) =
      .ok () ((web.restore node).arena updates) := by
  let half := web.setDown (web.along.prev node) node
  have halfInside : half.along.next node < half.count := by
    change update web.along.next (web.along.prev node) node node < web.count
    rw [update_apply]
    split <;> assumption
  refine (bind_of_ok (web.read_arena inside)).trans ?_
  refine (bind_of_ok (web.change_down upInside node)).trans ?_
  refine (bind_of_ok (half.read_arena inside)).trans ?_
  exact half.change_up halfInside node

theorem restoreHeader_arena {header : Nat} (inside : header < web.count)
    (leftInside : web.across.prev header < web.count)
    (rightInside : web.across.next header < web.count) :
    Arena.restoreHeader (.record header) (web.arena updates) =
      .ok () ((web.restoreHeader header).arena updates) := by
  let half := web.setRight (web.across.prev header) header
  have halfInside : half.across.next header < half.count := by
    change update web.across.next (web.across.prev header) header header < web.count
    rw [update_apply]
    split <;> assumption
  refine (bind_of_ok (web.read_arena inside)).trans ?_
  refine (bind_of_ok (web.change_right leftInside header)).trans ?_
  refine (bind_of_ok (half.read_arena inside)).trans ?_
  exact half.change_left halfInside header

theorem insert_arena {place node : Nat} (placeInside : place < web.count)
    (inside : node < web.count) (rightInside : web.across.next place < web.count) :
    Arena.insert (.record place) (.record node) (web.arena updates) =
      .ok (.record node) ((web.insert place node).arena updates) := by
  let first := web.setLeft (web.across.next place) node
  let second := first.setRight node (web.across.next place)
  let third := second.setLeft node place
  refine (bind_of_ok (web.read_arena placeInside)).trans ?_
  refine (bind_of_ok (web.change_left rightInside node)).trans ?_
  refine (bind_of_ok (first.change_right inside (web.across.next place))).trans ?_
  refine (bind_of_ok (second.change_left inside place)).trans ?_
  exact bind_of_ok (third.change_right placeInside node)

theorem append_arena {header node : Nat} (headerInside : header < web.count)
    (inside : node < web.count) (named : (web.name? header).isSome)
    (bottomInside : web.along.prev header < web.count)
    (closed : web.along.next (web.along.prev header) = header) (different : header ≠ node) :
    Arena.append (.record header) (.record node) (web.arena updates) =
      .ok (.record node) ((web.append header node).arena updates) := by
  let bottom := web.along.prev header
  let first := web.resize header 1
  let second : Web :=
    { first with
      along := ⟨update web.along.next node header, update web.along.prev node bottom⟩
      column := update web.column node header }
  let third := second.setDown bottom node
  have attached : Arena.change (.record node)
      (fun record => { record with
        column := .record header, down := .record header, up := .record bottom })
      (first.arena updates) = .ok () (second.arena updates) := by
    refine first.change_arena inside rfl ?_
    intro other
    by_cases same : other = node <;> simp [first, second, resize, Web.node, same]
  have outcome : third.setUp header node = web.append header node := by
    simp only [third, second, first, setUp, setDown, resize, append, Thread.link, bottom, closed]
    rw [update_comm different]
  rw [← outcome]
  refine (bind_of_ok (web.read_arena headerInside)).trans ?_
  refine (bind_of_ok (web.resize_arena headerInside named 1)).trans ?_
  refine (bind_of_ok attached).trans ?_
  refine (bind_of_ok (second.change_down bottomInside node)).trans ?_
  exact bind_of_ok (third.change_up headerInside node)

/-! ## New records -/

/-- A web with one more record, which is alone on both of its rings and stands in no column. -/
def addNode (web : Web) : Web :=
  { web with
    count := web.count + 1
    name? := update web.name? web.count none
    across := ⟨update web.across.next web.count web.count, update web.across.prev web.count web.count⟩
    along := ⟨update web.along.next web.count web.count, update web.along.prev web.count web.count⟩
    column := update web.column web.count (-1) }

/-- A web with one more column. -/
def addHeader (web : Web) (name : Value) : Web :=
  { count := web.count + 1
    name? := update web.name? web.count (some name)
    across := ⟨update web.across.next web.count web.count, update web.across.prev web.count web.count⟩
    along := ⟨update web.along.next web.count web.count, update web.along.prev web.count web.count⟩
    column := update web.column web.count web.count
    size := update web.size web.count 0 }

/-- The arena of a web with one more record. -/
theorem arena_push (after : Web) (counted : after.count = web.count + 1)
    (nodes : ∀ place, place < web.count → after.node place = web.node place) :
    after.arena updates = ⟨(web.arena updates).nodes.push (after.node web.count), updates⟩ := by
  simp only [arena, Arena.mk.injEq, and_true]
  refine Array.ext (by simp [counted]) ?_
  intro place before _
  rw [Array.getElem_push]
  split
  · rename_i old
    simpa using nodes place (by simpa using old)
  · rename_i new
    have : place = web.count := by
      simp only [Array.size_ofFn, counted] at before new
      omega
    simp [this]

theorem newNode_arena :
    Arena.newNode (web.arena updates) = .ok (.record web.count) (web.addNode.arena updates) := by
  have old : ∀ place, place < web.count → web.addNode.node place = web.node place := by
    intro place inside
    simp [addNode, node, update_of_ne (Nat.ne_of_lt inside)]
  rw [Arena.newNode_eq, size_arena, web.arena_push web.addNode rfl old]
  simp [addNode, node, arena]

theorem newHeader_arena (name : Value) :
    Arena.newHeader name (web.arena updates) =
      .ok (.record web.count) ((web.addHeader name).arena updates) := by
  have old : ∀ place, place < web.count → (web.addHeader name).node place = web.node place := by
    intro place inside
    simp [addHeader, node, update_of_ne (Nat.ne_of_lt inside)]
  simp only [Arena.newHeader, size_arena]
  rw [web.arena_push (web.addHeader name) rfl old]
  simp [addHeader, node, arena]

end Web

end ExactCover
