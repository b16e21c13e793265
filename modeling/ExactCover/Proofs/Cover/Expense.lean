import Mathlib.Algebra.BigOperators.Group.List.Basic
import Mathlib.Algebra.GroupWithZero.Nat
import ExactCover.Proofs.Build.Steps
import ExactCover.Proofs.Cover.Nesting

/-!
# What covering costs

An arena counts one update whenever a record is taken out of its column. A row that meets a covered column
has lost all of its records but one, and it loses each of them once, to the first of its columns that is
covered (`Layout.expense_cons`). So covering columns counts the records of all rows met, less one for each
row (`Layout.expense`), and it does not matter in which order the columns are covered.

Putting records back is not counted, and neither is anything else that uncovering does, be it in an arena
with broken rings (`Arena.uncounted_uncover`).

Main statement: `updates_count_rows`.
-/

set_option autoImplicit false

namespace ExactCover

namespace Layout

variable {layout : Layout} {start : Web} {covered : List Nat} {count column : Nat}

/-- The records that rows with a record in one of some columns have beside one record each. -/
def expense (layout : Layout) (columns : List Nat) : Nat :=
  ((layout.rows.filter fun row => row.any (layout.column · ∈ columns)).map (·.length - 1)).sum

/-- It does not matter in which order the columns are. -/
theorem expense_congr {others : List Nat} (same : ∀ column, column ∈ covered ↔ column ∈ others) :
    layout.expense covered = layout.expense others := by
  simp only [expense, same]

/-- What a row costs once one of some columns meets it. -/
def charge (layout : Layout) (columns row : List Nat) : Nat :=
  if row.any (layout.column · ∈ columns) then row.length - 1 else 0

/-- **The cost is made up of what the rows cost.** -/
theorem expense_eq (columns : List Nat) :
    layout.expense columns = (layout.rows.map (layout.charge columns)).sum := by
  rw [expense]
  induction layout.rows with
  | nil => rfl
  | cons row rows ih =>
      rw [List.map_cons, List.sum_cons, ← ih, charge]
      by_cases met : row.any (layout.column · ∈ columns)
      · rw [List.filter_cons, if_pos met, if_pos met, List.map_cons, List.sum_cons]
      · rw [List.filter_cons, if_neg met, if_neg met, Nat.zero_add]

section

variable (sound : layout.Sound count)
include sound

/-- A row is met if one of its records stands in a covered column. -/
theorem any_eq_meets {row : List Nat} (isRow : row ∈ layout.rows) {node : Nat} (inside : node ∈ row) :
    row.any (layout.column · ∈ covered) = layout.meets covered node := by
  have isNode : node ∈ layout.nodes := mem_nodes.2 ⟨row, isRow, inside⟩
  rw [Bool.eq_iff_iff, List.any_eq_true, meets_eq_true]
  simp only [sound.mem_columnsOf isNode, sound.rowOf_eq isRow inside, decide_eq_true_iff]
  constructor
  · rintro ⟨member, inRow, isCovered⟩
    exact ⟨_, isCovered, member, inRow, rfl⟩
  · rintro ⟨_, isCovered, member, inRow, rfl⟩
    exact ⟨member, inRow, isCovered⟩

variable (proper : layout.Proper)
include proper

/-- Covering one more column takes all records but one out of a row that is met for the first time, and
none out of any other row. -/
theorem charge_cons (uncovered : column ∉ covered) {row : List Nat} (isRow : row ∈ layout.rows) :
    layout.charge (column :: covered) row =
      layout.charge covered row + row.countP (· ∈ layout.struck covered column) := by
  have areNodes : ∀ node ∈ row, node ∈ layout.nodes := fun node inside =>
    mem_nodes.2 ⟨row, isRow, inside⟩
  by_cases met : row.any (layout.column · ∈ covered) = true
  · -- A row that is met already has nothing left to lose.
    have further : row.any (layout.column · ∈ column :: covered) = true := by
      rw [List.any_eq_true] at met ⊢
      obtain ⟨node, inside, isCovered⟩ := met
      rw [decide_eq_true_iff] at isCovered
      exact ⟨node, inside, decide_eq_true (List.mem_cons_of_mem _ isCovered)⟩
    have spared : row.countP (· ∈ layout.struck covered column) = 0 := by
      refine List.countP_eq_zero.2 fun node inside isStruck => ?_
      have free := ((sound.mem_struck proper uncovered).1 (of_decide_eq_true isStruck)).2.1
      rw [any_eq_meets sound isRow inside, free] at met
      cases met
    rw [charge, charge, if_pos further, if_pos met, spared, Nat.add_zero]
  · have free : ∀ node ∈ row, layout.meets covered node = false := fun node inside => by
      rw [← any_eq_meets sound isRow inside]
      exact Bool.eq_false_iff.2 met
    rw [charge, charge, if_neg met, Nat.zero_add]
    by_cases first : row.any (layout.column · ∈ column :: covered) = true
    · -- The record in the new column is the only one that stays.
      obtain ⟨own, inside, isCovered⟩ := List.any_eq_true.1 first
      have apart : layout.column own ∉ covered := fun earlier => met
        (List.any_eq_true.2 ⟨own, inside, decide_eq_true earlier⟩)
      have home : layout.column own = column :=
        (List.mem_cons.1 (of_decide_eq_true isCovered)).resolve_right apart
      have lost : ∀ node ∈ row,
          decide (node ∈ layout.struck covered column) = !(layout.column node == column) := by
        intro node isMember
        have meets : column ∈ layout.columnsOf node := by
          rw [sound.mem_columnsOf (areNodes node isMember), sound.rowOf_eq isRow isMember]
          exact ⟨own, inside, home⟩
        rw [Bool.eq_iff_iff, decide_eq_true_iff, sound.mem_struck proper uncovered]
        simp [areNodes node isMember, free node isMember, meets]
      have one : row.countP (layout.column · == column) = 1 := by
        have once := List.count_eq_one_of_mem (proper.apart row isRow)
          (List.mem_map.2 ⟨own, inside, home⟩)
        rwa [List.count, List.countP_map] at once
      have all := List.length_eq_countP_add_countP (layout.column · == column) (l := row)
      rw [if_pos first, List.countP_congr fun node isMember => by rw [lost node isMember]]
      simp only [decide_not, Bool.decide_eq_true] at all
      omega
    · -- No record of the row stands in the new column.
      have spared : row.countP (· ∈ layout.struck covered column) = 0 := by
        refine List.countP_eq_zero.2 fun node inside isStruck => first ?_
        obtain ⟨isNode, -, meets, -⟩ :=
          (sound.mem_struck proper uncovered).1 (of_decide_eq_true isStruck)
        obtain ⟨own, inRow, home⟩ := (sound.mem_columnsOf isNode).1 meets
        rw [sound.rowOf_eq isRow inside] at inRow
        exact List.any_eq_true.2 ⟨own, inRow, decide_eq_true (home ▸ List.mem_cons_self)⟩
      rw [if_neg first, spared]

/-- **Covering one more column costs what it takes out**, which are records that no column took out
before it. -/
theorem expense_cons (uncovered : column ∉ covered) :
    layout.expense (column :: covered) =
      layout.expense covered + (layout.struck covered column).length := by
  have taken : (layout.struck covered column).length =
      layout.nodes.countP (· ∈ layout.struck covered column) := by
    have perm : (layout.struck covered column).Perm
        (layout.nodes.filter (· ∈ layout.struck covered column)) := by
      refine (List.perm_ext_iff_of_nodup (sound.struck_nodup proper covered column)
        (sound.nodes_nodup.filter _)).2 fun node => ?_
      rw [List.mem_filter, decide_eq_true_iff]
      exact ⟨fun isStruck => ⟨((sound.mem_struck proper uncovered).1 isStruck).1, isStruck⟩,
        fun both => both.2⟩
    rw [perm.length_eq, List.countP_eq_length_filter]
  rw [taken, nodes, List.countP_flatten, expense_eq, expense_eq, ← List.sum_map_add]
  congr 1
  exact List.map_congr_left fun row isRow => charge_cons sound proper uncovered isRow

end

/-- **Covering columns one after the other counts what it costs.** -/
theorem covers_expense (proper : layout.Proper) (built : start.Shows layout []) {headers : List Nat}
    (areHeaders : layout.AreHeaders (headers.reverse ++ covered)) (updates : Nat) :
    ∃ more, Arena.play (headers.map .cover) ((layout.web start covered).arena updates) =
        .ok () ((layout.web start (headers.reverse ++ covered)).arena more) ∧
      more + layout.expense covered = updates + layout.expense (headers.reverse ++ covered) := by
  induction headers generalizing covered updates with
  | nil => exact ⟨updates, rfl, rfl⟩
  | cons header headers ih =>
      rw [List.reverse_cons, List.append_assoc, List.singleton_append] at areHeaders ⊢
      have first := areHeaders.of_suffix (List.suffix_append _ _)
      obtain ⟨more, rest, cost⟩ := ih areHeaders (updates + (layout.struck covered header).length)
      refine ⟨more, (bind_of_ok (first.cover proper built updates)).trans rest, ?_⟩
      rw [expense_cons built.sound proper (areHeaders_cons.1 first).2.1] at cost
      omega

end Layout

/-! ## What is not counted -/

namespace Arena

variable {α β : Type}

/-- A computation that counts no update, whether it succeeds or fails. -/
def Uncounted (action : LinkM α) : Prop :=
  ∀ before : Arena, match action before with
    | .ok _ after | .error _ after => after.updates = before.updates

theorem uncounted_pure (answer : α) : Uncounted (pure answer) := fun _ => rfl

theorem uncounted_throw (problem : LinkError) : Uncounted (throw problem : LinkM α) := fun _ => rfl

/-- **What is done one after the other** counts no update if its parts count none. -/
theorem Uncounted.bind {action : LinkM α} {next : α → LinkM β} (first : Uncounted action)
    (rest : ∀ answer, Uncounted (next answer)) : Uncounted (action >>= next) := by
  intro before
  have counted := first before
  simp only [Bind.bind, EStateM.bind]
  cases done : action before with
  | ok answer between =>
      rw [done] at counted
      have further := rest answer between
      rw [counted] at further
      exact further
  | error problem between =>
      rw [done] at counted
      exact counted

theorem uncounted_ask (question : Arena → Except LinkError α) : Uncounted (ask question) := by
  intro before
  rw [ask]
  cases question before <;> rfl

theorem uncounted_change (link : Link) (how : Node → Node) : Uncounted (change link how) := by
  intro before
  rw [change]
  cases before.position link <;> rfl

theorem uncounted_resize (link : Link) (amount : Int) : Uncounted (resize link amount) := by
  apply (uncounted_ask _).bind
  intro node
  cases node.header with
  | none => exact uncounted_throw _
  | some header => exact uncounted_change _ _

theorem uncounted_restore (node : Link) : Uncounted (restore node) :=
  (uncounted_ask _).bind fun _ => (uncounted_change _ _).bind fun _ =>
    (uncounted_ask _).bind fun _ => uncounted_change _ _

theorem uncounted_restoreHeader (header : Link) : Uncounted (restoreHeader header) :=
  (uncounted_ask _).bind fun _ => (uncounted_change _ _).bind fun _ =>
    (uncounted_ask _).bind fun _ => uncounted_change _ _

section

variable {step : Node → Link} {visit : Link → LinkM Unit} (visits : ∀ member, Uncounted (visit member))
include visits

theorem uncounted_walkFrom (start : Link) (fuel : Nat) (current : Link) :
    Uncounted (walkFrom step visit start fuel current) := by
  induction fuel generalizing current with
  | zero => exact uncounted_throw _
  | succ fuel ih =>
      rw [walkFrom]
      split
      · exact uncounted_pure _
      · exact (visits current).bind fun _ => (uncounted_ask _).bind fun node => ih (step node)

/-- A walk counts no update if its visits count none. -/
theorem uncounted_walk (start : Link) : Uncounted (walk step visit start) := by
  apply (uncounted_ask _).bind
  intro first before
  exact uncounted_walkFrom visits start before.walkLimit (step first) before

end

theorem uncounted_restoreMember (node : Link) : Uncounted (restoreMember node) :=
  (uncounted_ask _).bind fun _ => (uncounted_resize _ _).bind fun _ => uncounted_restore node

/-- **Uncovering counts no update.** -/
theorem uncounted_uncover (header : Link) : Uncounted (uncover header) :=
  (uncounted_walk (uncounted_walk uncounted_restoreMember) header).bind fun _ =>
    uncounted_restoreHeader header

end Arena

/-! ## Problems that were built -/

/-- **What covering different columns counts.** Covering them one after the other counts for each row that
has a record in one of them the other records of the row, and so just as much in any other order. Uncovering
a column never counts anything, whatever the arena is like and even if it fails. -/
theorem updates_count_rows {problem : Problem} {layout : Layout} (builtAs : BuiltAs problem layout) :
    (∀ headers : List Nat, headers.Nodup →
      (∀ header ∈ headers, header ∈ layout.headerRings.flatten) →
      ∃ after, Arena.play (headers.map .cover) problem.arena = .ok () after ∧
        after.updates = problem.arena.updates + ((layout.rows.filter fun row =>
          row.any (layout.column · ∈ headers)).map (·.length - 1)).sum ∧
        ∀ others : List Nat, others.Perm headers → ∃ last,
          Arena.play (others.map .cover) problem.arena = .ok () last ∧ last.updates = after.updates) ∧
    ∀ header : Link, Arena.Uncounted (Arena.uncover header) := by
  obtain ⟨web, updates, policy, rfl, shown⟩ := builtAs.shows
  have costs : ∀ headers : List Nat, headers.Nodup →
      (∀ header ∈ headers, header ∈ layout.headerRings.flatten) →
      ∃ after, Arena.play (headers.map .cover) (web.arena updates) = .ok () after ∧
        after.updates = updates + layout.expense headers := by
    intro headers once areHeaders
    have reverse : layout.AreHeaders (headers.reverse ++ []) := by
      rw [List.append_nil]
      exact ⟨List.nodup_reverse.2 once, fun header inside =>
        areHeaders header (List.mem_reverse.1 inside)⟩
    obtain ⟨more, played, cost⟩ := Layout.covers_expense builtAs.proper shown reverse updates
    have free : layout.expense [] = 0 := List.sum_eq_zero fun lost inside => by
      obtain ⟨row, met, -⟩ := List.mem_map.1 inside
      simp at met
    have same : layout.expense (headers.reverse ++ []) = layout.expense headers :=
      Layout.expense_congr fun column => by rw [List.append_nil, List.mem_reverse]
    rw [free, same, Nat.add_zero] at cost
    exact ⟨_, played, cost⟩
  refine ⟨fun headers once areHeaders => ?_, Arena.uncounted_uncover⟩
  obtain ⟨after, played, cost⟩ := costs headers once areHeaders
  refine ⟨after, played, cost, fun others perm => ?_⟩
  obtain ⟨last, playedOthers, cost'⟩ := costs others (perm.nodup_iff.2 once)
    fun header inside => areHeaders header (perm.subset inside)
  refine ⟨last, playedOthers, ?_⟩
  rw [cost, cost', Layout.expense_congr fun column => perm.mem_iff]

/-- Covering the secondary column 3 and then the primary column 1 counts one update for each of the two
rows that meet the secondary column. -/
theorem updates_count_rows_small : ∃ problem after last, BuiltAs problem .small ∧
    Arena.play [.cover 3, .cover 1] problem.arena = .ok () after ∧
    after.updates = problem.arena.updates + 2 ∧
    Arena.play [.cover 1, .cover 3] problem.arena = .ok () last ∧ last.updates = after.updates := by
  obtain ⟨problem, builtAs, -⟩ := exists_builtAs_small
  obtain ⟨after, played, cost, orders⟩ :=
    (@updates_count_rows problem .small builtAs).1 [3, 1] (by decide) (by decide)
  obtain ⟨last, playedOthers, same⟩ := orders [1, 3] (List.Perm.swap 3 1 [])
  exact ⟨problem, after, last, builtAs, played, cost, playedOthers, same⟩

end ExactCover
