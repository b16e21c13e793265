import ExactCover.Proofs.Build.Steps
import ExactCover.Proofs.Layout.Trail

/-!
# Nested covers

Columns may be covered and uncovered in any order in which every uncover takes back the latest cover
that still stands (`Layout.Nested`). Where a sequence of such moves leads depends only on the columns
that are covered in the end (`play_web`): the same columns covered in the same order leave the same
links and sizes, those of the records that are out of their rings included, whatever was covered and
uncovered on the way.

So moves that end with the columns they began with restore every record (`nested_moves_restore`).
-/

set_option autoImplicit false

namespace ExactCover

/-- Covering or uncovering a column. -/
inductive Move where
  | cover (column : Nat)
  | uncover (column : Nat)

namespace Arena

/-- Does one move. -/
def move : Move → LinkM Unit
  | .cover column => cover (.record column)
  | .uncover column => uncover (.record column)

/-- Does moves one after the other. -/
def play : List Move → LinkM Unit
  | [] => pure ()
  | first :: rest => do
      move first
      play rest

end Arena

namespace Layout

variable {layout : Layout} {start : Web} {covered between final : List Nat} {moves : List Move}

/-- Moves that are nested, with the columns covered before and after them, the latest first. The root may
be among the columns. -/
inductive Nested (layout : Layout) : List Nat → List Move → List Nat → Prop
  /-- Nothing is done. -/
  | done {covered : List Nat} : Nested layout covered [] covered
  /-- A column that is not covered is covered. -/
  | cover {covered final : List Nat} {column : Nat} {moves : List Move} :
      column ∈ layout.headerRings.flatten → column ∉ covered →
      Nested layout (column :: covered) moves final →
      Nested layout covered (.cover column :: moves) final
  /-- The column that was covered last is uncovered. -/
  | uncover {covered final : List Nat} {column : Nat} {moves : List Move} :
      Nested layout covered moves final →
      Nested layout (column :: covered) (.uncover column :: moves) final

/-- Columns are covered one after the other. -/
theorem nested_covers {headers : List Nat}
    (areHeaders : layout.AreHeaders (headers.reverse ++ covered)) :
    layout.Nested covered (headers.map .cover) (headers.reverse ++ covered) := by
  induction headers generalizing covered with
  | nil => exact .done
  | cons header headers ih =>
      rw [List.reverse_cons, List.append_assoc, List.singleton_append] at areHeaders ⊢
      obtain ⟨isHeader, uncovered, -⟩ :=
        areHeaders_cons.1 (areHeaders.of_suffix (List.suffix_append _ _))
      exact .cover isHeader uncovered (ih areHeaders)

/-- They are uncovered from the latest to the first. -/
theorem nested_uncovers (headers : List Nat) :
    layout.Nested (headers ++ covered) (headers.map .uncover) covered := by
  induction headers with
  | nil => exact .done
  | cons header headers ih => exact .uncover ih

section

variable (proper : layout.Proper) (built : start.Shows layout [])
include proper built

/-- **Nested moves lead to the web of the columns that are covered in the end.** -/
theorem play_web (nested : layout.Nested covered moves final)
    (areHeaders : layout.AreHeaders covered) (updates : Nat) :
    ∃ more, Arena.play moves ((layout.web start covered).arena updates) =
      .ok () ((layout.web start final).arena more) := by
  induction nested generalizing updates with
  | done => exact ⟨updates, rfl⟩
  | cover isHeader uncovered _ ih =>
      have further := areHeaders_cons.2 ⟨isHeader, uncovered, areHeaders⟩
      obtain ⟨more, rest⟩ := ih further _
      exact ⟨more, (bind_of_ok (further.cover proper built updates)).trans rest⟩
  | uncover _ ih =>
      obtain ⟨more, rest⟩ := ih (areHeaders_cons.1 areHeaders).2.2 updates
      exact ⟨more, (bind_of_ok (areHeaders.uncover proper built updates)).trans rest⟩

/-- Different columns are covered one after the other. -/
theorem covers_web {headers : List Nat} (areHeaders : layout.AreHeaders headers.reverse)
    (updates : Nat) :
    ∃ more, Arena.play (headers.map .cover) (start.arena updates) =
      .ok () ((layout.web start headers.reverse).arena more) := by
  have covers := @nested_covers layout [] headers (by rwa [List.append_nil])
  rw [List.append_nil] at covers
  exact play_web proper built covers ⟨List.nodup_nil, by simp⟩ updates

end

end Layout

/-! ## Problems that were built -/

/-- **Uncovering undoes covering exactly.** Different columns are covered one after the other, on the ring
of the root or not; even the root itself may be among them. Then covering one more column and uncovering
it leaves every record as it was, and so do any nested moves that end with the same columns covered.
Nested moves that end with no column covered, such as uncovering the columns from the latest to the first,
leave every record as it was in the beginning. -/
theorem nested_moves_restore {problem : Problem} {layout : Layout}
    (builtAs : BuiltAs problem layout) {headers : List Nat} (once : headers.Nodup)
    (areHeaders : ∀ header ∈ headers, header ∈ layout.headerRings.flatten) :
    ∃ reached, Arena.play (headers.map .cover) problem.arena = .ok () reached ∧
      (∀ header ∈ layout.headerRings.flatten, header ∉ headers → ∃ covered restored,
        Arena.cover (.record header) reached = .ok () covered ∧
          Arena.uncover (.record header) covered = .ok () restored ∧
            restored.nodes = reached.nodes) ∧
      (∀ moves, layout.Nested headers.reverse moves headers.reverse → ∃ restored,
        Arena.play moves reached = .ok () restored ∧ restored.nodes = reached.nodes) ∧
      (∀ moves, layout.Nested headers.reverse moves [] → ∃ restored,
        Arena.play moves reached = .ok () restored ∧ restored.nodes = problem.arena.nodes) ∧
      ∃ restored, Arena.play (headers.reverse.map .uncover) reached = .ok () restored ∧
        restored.nodes = problem.arena.nodes := by
  obtain ⟨web, updates, policy, rfl, shown⟩ := builtAs.shows
  have proper := builtAs.proper
  have reverse : layout.AreHeaders headers.reverse :=
    ⟨List.nodup_reverse.2 once, fun header inside => areHeaders header (List.mem_reverse.1 inside)⟩
  obtain ⟨spent, reached⟩ := Layout.covers_web proper shown reverse updates
  have ends : ∀ {final : List Nat} {moves : List Move},
      layout.Nested headers.reverse moves final → ∃ more,
        Arena.play moves ((layout.web web headers.reverse).arena spent) =
          .ok () ((layout.web web final).arena more) := fun nested =>
    Layout.play_web proper shown nested reverse spent
  refine ⟨_, reached, ?_, ?_, ?_, ?_⟩
  · intro header isHeader fresh
    have uncovered : header ∉ headers.reverse := fun inside => fresh (List.mem_reverse.1 inside)
    have further := Layout.areHeaders_cons.2 ⟨isHeader, uncovered, reverse⟩
    exact ⟨_, _, further.cover proper shown spent, further.uncover proper shown _, rfl⟩
  · intro moves nested
    obtain ⟨more, played⟩ := ends nested
    exact ⟨_, played, rfl⟩
  · intro moves nested
    obtain ⟨more, played⟩ := ends nested
    exact ⟨_, played, rfl⟩
  · have uncovers := @Layout.nested_uncovers layout [] headers.reverse
    rw [List.append_nil] at uncovers
    obtain ⟨more, played⟩ := ends uncovers
    exact ⟨_, played, rfl⟩

/-- The secondary column 3 is covered, then the primary column 1. The column 2 is covered and uncovered
between the two uncovers that take them back. -/
theorem nested_moves_restore_small : ∃ problem reached restored, BuiltAs problem .small ∧
    Arena.play [.cover 3, .cover 1] problem.arena = .ok () reached ∧
    Arena.play [.uncover 1, .cover 2, .uncover 2, .uncover 3] reached = .ok () restored ∧
    restored.nodes = problem.arena.nodes := by
  obtain ⟨problem, builtAs, -⟩ := exists_builtAs_small
  obtain ⟨reached, covers, -, -, back, -⟩ :=
    @nested_moves_restore problem .small builtAs [3, 1] (by decide) (by decide)
  obtain ⟨restored, played, same⟩ := back [.uncover 1, .cover 2, .uncover 2, .uncover 3]
    (.uncover (.cover (by decide) (by decide) (.uncover (.uncover .done))))
  exact ⟨problem, reached, restored, builtAs, covers, played, same⟩

end ExactCover
