import Mathlib.Data.List.Nodup
import Mathlib.Data.List.Perm.Subperm
import ExactCover.Proofs.Arena.Web

/-!
# Walks along rings

The loops of an arena follow one kind of link until they are back where they began, and change the
arena on the way. If the thread that is followed stays one ring through all these changes, the loop
visits the members of the ring one after the other, and it ends long before its limit (`walk_ring`).
Where nothing changes, the loop lists the ring (`ring_arena`).
-/

set_option autoImplicit false

namespace ExactCover

namespace Thread

variable {thread : Thread}

/-- The first step of a ring. -/
theorem Ring.next_first {first : Nat} {rest : List Nat} (ring : thread.Ring (first :: rest)) :
    thread.next first = rest.headD first := by
  cases rest with
  | nil => exact (path_cons_cons.1 ring).1.1
  | cons second rest => exact (path_cons_cons.1 ring).1.1

/-- The last step of a ring leads to its beginning. -/
theorem Ring.prev_first {first : Nat} {rest : List Nat} (ring : thread.Ring (first :: rest)) :
    thread.prev first = rest.getLastD first := by
  have back := (Ring.flip ring).next_first
  rw [List.headD_eq_head?_getD, List.head?_reverse] at back
  rw [List.getLastD_eq_getLast?]
  exact back

/-- Every other step of a ring. -/
theorem Ring.next_of_append {first current : Nat} {done rest : List Nat}
    (ring : thread.Ring (first :: (done ++ current :: rest))) :
    thread.next current = rest.headD first := by
  have path : thread.Path ((first :: done) ++ current :: (rest ++ [first])) := by
    simpa [Ring] using ring
  have onward := (path_split.1 path).2
  cases rest with
  | nil => exact (path_cons_cons.1 onward).1.1
  | cons second rest => exact (path_cons_cons.1 onward).1.1

/-- A record that is put in before the first one of a ring comes last. -/
theorem Ring.link_last {first new : Nat} {rest : List Nat} (ring : thread.Ring (first :: rest))
    (once : (first :: rest).Nodup) (fresh : new ∉ first :: rest) :
    (thread.link (thread.prev first) new).Ring (first :: (rest ++ [new])) := by
  rw [ring.prev_first]
  cases rest using List.reverseRecOn with
  | nil => exact @Ring.link thread [] [] first new ring once fresh
  | append_singleton front last =>
      have behind : first :: (front ++ [last] ++ [new]) = (first :: front) ++ last :: new :: [] := by
        simp
      rw [List.getLastD_concat, behind]
      exact @Ring.link thread (first :: front) [] last new ring once fresh

end Thread

/-- Different numbers below a bound are at most so many. -/
theorem length_le_of_nodup_of_lt {members : List Nat} {bound : Nat} (once : members.Nodup)
    (inside : ∀ member ∈ members, member < bound) : members.length ≤ bound := by
  have contained : members ⊆ List.range bound := fun member here =>
    List.mem_range.2 (inside member here)
  simpa using (once.subperm contained).length_le

/-- Links to records are one link if they lead to one record. -/
theorem same_place (one other : Nat) :
    Link.same (.record one) (.record other) = decide (one = other) := by
  rw [Link.same_record]
  exact decide_eq_decide.2 Int.ofNat_inj

namespace Web

variable {step : Node → Link} (line : Web → Thread)

/-- A loop from the middle of a ring. `done` holds the members that were visited before. -/
theorem walkFrom_ring
    (reads : ∀ web place, step (web.node place) = .record ((line web).next place))
    {visit : Link → LinkM Unit} {start count : Nat} {members : List Nat}
    (after : List Nat → Web) (spent : List Nat → Nat)
    (counted : ∀ done, (after done).count = count)
    (ring : ∀ done, done <+: members → (line (after done)).Ring (start :: members))
    (once : (start :: members).Nodup) (inside : ∀ member ∈ members, member < count)
    (visited : ∀ (done : List Nat) (current : Nat) (rest : List Nat), members = done ++ current :: rest →
      visit (.record current) ((after done).arena (spent done)) =
        .ok () ((after (done ++ [current])).arena (spent (done ++ [current]))))
    (done rest : List Nat) (split : members = done ++ rest) (fuel : Nat)
    (enough : rest.length < fuel) :
    Arena.walkFrom step visit (.record start) fuel (.record (rest.headD start))
        ((after done).arena (spent done)) =
      .ok () ((after members).arena (spent members)) := by
  induction rest generalizing done fuel with
  | nil =>
      cases fuel with
      | zero => omega
      | succ fuel =>
          have all : members = done := by simpa using split
          simp [Arena.walkFrom, all, pure, EStateM.pure]
  | cons current rest ih =>
      cases fuel with
      | zero => omega
      | succ fuel =>
          have different : current ≠ start := by
            rintro rfl
            exact (List.nodup_cons.1 once).1 (by simp [split])
          have here : current < (after (done ++ [current])).count := by
            rw [counted]
            exact inside current (by simp [split])
          have moved : step ((after (done ++ [current])).node current) =
              .record (rest.headD start) := by
            have turned := ring (done ++ [current]) ⟨rest, by simp [split]⟩
            rw [split] at turned
            rw [reads, turned.next_of_append]
          have onward := ih (done ++ [current]) (by simp [split]) fuel (by simpa using enough)
          have apart : ¬ Link.same (.record current) (.record start) = true := by
            rw [same_place, decide_eq_true_iff]
            exact different
          rw [List.headD_cons, Arena.walkFrom, if_neg apart]
          refine (bind_of_ok (visited done current rest split)).trans ?_
          refine (bind_of_ok ((after (done ++ [current])).read_arena here)).trans ?_
          rw [moved]
          exact onward

/-- **A loop visits the members of its ring**, if the ring stays as it is. `after` and `spent` tell
the web and the updates after each part of the way. -/
theorem walk_ring
    (reads : ∀ web place, step (web.node place) = .record ((line web).next place))
    {visit : Link → LinkM Unit} {start count : Nat} {members : List Nat}
    (after : List Nat → Web) (spent : List Nat → Nat)
    (counted : ∀ done, (after done).count = count)
    (ring : ∀ done, done <+: members → (line (after done)).Ring (start :: members))
    (once : (start :: members).Nodup) (inside : ∀ member ∈ start :: members, member < count)
    (visited : ∀ (done : List Nat) (current : Nat) (rest : List Nat), members = done ++ current :: rest →
      visit (.record current) ((after done).arena (spent done)) =
        .ok () ((after (done ++ [current])).arena (spent (done ++ [current])))) :
    Arena.walk step visit (.record start) ((after []).arena (spent [])) =
      .ok () ((after members).arena (spent members)) := by
  have here : start < (after []).count := by
    rw [counted]
    exact inside start (by simp)
  have others : ∀ member ∈ members, member < count := fun member within =>
    inside member (List.mem_cons_of_mem _ within)
  have short : members.length ≤ count :=
    length_le_of_nodup_of_lt (List.nodup_cons.1 once).2 others
  have first : step ((after []).node start) = .record (members.headD start) := by
    rw [reads, (ring [] List.nil_prefix).next_first]
  unfold Arena.walk
  refine (bind_of_ok ((after []).read_arena here)).trans ?_
  rw [first]
  refine walkFrom_ring line reads after spent counted ring once others visited [] members rfl _ ?_
  simp only [Arena.walkLimit, size_arena, counted]
  exact Nat.lt_of_lt_of_le (by omega) (Nat.le_mul_self (count + 2))

/-- **A loop round a ring the other way undoes step by step what `before` tells of the way there**, if
the ring stays as it is. -/
theorem walk_ring_back
    (reads : ∀ web place, step (web.node place) = .record ((line web).flip.next place))
    {visit : Link → LinkM Unit} {start count updates : Nat} {members : List Nat}
    (before : List Nat → Web) (counted : ∀ done, (before done).count = count)
    (ring : ∀ done, done <+: members → (line (before done)).Ring (start :: members))
    (once : (start :: members).Nodup) (inside : ∀ member ∈ start :: members, member < count)
    (visited : ∀ (done : List Nat) (current : Nat) (rest : List Nat),
      members = done ++ current :: rest →
        visit (.record current) ((before (done ++ [current])).arena updates) =
          .ok () ((before done).arena updates)) :
    Arena.walk step visit (.record start) ((before members).arena updates) =
      .ok () ((before []).arena updates) := by
  let after : List Nat → Web := fun done => before (members.take (members.length - done.length))
  have left : ∀ done rest, members.reverse = done ++ rest →
      members = rest.reverse ++ done.reverse ∧
        members.take (members.length - done.length) = rest.reverse := by
    intro done rest split
    have turned : members = rest.reverse ++ done.reverse := by
      rw [← List.reverse_append, ← split, List.reverse_reverse]
    refine ⟨turned, ?_⟩
    rw [turned, List.take_left' (by simp)]
  have whole := @walk_ring step (fun web => (line web).flip) reads visit start count
    members.reverse after (fun _ => updates) (fun _ => counted _) ?_ ?_ ?_ ?_
  · simpa [after] using whole
  · intro done _
    exact Thread.Ring.flip (ring _ (List.take_prefix _ _))
  · simpa [List.nodup_reverse] using once
  · simpa using inside
  · intro done current rest split
    obtain ⟨turned, here⟩ := left done (current :: rest) split
    obtain ⟨-, there⟩ := left (done ++ [current]) rest (by simpa using split)
    simp only [after, here, there, List.reverse_cons]
    refine visited rest.reverse current done.reverse ?_
    rw [turned]
    simp

/-- A ring read from its middle on. -/
theorem ringFrom_arena
    (reads : ∀ web place, step (web.node place) = .record ((line web).next place))
    {web : Web} {updates start : Nat} {members : List Nat}
    (ring : (line web).Ring (start :: members)) (once : (start :: members).Nodup)
    (inside : ∀ member ∈ members, member < web.count) (done rest : List Nat)
    (split : members = done ++ rest) (fuel : Nat) (enough : rest.length < fuel) :
    Arena.ringFrom (web.arena updates) step (.record start) fuel (.record (rest.headD start)) =
      .ok (rest.map fun member : Nat => Link.record member) := by
  induction rest generalizing done fuel with
  | nil =>
      cases fuel with
      | zero => omega
      | succ fuel => simp [Arena.ringFrom]
  | cons current rest ih =>
      cases fuel with
      | zero => omega
      | succ fuel =>
          have different : current ≠ start := by
            rintro rfl
            exact (List.nodup_cons.1 once).1 (by simp [split])
          have here : current < web.count := inside current (by simp [split])
          have moved : step (web.node current) = .record (rest.headD start) := by
            rw [split] at ring
            rw [reads, ring.next_of_append]
          have onward := ih (done ++ [current]) (by simp [split]) fuel (by simpa using enough)
          have apart : ¬ Link.same (.record current) (.record start) = true := by
            rw [same_place, decide_eq_true_iff]
            exact different
          rw [List.headD_cons, Arena.ringFrom, if_neg apart, web.record_arena here]
          simp only [bind, Except.bind, moved, onward]
          rfl

/-- **A ring is listed from the record behind its start on.** -/
theorem ring_arena
    (reads : ∀ web place, step (web.node place) = .record ((line web).next place))
    {web : Web} {updates start : Nat} {members : List Nat}
    (ring : (line web).Ring (start :: members)) (once : (start :: members).Nodup)
    (inside : ∀ member ∈ start :: members, member < web.count) :
    (web.arena updates).ring step (.record start) =
      .ok (members.map fun member : Nat => Link.record member) := by
  have others : ∀ member ∈ members, member < web.count := fun member within =>
    inside member (List.mem_cons_of_mem _ within)
  have short : members.length ≤ web.count :=
    length_le_of_nodup_of_lt (List.nodup_cons.1 once).2 others
  have first : step (web.node start) = .record (members.headD start) := by
    rw [reads, ring.next_first]
  simp only [Arena.ring, web.record_arena (inside start (by simp)), bind, Except.bind, first]
  refine ringFrom_arena line reads ring once others [] members rfl _ ?_
  simp only [size_arena]
  omega

/-! ## The four directions -/

theorem reads_right (web : Web) (place : Nat) :
    Node.right (web.node place) = .record (web.across.next place) := rfl

theorem reads_left (web : Web) (place : Nat) :
    Node.left (web.node place) = .record (web.across.flip.next place) := rfl

theorem reads_down (web : Web) (place : Nat) :
    Node.down (web.node place) = .record (web.along.next place) := rfl

theorem reads_up (web : Web) (place : Nat) :
    Node.up (web.node place) = .record (web.along.flip.next place) := rfl

end Web

end ExactCover
