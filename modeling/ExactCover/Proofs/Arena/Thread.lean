import Mathlib.Data.List.Chain
import Mathlib.Logic.Function.Basic

/-!
# Threads and rings

A thread is a pair of maps between numbers, one for each direction: a web of links has one thread
from left to right and one from top to bottom. A list of numbers is a ring of a thread when the
forward map runs through it and from its end to its beginning, and the backward map runs the same
way back.

Taking a number out of its ring lets its neighbours point at each other and leaves its own links
alone. So the ring without it is a ring again (`Ring.unlink`), and it can be put back exactly
(`relink_unlink`). A number that is not in a ring can be put into it anywhere (`Ring.link`).
-/

set_option autoImplicit false

namespace ExactCover

open Function

/-- The links of one line of travel in both directions. -/
structure Thread where
  next : Nat → Nat
  prev : Nat → Nat

namespace Thread

variable {thread : Thread}

/-- A thread runs through a list from one member to the next, and back. -/
def Path (thread : Thread) (members : List Nat) : Prop :=
  members.IsChain fun one other => thread.next one = other ∧ thread.prev other = one

/-- A thread runs round a list. -/
def Ring (thread : Thread) : List Nat → Prop
  | [] => True
  | first :: rest => thread.Path (first :: (rest ++ [first]))

/-- The thread with its directions exchanged. -/
def flip (thread : Thread) : Thread := ⟨thread.prev, thread.next⟩

/-- Takes a number out: its neighbours point at each other. -/
def unlink (thread : Thread) (out : Nat) : Thread :=
  ⟨update thread.next (thread.prev out) (thread.next out),
    update thread.prev (thread.next out) (thread.prev out)⟩

/-- Puts a number back between the neighbours that it still points at. -/
def relink (thread : Thread) (back : Nat) : Thread :=
  ⟨update thread.next (thread.prev back) back,
    update thread.prev (update thread.next (thread.prev back) back back) back⟩

/-- Puts a new number behind a given one. -/
def link (thread : Thread) (place new : Nat) : Thread :=
  ⟨update (update thread.next new (thread.next place)) place new,
    update (update thread.prev (thread.next place) new) new place⟩

/-! ## Paths -/

theorem path_cons_cons {one other : Nat} {rest : List Nat} :
    thread.Path (one :: other :: rest) ↔
      (thread.next one = other ∧ thread.prev other = one) ∧ thread.Path (other :: rest) :=
  List.isChain_cons_cons

theorem path_split {front back : List Nat} {middle : Nat} :
    thread.Path (front ++ middle :: back) ↔
      thread.Path (front ++ [middle]) ∧ thread.Path (middle :: back) :=
  List.isChain_split

/-- A path only looks forward from its members but the last, and back from those but the first. -/
theorem Path.congr {other : Thread} {members : List Nat} (path : thread.Path members)
    (nexts : ∀ member ∈ members.dropLast, other.next member = thread.next member)
    (prevs : ∀ member ∈ members.tail, other.prev member = thread.prev member) :
    other.Path members := by
  induction members with
  | nil => exact List.isChain_nil
  | cons first rest ih =>
      cases rest with
      | nil => exact List.isChain_singleton first
      | cons second rest =>
          obtain ⟨⟨forward, backward⟩, onward⟩ := path_cons_cons.1 path
          refine path_cons_cons.2 ⟨⟨?_, ?_⟩, ih onward ?_ ?_⟩
          · rw [nexts first (by simp), forward]
          · rw [prevs second (by simp), backward]
          · intro member inside
            exact nexts member (by simp [inside])
          · intro member inside
            exact prevs member (by simpa using Or.inr inside)

theorem Path.flip {members : List Nat} (path : thread.Path members) :
    thread.flip.Path members.reverse := by
  unfold Path at path ⊢
  rw [List.isChain_reverse]
  exact path.imp fun one other both => ⟨both.2, both.1⟩

/-! ## Rings -/

/-- **A ring may be entered anywhere.** -/
theorem ring_rotate {front back : List Nat} :
    thread.Ring (front ++ back) ↔ thread.Ring (back ++ front) := by
  cases front with
  | nil => simp
  | cons first front =>
      cases back with
      | nil => simp
      | cons second back =>
          have one : thread.Ring (first :: front ++ second :: back) ↔
              thread.Path (first :: front ++ [second]) ∧
                thread.Path (second :: back ++ [first]) := by
            have cut := @path_split thread (first :: front) (back ++ [first]) second
            simpa [Ring] using cut
          have other : thread.Ring (second :: back ++ first :: front) ↔
              thread.Path (second :: back ++ [first]) ∧
                thread.Path (first :: front ++ [second]) := by
            have cut := @path_split thread (second :: back) (front ++ [second]) first
            simpa [Ring] using cut
          rw [one, other, and_comm]

/-- A ring only looks at the links of its members. -/
theorem Ring.congr {other : Thread} {members : List Nat} (ring : thread.Ring members)
    (nexts : ∀ member ∈ members, other.next member = thread.next member)
    (prevs : ∀ member ∈ members, other.prev member = thread.prev member) :
    other.Ring members := by
  cases members with
  | nil => trivial
  | cons first rest =>
      refine Path.congr ring ?_ ?_
      · intro member inside
        rw [← List.cons_append, List.dropLast_concat] at inside
        exact nexts member inside
      · intro member inside
        have : member ∈ rest ∨ member = first := by simpa using inside
        exact prevs member (by simpa using this.symm)

theorem Ring.flip {first : Nat} {rest : List Nat} (ring : thread.Ring (first :: rest)) :
    thread.flip.Ring (first :: rest.reverse) := by
  have back := Path.flip ring
  simpa [Ring] using back

/-- The links between a member of a ring and its neighbours. -/
theorem Ring.next_prev {members : List Nat} (ring : thread.Ring members) {member : Nat}
    (inside : member ∈ members) :
    thread.next (thread.prev member) = member ∧ thread.prev (thread.next member) = member ∧
      thread.next member ∈ members ∧ thread.prev member ∈ members := by
  obtain ⟨front, back, rfl⟩ := List.append_of_mem inside
  have turned : thread.Ring (member :: (back ++ front)) := by
    simpa using ring_rotate.1 ring
  have same : ∀ other, other ∈ member :: (back ++ front) ↔ other ∈ front ++ member :: back := by
    intro other
    simp only [List.mem_cons, List.mem_append]
    tauto
  rw [← same, ← same]
  generalize back ++ front = rest at turned
  have forward : thread.prev (thread.next member) = member ∧
      thread.next member ∈ member :: rest := by
    cases rest with
    | nil =>
        obtain ⟨here, -⟩ := path_cons_cons.1 turned
        rw [here.1]
        exact ⟨here.2, by simp⟩
    | cons second rest =>
        obtain ⟨here, -⟩ := path_cons_cons.1 turned
        rw [here.1]
        exact ⟨here.2, by simp⟩
  have backward : thread.next (thread.prev member) = member ∧
      thread.prev member ∈ member :: rest := by
    cases rest using List.reverseRecOn with
    | nil =>
        obtain ⟨here, -⟩ := path_cons_cons.1 turned
        rw [here.2]
        exact ⟨here.1, by simp⟩
    | append_singleton rest last =>
        have both : thread.Path (last :: [member]) := by
          have : thread.Path ((member :: rest) ++ last :: [member]) := by
            simpa [Ring] using turned
          exact (path_split.1 this).2
        obtain ⟨here, -⟩ := path_cons_cons.1 both
        rw [here.2]
        exact ⟨here.1, by simp⟩
  exact ⟨backward.1, forward.1, forward.2, backward.2⟩

/-! ## Taking out and putting back -/

/-- **What was taken out of its ring is put back exactly.** -/
theorem relink_unlink {out : Nat} (forward : thread.next (thread.prev out) = out)
    (backward : thread.prev (thread.next out) = out) :
    (thread.unlink out).relink out = thread := by
  have prevSame : (thread.unlink out).prev out = thread.prev out := by
    by_cases alone : out = thread.next out
    · simp [unlink, ← alone]
    · simp [unlink, update_of_ne alone]
  have nextBack : update (thread.unlink out).next (thread.prev out) out = thread.next := by
    simp only [unlink, update_idem]
    rw [update_eq_self_iff]
    exact forward.symm
  obtain ⟨next, prev⟩ := thread
  simp only [relink, prevSame, nextBack]
  congr 1
  simp only [unlink, update_idem]
  rw [update_eq_self_iff]
  exact backward.symm

/-- **A ring without one of its members is a ring.** -/
theorem Ring.unlink {members : List Nat} (ring : thread.Ring members) (once : members.Nodup)
    {out : Nat} (inside : out ∈ members) :
    (thread.unlink out).Ring (members.filter (· ≠ out)) := by
  obtain ⟨front, back, rfl⟩ := List.append_of_mem inside
  have turned : thread.Ring (out :: (back ++ front)) := by
    simpa using ring_rotate.1 ring
  have onceTurned : (out :: (back ++ front)).Nodup := by
    have : (front ++ out :: back).Perm (out :: (back ++ front)) :=
      List.perm_append_comm.trans (by simp)
    exact this.nodup once
  have rest : (front ++ out :: back).filter (· ≠ out) = front ++ back := by
    have apart : out ∉ back ++ front := (List.nodup_cons.1 onceTurned).1
    have clean : ∀ list : List Nat, out ∉ list → list.filter (· ≠ out) = list := by
      intro list absent
      apply List.filter_eq_self.2
      intro member here
      simpa using fun same : member = out => absent (same ▸ here)
    rw [List.filter_append, List.filter_cons_of_neg (by simp),
      clean front fun here => apart (by simp [here]),
      clean back fun here => apart (by simp [here])]
  rw [rest, ring_rotate]
  generalize back ++ front = rest at turned onceTurned
  cases rest with
  | nil => trivial
  | cons second rest =>
      cases rest using List.reverseRecOn with
      | nil =>
          have around : thread.Path [out, second, out] := turned
          obtain ⟨here, onward⟩ := path_cons_cons.1 around
          obtain ⟨there, -⟩ := path_cons_cons.1 onward
          refine path_cons_cons.2 ⟨⟨?_, ?_⟩, List.isChain_singleton _⟩
          · simp [Thread.unlink, here.1, there.2]
          · simp [Thread.unlink, here.1, there.2]
      | append_singleton rest last =>
          have around : thread.Path (out :: second :: (rest ++ [last] ++ [out])) := by
            simpa [Ring] using turned
          obtain ⟨here, onward⟩ := path_cons_cons.1 around
          have parts : thread.Path (second :: (rest ++ [last])) ∧ thread.Path [last, out] := by
            have : thread.Path ((second :: rest) ++ last :: [out]) := by simpa using onward
            simpa using path_split.1 this
          obtain ⟨inner, ends⟩ := parts
          obtain ⟨there, -⟩ := path_cons_cons.1 ends
          have noOut : out ∉ second :: (rest ++ [last]) := (List.nodup_cons.1 onceTurned).1
          have onceInner : (second :: (rest ++ [last])).Nodup := (List.nodup_cons.1 onceTurned).2
          have goal : (thread.unlink out).Path ((second :: rest) ++ last :: [second]) := by
            refine path_split.2 ⟨Path.congr (by simpa using inner) ?_ ?_, ?_⟩
            · intro member early
              rw [List.dropLast_concat] at early
              have different : member ≠ thread.prev out := by
                rw [there.2]
                rintro rfl
                rw [← List.cons_append] at onceInner
                exact (List.nodup_append.1 onceInner).2.2 _ early _ (by simp) rfl
              simp [Thread.unlink, update_of_ne different]
            · intro member late
              have different : member ≠ thread.next out := by
                rw [here.1]
                rintro rfl
                exact (List.nodup_cons.1 onceInner).1 (by simpa using late)
              simp [Thread.unlink, update_of_ne different]
            · refine path_cons_cons.2 ⟨⟨?_, ?_⟩, List.isChain_singleton _⟩
              · simp [Thread.unlink, here.1, there.2]
              · simp [Thread.unlink, here.1, there.2]
          simpa [Ring] using goal

/-- Rings that share no link with a number that is taken out stay as they are. -/
theorem Ring.unlink_apart {members : List Nat} (ring : thread.Ring members) {out : Nat}
    (nextApart : thread.next out ∉ members) (prevApart : thread.prev out ∉ members) :
    (thread.unlink out).Ring members := by
  refine ring.congr ?_ ?_
  · intro member inside
    have different : member ≠ thread.prev out := fun same => prevApart (same ▸ inside)
    exact update_of_ne different _ _
  · intro member inside
    have different : member ≠ thread.next out := fun same => nextApart (same ▸ inside)
    exact update_of_ne different _ _

/-! ## Putting in -/

/-- **A new number is put into a ring behind one of its members.** -/
theorem Ring.link {front back : List Nat} {place new : Nat}
    (ring : thread.Ring (front ++ place :: back)) (once : (front ++ place :: back).Nodup)
    (fresh : new ∉ front ++ place :: back) :
    (thread.link place new).Ring (front ++ place :: new :: back) := by
  have turned : thread.Ring (place :: (back ++ front)) := by
    simpa using ring_rotate.1 ring
  have onceTurned : (place :: (back ++ front)).Nodup := by
    have : (front ++ place :: back).Perm (place :: (back ++ front)) :=
      List.perm_append_comm.trans (by simp)
    exact this.nodup once
  have freshTurned : new ∉ place :: (back ++ front) := by
    simp only [List.mem_append, List.mem_cons] at fresh ⊢
    tauto
  rw [ring_rotate, List.cons_append, List.cons_append]
  generalize back ++ front = rest at turned onceTurned freshTurned
  have different : new ≠ place := fun same => freshTurned (by simp [same])
  have first : (thread.link place new).next place = new ∧
      (thread.link place new).prev new = place := by simp [Thread.link]
  have newNext : (thread.link place new).next new = thread.next place := by
    simp [Thread.link, update_of_ne different]
  cases rest with
  | nil =>
      have around : thread.Path [place, place] := turned
      obtain ⟨here, -⟩ := path_cons_cons.1 around
      refine path_cons_cons.2 ⟨first, path_cons_cons.2 ⟨⟨?_, ?_⟩, List.isChain_singleton _⟩⟩
      · rw [newNext, here.1]
      · simp [Thread.link, here.1, update_of_ne (Ne.symm different)]
  | cons second rest =>
      have around : thread.Path (place :: second :: (rest ++ [place])) := turned
      obtain ⟨here, onward⟩ := path_cons_cons.1 around
      have apart : new ≠ second := fun same => freshTurned (by simp [same])
      change (thread.link place new).Path (place :: new :: second :: (rest ++ [place]))
      refine path_cons_cons.2 ⟨first, path_cons_cons.2 ⟨⟨?_, ?_⟩, Path.congr onward ?_ ?_⟩⟩
      · rw [newNext, here.1]
      · simp [Thread.link, here.1, update_of_ne (Ne.symm apart)]
      · intro member early
        rw [← List.cons_append, List.dropLast_concat] at early
        have notPlace : member ≠ place := by
          rintro rfl
          exact (List.nodup_cons.1 onceTurned).1 early
        have notNew : member ≠ new := by
          rintro rfl
          exact freshTurned (List.mem_cons_of_mem _ early)
        simp [Thread.link, update_of_ne notPlace, update_of_ne notNew]
      · intro member late
        have behind : member ∈ rest ∨ member = place := by simpa using late
        have notSecond : member ≠ second := by
          rintro rfl
          rcases behind with inRest | isPlace
          · exact (List.nodup_cons.1 (List.nodup_cons.1 onceTurned).2).1 inRest
          · exact (List.nodup_cons.1 onceTurned).1 (by simp [isPlace])
        have notNew : member ≠ new := by
          rintro rfl
          rcases behind with inRest | isPlace
          · exact freshTurned (by simp [inRest])
          · exact freshTurned (by simp [isPlace])
        simp [Thread.link, here.1, update_of_ne notSecond, update_of_ne notNew]

/-- Rings that hold neither of the numbers that a new one comes between, nor the new one, stay as
they are. -/
theorem Ring.link_apart {members : List Nat} (ring : thread.Ring members) {place new : Nat}
    (placeApart : place ∉ members) (nextApart : thread.next place ∉ members)
    (fresh : new ∉ members) : (thread.link place new).Ring members := by
  refine ring.congr ?_ ?_
  · intro member inside
    have notPlace : member ≠ place := fun same => placeApart (same ▸ inside)
    have notNew : member ≠ new := fun same => fresh (same ▸ inside)
    simp [Thread.link, update_of_ne notPlace, update_of_ne notNew]
  · intro member inside
    have notNext : member ≠ thread.next place := fun same => nextApart (same ▸ inside)
    have notNew : member ≠ new := fun same => fresh (same ▸ inside)
    simp [Thread.link, update_of_ne notNext, update_of_ne notNew]

end Thread

end ExactCover
