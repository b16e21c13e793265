/-!
# Entries in order of first appearance

A finite map that remembers the order in which its keys first appeared. Setting a known key keeps
its place, so printing and saving show the keys in the order of their first use. Two keys that count
as equal are one key, and the one that came first is the one that is kept.

Main statements: `get?_set_same` and `get?_set_other` say what a look-up sees after a change, and
`keys_set_of_mem` that a change of a known key leaves the order alone.
-/

set_option autoImplicit false

namespace ExactCover

/-- Keys with their values, in order of first appearance. -/
abbrev Entries (κ : Type) (α : Type) := List (κ × α)

namespace Entries

variable {κ α : Type} [BEq κ]

/-- The value of a key. -/
def get? : Entries κ α → κ → Option α
  | [], _ => none
  | (key, value) :: rest, wanted => if key == wanted then some value else get? rest wanted

/-- Sets the value of a key: a known key keeps its place, a new one goes to the end. -/
def set : Entries κ α → κ → α → Entries κ α
  | [], key, value => [(key, value)]
  | (known, old) :: rest, key, value =>
      if known == key then (known, value) :: rest else (known, old) :: set rest key value

/-- The keys, in order of first appearance. -/
def keys (entries : Entries κ α) : List κ := entries.map Prod.fst

/-- Reads pairs from left to right; of two with one key the later value is kept. -/
def ofList (pairs : List (κ × α)) : Entries κ α :=
  pairs.foldl (fun entries pair => set entries pair.1 pair.2) []

/-- What has been set for a key that equals itself is found. -/
theorem get?_set_same {entries : Entries κ α} {key : κ} {value : α}
    (equalsItself : (key == key) = true) : get? (set entries key value) key = some value := by
  induction entries with
  | nil => simp [set, get?, equalsItself]
  | cons entry rest ih =>
      obtain ⟨known, old⟩ := entry
      by_cases same : (known == key) = true
      · simp [set, get?, same]
      · simp [set, get?, same, ih]

/-- A key that equals neither the key that is set nor any key that equals it is found as before. -/
theorem get?_set_apart {entries : Entries κ α} {key other : κ} {value : α}
    (different : (key == other) = false)
    (apart : ∀ known, (known == key) = true → (known == other) = false) :
    get? (set entries key value) other = get? entries other := by
  induction entries with
  | nil => simp [set, get?, different]
  | cons entry rest ih =>
      obtain ⟨known, old⟩ := entry
      by_cases same : (known == key) = true
      · simp [set, get?, same, apart known same]
      · by_cases found : (known == other) = true
        · simp [set, get?, same, found]
        · simp [set, get?, same, found, ih]

theorem get?_set_other [LawfulBEq κ] {entries : Entries κ α} {key other : κ} {value : α}
    (different : other ≠ key) : get? (set entries key value) other = get? entries other := by
  refine get?_set_apart (by simpa using Ne.symm different) fun known same => ?_
  have : known = key := by simpa using same
  subst this
  simpa using Ne.symm different

/-- A change of a known key leaves the order of the keys alone. -/
theorem keys_set_of_mem [ReflBEq κ] {entries : Entries κ α} {key : κ} {value : α}
    (known : key ∈ keys entries) : keys (set entries key value) = keys entries := by
  induction entries with
  | nil => simp [keys] at known
  | cons entry rest ih =>
      obtain ⟨first, old⟩ := entry
      by_cases same : (first == key) = true
      · simp [set, keys, same]
      · have later : key ∈ keys rest := by
          rcases List.mem_cons.1 (show key ∈ first :: keys rest from known) with here | later
          · subst here
            simp at same
          · exact later
        simpa [set, keys, same] using ih later

end Entries

end ExactCover
