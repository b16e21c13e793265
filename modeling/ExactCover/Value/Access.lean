import ExactCover.Value.Mismatch

/-!
# Parts of values

Going through a value, measuring it, taking it apart and asking it for a field. A text has its
characters as items and an object its field names.

Main statements: `length_eq_items_length` (the length of a value is the number of its items).
-/

set_option autoImplicit false

namespace ExactCover.Value

/-- The items of a value: those of a list, the characters of a text, the names of an object. -/
def items : Value → Except Mismatch (List Value)
  | .list items => .ok items
  | .text characters => .ok (characters.toList.map fun c => .text (String.singleton c))
  | .object fields => .ok (fields.map fun field => field.1.toValue)
  | other => .error (.noItems other.kind)

/-- The number of items of a value. -/
def length : Value → Except Mismatch Nat
  | .list items => .ok items.length
  | .text characters => .ok characters.toList.length
  | .object fields => .ok fields.length
  | other => .error (.noLength other.kind)

/-- Takes a value of two items apart. -/
def parts (value : Value) : Except Mismatch (Value × Value) :=
  match value.items with
  | .error _ => .error (.noParts value.kind)
  | .ok [first, second] => .ok (first, second)
  | .ok items => .error (if items.length < 2 then .tooFewParts items.length else .tooManyParts)

/-- The fields of an object; anything else has no such member. `member` names what is asked for. -/
def fields (member : String) : Value → Except Mismatch Fields
  | .object fields => .ok fields
  | other => .error (.noMember other.kind member)

/-- A field of an object that may be missing. -/
def fieldOr (value : Value) (name : String) (fallback : Value) : Except Mismatch Value := do
  return (Entries.get? (← value.fields "get") name).getD fallback

/-- A field that must be there. -/
def field (name : String) : Value → Except Mismatch Value
  | .object fields =>
      match Entries.get? fields name with
      | some value => .ok value
      | none => .error (.missingKey name)
  | .list _ => .error (.listIndexKind "str")
  | .text _ => .error (.textIndexKind "str")
  | other => .error (.noSubscript other.kind)

/-- **The length of a value is the number of its items.** -/
theorem length_eq_items_length {value : Value} {found : List Value}
    (read : value.items = .ok found) : value.length = .ok found.length := by
  cases value <;> simp_all [items, length] <;> subst read <;> simp

end ExactCover.Value
