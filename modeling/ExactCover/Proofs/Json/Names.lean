import ExactCover.Json.Reader
import ExactCover.Proofs.Arena.Web
import ExactCover.Proofs.Entries

/-!
# Names in documents

The keys of an object may be any scalars, because an object may be changed after it was read. An object
that is read has names only, and so have the objects in it (`named_of_read`). The readers of values, of
items and of fields call each other with less fuel each time, so the three are told together by induction
on the fuel (`named_within`).
-/

set_option autoImplicit false

namespace ExactCover

/-- Every object in a value, itself included, has names as keys. -/
inductive Value.Named : Value → Prop where
  | null : Named .null
  | bool (flag : Bool) : Named (.bool flag)
  | int (number : Int) : Named (.int number)
  | float (number : Float) : Named (.float number)
  | text (characters : String) : Named (.text characters)
  | list {items : List Value} (each : ∀ item ∈ items, Named item) : Named (.list items)
  | object {fields : Fields} (names : ∀ field ∈ fields, ∃ name, field.1 = .text name)
      (each : ∀ field ∈ fields, Named field.2) : Named (.object fields)

/-- A field with a name and with names in its value. -/
def NamedField (field : Key × Value) : Prop := (∃ name, field.1 = .text name) ∧ field.2.Named

theorem Value.named_object_iff {fields : Fields} :
    (Value.object fields).Named ↔ ∀ field ∈ fields, NamedField field := by
  constructor
  · rintro (_ | _ | _ | _ | _ | _ | ⟨names, each⟩)
    exact fun field inside => ⟨names field inside, each field inside⟩
  · intro all
    exact .object (fun field inside => (all field inside).1) fun field inside => (all field inside).2

theorem Value.named_list_iff {items : List Value} :
    (Value.list items).Named ↔ ∀ item ∈ items, item.Named := by
  constructor
  · rintro (_ | _ | _ | _ | _ | each | _)
    exact each
  · exact .list

/-- Reading fields from left to right keeps names. -/
theorem namedField_of_mem_ofList {fields : List (Key × Value)} (all : ∀ field ∈ fields, NamedField field)
    {field : Key × Value} (inside : field ∈ Entries.ofList fields) : NamedField field := by
  unfold Entries.ofList at inside
  have start : ∀ field ∈ ([] : Fields), NamedField field := by simp
  generalize ([] : Fields) = entries at inside start
  induction fields generalizing entries with
  | nil => exact start field inside
  | cons first rest ih =>
      obtain ⟨own, others⟩ := List.forall_mem_cons.1 all
      refine ih others _ inside fun entry isEntry => ?_
      rcases Entries.mem_set isEntry with before | rfl | ⟨old, before, same⟩
      · exact start entry before
      · exact own
      · exact ⟨(start _ before).1, same ▸ own.2⟩

namespace Json

theorem named_of_literal {characters : List Char} {value : Value} {count : Nat}
    (found : literal? characters = some (value, count)) : value.Named := by
  obtain ⟨entry, isLiteral, begins⟩ := List.exists_of_findSome?_eq_some found
  split at begins
  · obtain rfl : entry.2 = value := congrArg Prod.fst (Option.some.inj begins)
    simp only [literals, List.mem_cons, List.not_mem_nil, or_false] at isLiteral
    rcases isLiteral with rfl | rfl | rfl | rfl | rfl | rfl <;> constructor
  · cases begins

theorem named_of_readNumber {rest after : Rest} {value : Value}
    (isNumber : readNumber rest = .ok (value, after)) : value.Named := by
  unfold readNumber at isNumber
  dsimp only at isNumber
  -- With a minus and without one.
  split at isNumber
  all_goals
    split at isNumber
    · cases isNumber
    · split at isNumber
      · split at isNumber
        · cases isNumber
        · cases isNumber
          exact .int _
      · cases isNumber
        exact .float _

/-- What the three readers give has names, whatever the fuel. -/
theorem named_within (fuel : Nat) :
    (∀ {room rest value after}, readValue fuel room rest = .ok (value, after) → value.Named) ∧
      (∀ {room rest items after}, readItems fuel room rest = .ok (items, after) →
        ∀ item ∈ items, item.Named) ∧
      ∀ {room rest fields after}, readFields fuel room rest = .ok (fields, after) →
        ∀ field ∈ fields, NamedField field := by
  induction fuel with
  | zero =>
      refine ⟨fun read => ?_, fun read => ?_, fun read => ?_⟩
      · rw [readValue] at read
        cases read
      · rw [readItems] at read
        cases read
      · rw [readFields] at read
        cases read
  | succ fuel ih =>
      obtain ⟨ofValue, ofItems, ofFields⟩ := ih
      refine ⟨fun {room rest value after} read => ?_, fun {room rest items after} read => ?_,
        fun {room rest fields after} read => ?_⟩
      · rw [readValue] at read
        split at read
        · obtain ⟨⟨text, more⟩, -, same⟩ := ok_of_bind read
          cases same
          exact .text text
        · dsimp only at read
          split at read
          · cases read
          · cases read
            exact .list (by simp)
          · obtain ⟨⟨items, more⟩, isList, same⟩ := ok_of_bind read
            cases same
            exact .list (ofItems isList)
        · dsimp only at read
          split at read
          · cases read
          · cases read
            exact Value.named_object_iff.2 (by simp)
          · obtain ⟨⟨fields, more⟩, isObject, same⟩ := ok_of_bind read
            cases same
            exact Value.named_object_iff.2 fun field => namedField_of_mem_ofList (ofFields isObject)
        · split at read
          next literal count found =>
            cases read
            exact named_of_literal found
          next => exact named_of_readNumber read
      · rw [readItems] at read
        obtain ⟨⟨item, more⟩, isValue, onward⟩ := ok_of_bind read
        dsimp only at onward
        split at onward
        · cases onward
          exact List.forall_mem_singleton.2 (ofValue isValue)
        · obtain ⟨⟨others, last⟩, areItems, same⟩ := ok_of_bind onward
          cases same
          exact List.forall_mem_cons.2 ⟨ofValue isValue, ofItems areItems⟩
        · cases onward
      · rw [readFields] at read
        split at read
        · obtain ⟨⟨name, more⟩, -, onward⟩ := ok_of_bind read
          dsimp only at onward
          split at onward
          · obtain ⟨⟨value, further⟩, isValue, onward⟩ := ok_of_bind onward
            dsimp only at onward
            split at onward
            · cases onward
              exact List.forall_mem_singleton.2 ⟨⟨name, rfl⟩, ofValue isValue⟩
            · obtain ⟨⟨others, last⟩, areFields, same⟩ := ok_of_bind onward
              cases same
              exact List.forall_mem_cons.2 ⟨⟨⟨name, rfl⟩, ofValue isValue⟩, ofFields areFields⟩
            · cases onward
          · cases onward
        · cases read

/-- **The objects of a document that was read have names as keys.** -/
theorem named_of_read {room : Nat} {document : String} {value : Value}
    (isDocument : read room document = .ok value) : value.Named := by
  unfold read at isDocument
  dsimp only at isDocument
  cases inner : readDocument room document.toList with
  | error stop =>
      rw [inner] at isDocument
      cases isDocument
  | ok found =>
      rw [inner] at isDocument
      cases isDocument
      unfold readDocument at inner
      split at inner
      · cases inner
      · obtain ⟨⟨first, after⟩, isValue, onward⟩ := ok_of_bind inner
        dsimp only at onward
        split at onward
        · cases onward
          exact (named_within _).1 isValue
        · cases onward

end Json

end ExactCover
