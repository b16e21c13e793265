import ExactCover.Arena.Link

/-!
# The arena of links

A sparse matrix whose ones hang together by links. Each one and each column has a record in a list,
and a link is the number of a record. Every record stands on two rings: a horizontal one, which is
its row or the ring of columns, and a vertical one, which is its column. A column is a record with a
header that counts the rows still on its vertical ring.

Records are never deleted, so a link stays good. A negative link counts from the end of the list,
the last record being `-1`; that is also the column of a record that stands in none. Links are
compared as numbers, so a ring is closed only by the very number it was entered with.

Main statements: `position_record` (the number of a record leads to it) and `size_change` (changing
records leaves their number alone).
-/

set_option autoImplicit false

namespace ExactCover

/-- What only the record of a column carries: its name and the count of its rows. -/
structure Header where
  name : Value
  size : Int

/-- A record: its neighbours on both rings, the column it stands in, and its header if it is a
column itself. -/
structure Node where
  left : Link
  right : Link
  up : Link
  down : Link
  column : Link
  header : Option Header

/-- All records, with the number of times that one was hidden while a column was covered. -/
structure Arena where
  nodes : Array Node
  updates : Nat

/-- The links of a record: left, right, up, down and column. -/
def Node.links (node : Node) : List Link := [node.left, node.right, node.up, node.down, node.column]

/-- The fields of a record as numbers: left, right, up, down, column and size, where a record that
is no column has size -1. -/
def Node.numbers (node : Node) : List Int :=
  [node.left.toInt, node.right.toInt, node.up.toInt, node.down.toInt, node.column.toInt,
    (node.header.map (·.size)).getD (-1)]

/-- A computation that changes the arena. A failed one leaves the changes that it has made. -/
abbrev LinkM := EStateM LinkError Arena

namespace Arena

/-- An arena without records. -/
def empty : Arena := ⟨#[], 0⟩

instance : Inhabited Arena := ⟨empty⟩

def size (arena : Arena) : Nat := arena.nodes.size

/-- The place in the list that a link leads to. -/
def position (arena : Arena) (link : Link) : Except LinkError Nat := link.position arena.size

/-- The record that a link leads to. -/
def record (arena : Arena) (link : Link) : Except LinkError Node :=
  match arena.position link with
  | .error problem => .error problem
  | .ok place =>
      match arena.nodes[place]? with
      | none => .error .outOfRange
      | some node => .ok node

/-- Whether a link leads to a column. -/
def isHeader (arena : Arena) (link : Link) : Except LinkError Bool := do
  return (← arena.record link).header.isSome

/-- The number of rows still on the ring of a column. -/
def columnSize (arena : Arena) (link : Link) : Except LinkError Int := do
  match (← arena.record link).header with
  | none => .error .noSize
  | some header => .ok header.size

/-- The name of a column. -/
def columnName (arena : Arena) (link : Link) : Except LinkError Value := do
  match (← arena.record link).header with
  | none => .error .noName
  | some header => .ok header.name

/-- The column that a record stands in. -/
def columnOf (arena : Arena) (link : Link) : Except LinkError Link := do
  return (← arena.record link).column

/-- The numbers of every record. Two arenas have one snapshot exactly when they agree in every link
and every size. -/
def snapshot (arena : Arena) : List (List Int) := arena.nodes.toList.map Node.numbers

/-- The snapshot as a table of numbers of 64 bits, if it has no wider ones. -/
def table (arena : Arena) : Except LinkError (List (List Int)) :=
  if arena.snapshot.all (·.all fun number =>
      -Link.widthBound ≤ number && number < Link.widthBound) then
    .ok arena.snapshot
  else .error .notInTable

/-! ## New records -/

/-- A new record that is alone on both of its rings. -/
def newNode : LinkM Link := fun arena =>
  let link := Link.record arena.size
  .ok link { arena with nodes := arena.nodes.push ⟨link, link, link, link, .record (-1), none⟩ }

/-- A new column without rows, alone on its horizontal ring. It stands in itself. -/
def newHeader (name : Value) : LinkM Link := fun arena =>
  let link := Link.record arena.size
  .ok link { arena with nodes := arena.nodes.push ⟨link, link, link, link, link, some ⟨name, 0⟩⟩ }

/-! ## Reading and changing records -/

/-- Asks a question that leaves the arena as it is. -/
@[inline]
def ask {α : Type} (question : Arena → Except LinkError α) : LinkM α := fun arena =>
  match question arena with
  | .ok answer => .ok answer arena
  | .error problem => .error problem arena

@[inline]
def read (link : Link) : LinkM Node := ask (·.record link)

/-- Changes the record that a link leads to. -/
@[inline]
def change (link : Link) (how : Node → Node) : LinkM Unit := fun arena =>
  match arena.position link with
  | .error problem => .error problem arena
  | .ok place => .ok () { arena with nodes := arena.nodes.modify place how }

/-- Changes the size of a column. -/
def resize (link : Link) (amount : Int) : LinkM Unit := do
  match (← read link).header with
  | none => throw .noSize
  | some header =>
      change link fun node =>
        { node with header := some { header with size := header.size + amount } }

/-! ## Laws -/

theorem newNode_eq (arena : Arena) :
    newNode arena = .ok (.record arena.size)
      ⟨arena.nodes.push
        ⟨.record arena.size, .record arena.size, .record arena.size, .record arena.size,
          .record (-1), none⟩, arena.updates⟩ :=
  rfl

/-- **The number of a record leads to it.** -/
theorem position_record {arena : Arena} {place : Nat} (inside : place < arena.size) :
    arena.position (.record place) = .ok place := Link.position_record inside

/-- A place that a link leads to is inside the list. -/
theorem position_lt {arena : Arena} {link : Link} {place : Nat}
    (found : arena.position link = .ok place) : place < arena.size := Link.position_lt found

/-- **Changing records leaves their number alone.** -/
theorem size_change {link : Link} {how : Node → Node} {before after : Arena}
    (changed : change link how before = .ok () after) : after.size = before.size := by
  unfold change at changed
  split at changed
  · cases changed
  · cases changed
    simp [size]

end Arena

end ExactCover
