import ExactCover.Arena.Basic

/-!
# Splices

Putting a record into a ring and taking it out again. A record that is taken out keeps its own
links, so it can be put back between the same neighbours: `restore` undoes `hide`, and
`restoreHeader` undoes `hideHeader`.
-/

set_option autoImplicit false

namespace ExactCover.Arena

/-- Puts a record into the horizontal ring of `place`, on its right side. -/
def insert (place node : Link) : LinkM Link := do
  let right := (← read place).right
  change right ({ · with left := node })
  change node ({ · with right := right })
  change node ({ · with left := place })
  change place ({ · with right := node })
  return node

/-- Puts a record at the bottom of a column. -/
def append (header node : Link) : LinkM Link := do
  let bottom := (← read header).up
  resize header 1
  change node fun record => { record with column := header, down := header, up := bottom }
  change bottom ({ · with down := node })
  change header ({ · with up := node })
  return node

/-- Takes a record out of its vertical ring. -/
def hide (node : Link) : LinkM Unit := do
  let record ← read node
  change record.up ({ · with down := record.down })
  change record.down ({ · with up := record.up })

/-- Puts a record back into its vertical ring. -/
def restore (node : Link) : LinkM Unit := do
  change (← read node).up ({ · with down := node })
  change (← read node).down ({ · with up := node })

/-- Takes a column out of its horizontal ring. -/
def hideHeader (header : Link) : LinkM Unit := do
  let record ← read header
  change record.left ({ · with right := record.right })
  change record.right ({ · with left := record.left })

/-- Puts a column back into its horizontal ring. -/
def restoreHeader (header : Link) : LinkM Unit := do
  change (← read header).left ({ · with right := header })
  change (← read header).right ({ · with left := header })

end ExactCover.Arena
