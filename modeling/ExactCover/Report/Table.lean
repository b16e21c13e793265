import ExactCover.Matrix.Kind
import ExactCover.Report.Rows

/-!
# Tables

The results of a suite as tables for charts. The cells of a column are brought to one kind if they can
be. Numbers with a double among them become doubles, and so do numbers with a missing cell, which is
then no number. Beside texts a missing cell is no number either. Flags among other cells, integers that
fit into no word of 64 bits, and cells of several kinds are left as they are.

Main statement: `length_unify` (bringing a column to one kind keeps the number of its cells).
-/

set_option autoImplicit false

namespace ExactCover

/-- A table: the names of its columns and its rows. -/
structure Table where
  columns : List String
  rows : List (List Value)

/-- What has been seen of a column of flags and numbers. -/
structure ColumnTrace where
  null : Bool := false
  notANumber : Bool := false
  flag : Bool := false
  integer : Bool := false
  double : Bool := false
  /-- An integer that needs all bits of a word. -/
  large : Bool := false
  negative : Bool := false

namespace ColumnTrace

/-- Notes an integer. Behind a missing cell it is only noted as a number; otherwise integers must
together fit into words of 64 bits with a sign, or into such words without one. -/
def noteInteger (trace : ColumnTrace) (number : Int) : Option ColumnTrace :=
  if trace.null then some { trace with integer := true }
  else
    let noted :=
      { trace with
        integer := true
        large := trace.large || Grid.wordBound ≤ number
        negative := trace.negative || number < 0 }
    if (noted.large && noted.negative) || number < -Grid.wordBound ||
        EntryKind.wordCount ≤ number then none
    else some noted

/-- Notes a cell, unless it keeps the column from being one of flags and numbers. -/
def note (trace : ColumnTrace) : Value → Option ColumnTrace
  | .null => some { trace with null := true }
  | .bool _ => some { trace with flag := true }
  | .int number => trace.noteInteger number
  | .float number =>
      some (if number.isNaN then { trace with notANumber := true }
        else { trace with double := true })
  | _ => none

/-- Whether the cells become doubles. -/
def isOfDoubles (trace : ColumnTrace) : Bool :=
  !trace.flag && (trace.double || trace.notANumber || (trace.null && trace.integer))

end ColumnTrace

namespace Table

/-- Whether a cell holds nothing. -/
def isMissing : Value → Bool
  | .null => true
  | .float number => number.isNaN
  | _ => false

/-- Whether a cell is a text. -/
def isText : Value → Bool
  | .text _ => true
  | _ => false

/-- Whether all cells are texts or missing, and not all of them missing. -/
def isOfTexts (column : List Value) : Bool :=
  column.any isText && column.all fun cell => isText cell || isMissing cell

/-- A cell of a column in which a missing one is no number. -/
def withoutNull : Value → Value
  | .null => .float Double.notANumber
  | value => value

/-- A cell of a column of doubles. -/
def asDouble : Value → Value
  | .int number => .float (Double.ofInt number)
  | value => withoutNull value

/-- Brings the cells of a column to one kind. -/
def unify (column : List Value) : List Value :=
  match column.foldlM ColumnTrace.note {} with
  | some trace => if trace.isOfDoubles then column.map asDouble else column
  | none => if isOfTexts column then column.map withoutNull else column

/-- **Bringing a column to one kind keeps the number of its cells.** -/
theorem length_unify (column : List Value) : (unify column).length = column.length := by
  unfold unify
  split
  · split <;> simp
  · split <;> simp

/-- The cells of a column. -/
def column (table : Table) (name : String) : List Value :=
  let place := table.columns.idxOf name
  table.rows.map fun row => row.getD place .null

/-- A table whose columns are each of one kind. -/
def ofRows (columns : List String) (rows : List (List Value)) : Table :=
  let unified := (List.range columns.length).map fun place =>
    unify (rows.map fun row => row.getD place .null)
  ⟨columns, (List.range rows.length).map fun place =>
    unified.map fun column => column.getD place .null⟩

/-- The rows of the enumerations of a board size, one for each policy. -/
def enumerationRows (results : Results) (size : Value) : Except Mismatch (List (List Value)) := do
  let entries ← (← Report.enumerationsOf results size).fields "items"
  entries.mapM fun (policy, entry) => do
    return [size, policy.toValue, ← entry.field "solutions", ← entry.field "updates",
      ← entry.field "time", ← entry.field "exhausted"]

/-- The table of the enumerations. -/
def enumerations (results : Results) (sizes : Value) : Except Mismatch Table := do
  let rows ← (← sizes.items).mapM (enumerationRows results)
  return ofRows ["n", "policy", "solutions", "updates", "time", "exhausted"] rows.flatten

/-- The rows of the random runs of a board size. -/
def sampleRows (results : Results) (size : Value) : Except Mismatch (List (List Value)) := do
  (← Report.runsOf results size).mapM fun run => do
    return [size, ← run.field "valid", ← run.field "updates", ← run.field "time"]

/-- The table of the random runs. -/
def samples (results : Results) (sizes : Value) : Except Mismatch Table := do
  let rows ← (← sizes.items).mapM (sampleRows results)
  return ofRows ["n", "valid", "updates", "time"] rows.flatten

end Table

end ExactCover
