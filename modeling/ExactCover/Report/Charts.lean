import ExactCover.Report.Table

/-!
# Charts

The charts of a suite: solutions, updates and times of the enumerations by board size, the spread of
the updates of the random runs, and boards with their queens.
-/

set_option autoImplicit false

namespace ExactCover.Charts

/-- Whether a cell is a number above zero; a missing cell is none. -/
def isPositive (cell : Value) : Except Mismatch Bool :=
  if Table.isMissing cell then .ok false else cell.isMore (.int 0)

/-- Checks that the numbers of a column can be drawn as doubles. Cells of other kinds are drawn side by
side. -/
def checkNumbers (column : List Value) : Except Mismatch Unit :=
  match (column.filter fun cell => !Table.isMissing cell).mapM Value.number? with
  | some numbers => numbers.forM fun number => do let _ ← number.toDouble
  | none => .ok ()

/-- A chart with a line for each policy. Its vertical axis is logarithmic if all numbers are above
zero. -/
def drawLines (table : Table) (column vertical title path : String) : SessionM Unit := do
  Session.check (checkNumbers (table.column "n"))
  Session.check (checkNumbers (table.column column))
  let positive ← Session.check ((table.column column).mapM isPositive)
  Session.draw {
    path := path
    width := 8.0
    height := 5.0
    title := title
    horizontal := "N (board size)"
    vertical := vertical
    scale := if positive.all id then .logarithmic else .linear
    texts := [] }

/-- A chart of the enumerations: the column, the label of the axis, the title and the name. -/
structure LineChart where
  column : String
  vertical : String
  title : String
  stem : String

def lineCharts : List LineChart :=
  [⟨"solutions", "Solutions", "Solutions vs N", "01_solutions_vs_N"⟩,
    ⟨"updates", "Updates (cover hides)", "Search cost vs N", "02_updates_vs_N"⟩,
    ⟨"time", "Time [s]", "Enumeration time vs N", "03_time_vs_N"⟩]

/-- Draws the charts of the enumerations and returns their paths. -/
def enumerations (results : Results) (sizes directory : Value) : SessionM (List String) := do
  let table ← Session.check (Table.enumerations results sizes)
  if table.rows.isEmpty then
    Session.say "No enumeration results to plot."
    return []
  lineCharts.mapM fun chart => do
    let path ← Session.outputPath directory chart.stem ".png"
    drawLines table chart.column chart.vertical chart.title path
    return path

/-- Draws the chart of the random runs and returns its path, if there are any runs. -/
def samples (results : Results) (sizes directory : Value) : SessionM (Option String) := do
  let table ← Session.check (Table.samples results sizes)
  if table.rows.isEmpty then
    Session.say "No random sampling results to plot."
    return none
  let path ← Session.outputPath directory "04_random_updates_boxplot" ".png"
  let updates := table.column "updates"
  if updates.all Table.isMissing then throw .noBoxes
  Session.check (checkNumbers updates)
  Session.draw {
    path := path
    width := 8.0
    height := 5.0
    title := "random_search cost distribution"
    horizontal := "N (board size)"
    vertical := "Updates per run"
    scale := .linear
    texts := [] }
  return some path

/-! ## Boards -/

/-- The size of the queens on a board with some files, in points. -/
def queenSize (files : Nat) : Float := (max 8 (160 / files)).toFloat

/-- The whole part of a rank, which must not be too large to be drawn. -/
def wholeRank (rank : Value) : Except Mismatch Int := do
  if let some number := rank.number? then
    let _ ← number.toDouble
  rank.toInteger

/-- The queens of a board as texts at their file and rank. A negative rank is an empty file. -/
def queens (board : List Value) : Except Mismatch (List (Nat × Int × String × Float)) := do
  let placed ← board.zipIdx.mapM fun (rank, file) => do
    if ← rank.isAtLeast (.int 0) then
      return some (file, ← wholeRank rank, "♛", queenSize board.length)
    else return none
  return placed.filterMap id

/-- The side of the chart of a board, in inches. -/
def boardSide (files : Nat) : Float := if files ≤ 6 then 3.0 else files.toFloat * 0.5

/-- Draws a board. -/
def board (board : Value) (path : String) (title : Value) : SessionM String := do
  let files ← Session.check board.length
  let texts ← Session.check (do queens (← board.items))
  let directory := (Path.splitLast path).1
  Session.makeDirectories (if directory = "" then "." else directory)
  Session.draw {
    path := path
    width := boardSide files
    height := boardSide files
    title := if title.isTrue then title.display else ""
    horizontal := "file"
    vertical := "rank"
    scale := .linear
    texts := texts }
  return path

/-- Draws the boards of some board sizes and returns their paths. -/
def boards (directory : Value) : List (Value × Value) → SessionM (List String)
  | [] => return []
  | (size, ranks) :: rest => do
      let path ← Session.outputPath directory ("board_N" ++ size.display) ".png"
      let path ← board ranks path (.text (size.display ++ "-Queens"))
      return path :: (← boards directory rest)

/-- Draws all charts and returns their paths. -/
def all (results : Results) (sizes directory : Value) (boardsBySize : List (Value × Value)) :
    SessionM (List String) := do
  let lines ← enumerations results sizes directory
  let spread ← samples results sizes directory
  let squares ← boards directory boardsBySize
  let written := lines ++ spread.toList ++ squares
  Session.say (toString written.length ++ " chart(s) saved to " ++ directory.display)
  return written

end ExactCover.Charts
