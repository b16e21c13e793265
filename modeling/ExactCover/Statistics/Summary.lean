import ExactCover.Number.Reader
import ExactCover.Statistics.Sum
import ExactCover.Value.Access
import ExactCover.Value.Number
import ExactCover.Value.Shape

/-!
# Summaries

The mean, the deviation, the quartiles and the extremes of some numbers, and the summary of random
runs. A summary of no numbers has a count and nothing else. The numbers may be nested in lists, as long
as these are a regular array.

Main statement: `summaryOf_nil` (the summary of no numbers).
-/

set_option autoImplicit false

namespace ExactCover.Statistics

/-- The figures of some numbers, of which there is at least one. -/
structure Figures where
  mean : Float
  median : Float
  deviation : Float
  least : Float
  greatest : Float
  lowerQuartile : Float
  upperQuartile : Float

/-- The arithmetic mean. The sum begins with zero, so a mean of zero has no sign. -/
def mean (numbers : List Float) : Float := (0.0 + sum numbers) / numbers.length.toFloat

/-- The standard deviation, the numbers being all there are and not a sample. -/
def deviation (numbers : List Float) : Float :=
  let centre := mean numbers
  (sum (numbers.map fun x => (x - centre) * (x - centre)) / numbers.length.toFloat).sqrt

/-- Numbers in increasing order. -/
def sorted (numbers : List Float) : List Float := numbers.mergeSort fun x y => x ≤ y

/-- The point between two numbers at some part of the way, taken from the nearer one. -/
def between (lower upper part : Float) : Float :=
  if part < 0.5 then lower + (upper - lower) * part else upper - (upper - lower) * (1 - part)

/-- The number below which a quarter, two or three quarters of the sorted numbers lie. -/
def quartile (inOrder : List Float) (quarters : Nat) : Float :=
  let steps := inOrder.length - 1
  let last := inOrder.getLastD 0
  if steps = 0 then between last last 1
  else
    let place := steps * quarters / 4
    let part := (steps * quarters % 4).toFloat / 4
    between (inOrder.getD place last) (inOrder.getD (place + 1) last) part

/-- The greatest of some numbers, the first of them if several are equal. -/
def greatest (numbers : List Float) : Float :=
  numbers.foldl (fun best number => if number ≤ best then best else number) (numbers.headD 0)

/-- The figures of some numbers. If one of them is not a number, nothing is known of their order. -/
def figures (numbers : List Float) : Figures :=
  let ordered := !numbers.any Float.isNaN
  let inOrder := sorted numbers
  let known := fun (figure : Float) => if ordered then figure else Double.notANumber
  { mean := mean numbers
    median := known (quartile inOrder 2)
    deviation := deviation numbers
    least := known (inOrder.headD 0)
    greatest := known (greatest numbers)
    lowerQuartile := known (quartile inOrder 1)
    upperQuartile := known (quartile inOrder 3) }

/-- The figures of some numbers as a value with a count. -/
def summary (numbers : List Float) : Value :=
  let fields := fun (figure : (Figures → Float) → Value) (count : Nat) =>
    Value.object [("count", .int count), ("mean", figure (·.mean)), ("median", figure (·.median)),
      ("std", figure (·.deviation)), ("min", figure (·.least)), ("max", figure (·.greatest)),
      ("q25", figure (·.lowerQuartile)), ("q75", figure (·.upperQuartile))]
  if numbers.isEmpty then fields (fun _ => .null) 0
  else fields (fun figure => .float (figure (figures numbers))) numbers.length

/-! ## Random runs -/

/-- The double of a value; null is no number, and a text is read. -/
def toDouble : Value → Except Mismatch Float
  | .null => .ok Double.notANumber
  | .text characters =>
      match Double.read? characters with
      | some number => .ok number
      | none => .error (.malformedDouble characters)
  | value =>
      match value.number? with
      | some number => number.toDouble
      | none => .error (.notADouble value.kind)

/-- Why there are no figures. -/
inductive FigureError where
  | unsuitable (mismatch : Mismatch)
  | irregular (fault : ShapeFault)
  /-- There are lists of numbers, but no numbers in them. -/
  | noNumbers

/-- The wording of an error. -/
def FigureError.message : FigureError → String
  | .unsuitable mismatch => mismatch.message
  | .irregular fault => fault.message
  | .noNumbers => "index -1 is out of bounds for axis 0 with size 0"

/-- The summary of the numbers that a value holds. -/
def summaryOf (value : Value) : Except FigureError Value := do
  if (← value.length.mapError .unsuitable) = 0 then return summary []
  let _ ← value.shape.mapError .irregular
  let numbers ← (value.leaves.mapM toDouble).mapError .unsuitable
  if numbers.isEmpty then throw .noNumbers
  return summary numbers

/-- The summary of no numbers. -/
theorem summaryOf_nil : summaryOf (.list []) = .ok (summary []) := rfl

/-- The summary of a field of all runs. -/
def fieldSummary (name : String) (runs : List Value) : Except FigureError Value := do
  summaryOf (.list (← (runs.mapM (Value.field name)).mapError .unsuitable))

/-- The items of a board, all of which can be compared. -/
def boardItems (run : Value) : Except Mismatch (List Value) := do
  let items ← (← run.field "board").items
  items.mapM fun item => do
    let _ ← Key.ofValue item
    return item

/-- The different boards among some. -/
def distinctBoards (boards : List (List Value)) : List (List Value) :=
  boards.foldl (fun known board =>
    if known.any (Value.equalItems board) then known else board :: known) []

/-- The summary of random runs: how many there are, how many of them are valid, how many different
boards the valid ones have, and the figures of their costs. -/
def summarizeRuns (given : Value) : Except FigureError Value := do
  let runs ← given.items.mapError .unsuitable
  let flags ← (runs.mapM (Value.field "valid")).mapError .unsuitable
  let valid := (runs.zip flags).filterMap fun entry => if entry.2.isTrue then some entry.1 else none
  let rate := if runs.isEmpty then 0.0 else Double.nearest false valid.length runs.length
  let boards ← (valid.mapM boardItems).mapError .unsuitable
  let updates ← fieldSummary "updates" runs
  let times ← fieldSummary "time" runs
  return .object [("total_runs", .int runs.length), ("valid_runs", .int valid.length),
    ("valid_rate", .float rate), ("distinct_boards", .int (distinctBoards boards).length),
    ("all_updates", updates), ("all_time", times), ("raw_runs", given)]

end ExactCover.Statistics
