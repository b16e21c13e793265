import ExactCover.Entries
import ExactCover.Value.Mismatch

/-!
# Settings

What a suite of experiments runs and where it writes. A configuration may set these to anything, so
most of them are values, and each is checked where it is used.

Main statement: `suffix_empty` (without a tag and without dates, names have no suffix).
-/

set_option autoImplicit false

namespace ExactCover

/-- The settings of a run. -/
structure Settings where
  /-- The board sizes. -/
  sizes : List Value
  /-- How many random solutions are drawn for each size. -/
  runs : Value
  /-- After how many solutions an enumeration stops; null for never. -/
  solutionLimit : Value
  /-- Whether the smallest column is taken, and not the first. -/
  optimized : Value
  /-- Where random numbers begin; null for anywhere. -/
  seed : Value
  /-- The squares with forced queens, by board size. -/
  forced : Entries Key Value
  /-- The directory that results are written to. -/
  directory : Value
  /-- Whether file names carry the name of the run. -/
  dated : Value
  /-- A label in file names; null for none. -/
  tag : Value
  /-- The name of the run. -/
  runName : Value

namespace Settings

/-- The settings that hold until something else is configured. -/
def standard : Settings :=
  { sizes := [4, 5, 6, 7, 8, 9, 10].map .int
    runs := .int 20
    solutionLimit := .null
    optimized := .bool true
    seed := .int 42
    forced := [(.int 8, .list [Value.ofInts [0, 2], Value.ofInts [3, 3]])]
    directory := .text "results_dlx"
    dated := .bool true
    tag := .null
    runName := .text "RUNID" }

instance : Inhabited Settings := ⟨standard⟩

/-! ## Limits -/

/-- Sets the limits of searches. -/
def withLimits (settings : Settings) (solutionLimit runs seed : Value) : Settings :=
  { settings with solutionLimit := solutionLimit, runs := runs, seed := seed }

/-- The lines that tell the limits. -/
def limitLines (settings : Settings) : List String :=
  ["Search limits configured:",
    "   - Solutions: " ++
      (if settings.solutionLimit.isNull then "unlimited" else settings.solutionLimit.display),
    "   - Random runs per N: " ++ settings.runs.display,
    "   - Seed: " ++ (if settings.seed.isNull then "none" else settings.seed.display)]

/-! ## File names -/

/-- Texts with underscores between them; `place` is the number of the first one. -/
def joined (place : Nat) : List Value → Except Mismatch String
  | [] => .ok ""
  | .text part :: rest => do
      let others ← joined (place + 1) rest
      return if rest.isEmpty then part else part ++ "_" ++ others
  | value :: _ => .error (.notText place value.kind)

/-- The parts of the suffix of file names: the tag and the name of the run. -/
def suffixParts (settings : Settings) : List Value :=
  (if settings.tag.isTrue then [settings.tag] else []) ++
    (if settings.dated.isTrue then [settings.runName] else [])

/-- The suffix that all files of a run have in their names. -/
def suffix (settings : Settings) : Except Mismatch String :=
  let parts := settings.suffixParts
  if parts.isEmpty then .ok "" else do return "_" ++ (← joined 0 parts)

/-- Without a tag and without dates, names have no suffix. -/
theorem suffix_empty {settings : Settings} (tag : settings.tag.isTrue = false)
    (dated : settings.dated.isTrue = false) : settings.suffix = .ok "" := by
  simp [suffix, suffixParts, tag, dated]

end Settings

end ExactCover
