import ExactCover.CommandLine.Options

/-!
# Usage

The texts that tell how the command line is used.
-/

set_option autoImplicit false

namespace ExactCover.CommandLine

/-- The lines that name all switches. -/
def usageLines : List String :=
  ["usage: dancelinks [-h] [--mode \x7bexperiments,enumerate,random,partial,matrix\x7d]",
    "                  [--n N] [--cell CELL] [--save-partial] [--matrix MATRIX]",
    "                  [--limit LIMIT] [--runs RUNS] [--seed SEED] [--unoptimized]",
    "                  [--config CONFIG] [--plots] [--quick-test] [--validate]"]

/-- The lines that explain every switch. -/
def explanationLines : List String :=
  ["",
    "Exact cover with dancing links: N-Queens and 0/1 matrices.",
    "",
    "options:",
    "  -h, --help            show this help message and exit",
    "  --mode \x7bexperiments,enumerate,random,partial,matrix\x7d",
    "                        What to run: the configured experiment suite",
    "                        (default), or print solutions.",
    "  --n N                 Board size for enumerate/random/partial (default: 8).",
    "  --cell CELL, -c CELL  Forced queen for partial mode, as R<rank>F<file> or",
    "                        rank,file (repeatable).",
    "  --save-partial        In partial mode, store the --cell squares for --n in",
    "                        the configuration file.",
    "  --matrix MATRIX       Whitespace separated 0/1 matrix file for matrix mode",
    "                        (default: Knuth's example).",
    "  --limit LIMIT         Stop after this many solutions.",
    "  --runs RUNS           Random solutions to print in random mode (default: 2).",
    "  --seed SEED           Seed for random mode (overrides the configured seed).",
    "  --unoptimized         Pick the first active column instead of the smallest.",
    "  --config CONFIG       Path to configuration file (default: config.json).",
    "  --plots               Save PNG charts after the experiment suite.",
    "  --quick-test          Run quick regression tests and exit.",
    "  --validate            Validate every solution and every undo (extra",
    "                        assertions)."]

/-- Lines with their ends. -/
def textOf (lines : List String) : String := String.join (lines.map fun line => line ++ "\n")

/-- What is printed for a request for help. -/
def helpText : String := textOf (usageLines ++ explanationLines)

/-- What is printed for a command line that is refused. -/
def refusalText (refusal : Refusal) : String :=
  textOf (usageLines ++ ["dancelinks: error: " ++ refusal.message])

end ExactCover.CommandLine
