import ExactCover.Storage.Address
import ExactCover.Storage.Packing
import ExactCover.Storage.Tree

/-!
# Looking files up

A file that is to be read may go by several names: the path as it is given, the path with the ending of
a packed file, and the same for its place below the working directory. The first of these under which
something is found is the one that is opened. A name is also found by its own place below the working
directory, although it is then not opened there.

Main statement: `lookUp_of_isPresent` (a path on this machine that leads to something is opened as it
is).
-/

set_option autoImplicit false

namespace ExactCover

/-- Why no file is found. -/
inductive LookupError where
  | notFound (path : String)
  /-- The host of an address has a bracket without the other one. -/
  | badHost
deriving DecidableEq

/-- The wording of an error. -/
def LookupError.message : LookupError → String
  | .notFound path => path ++ " not found."
  | .badHost => "Invalid IPv6 URL"

namespace FileTree

/-- A path, and the paths that it may be packed at. A path of a packed file is left alone. -/
def spellings (path : String) : List String :=
  if Packing.ofPath path = .plain then path :: Packing.endings.map fun entry => path ++ entry.1
  else [path]

/-- The names of a file in the order in which they are tried. An address of another machine is looked
for below the working directory first. -/
def candidates (path : String) : List String :=
  let address := Address.ofText path
  if address.isRemote then spellings address.inside ++ spellings path
  else spellings path ++ spellings address.inside

/-- Whether something stands at a path, or at its place below the working directory. -/
def isKnown (tree : FileTree) (path : String) : Bool :=
  tree.isPresent path || tree.isPresent (Address.ofText path).inside

/-- The name under which a file is opened. -/
def lookUp (tree : FileTree) (path : String) : Except LookupError String :=
  if (Address.ofText path).hasOpenBracket then .error .badHost
  else
    match (candidates path).find? tree.isKnown with
    | some name => .ok name
    | none => .error (.notFound path)

/-- **A path on this machine that leads to something is opened as it is.** -/
theorem lookUp_of_isPresent {tree : FileTree} {path : String}
    (here : (Address.ofText path).host = []) (present : tree.isPresent path = true) :
    tree.lookUp path = .ok path := by
  have isNear : (Address.ofText path).isRemote = false := by simp [Address.isRemote, here]
  have known : tree.isKnown path = true := by simp [isKnown, present]
  have noBracket : (Address.ofText path).hasOpenBracket = false := by
    simp [Address.hasOpenBracket, here]
  have first : (candidates path).find? tree.isKnown = some path := by
    by_cases packed : Packing.ofPath path = .plain <;>
      simp [candidates, isNear, spellings, packed, known]
  simp [lookUp, noBracket, first]

end FileTree

end ExactCover
