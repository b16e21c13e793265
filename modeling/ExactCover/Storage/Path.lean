import ExactCover.Text.Blank

/-!
# Paths

The parts of a path between slashes, and what is done with paths as texts: joining two of them,
splitting the last part off, writing a path in its plain form, and reducing it by its parts that lead
up.
-/

set_option autoImplicit false

namespace ExactCover.Path

/-- The slashes that begin a path: two of them are told from one, and more count as one. -/
def root (path : String) : String :=
  let leading := (path.toList.takeWhile (· = '/')).length
  if leading = 0 then "" else if leading = 2 then "//" else "/"

/-- The parts of a path between slashes that are not empty. -/
def names (path : String) : List String :=
  ((Text.split '/' path.toList).filter fun part => !part.isEmpty).map String.ofList

/-- The parts of a path. One that begins with a slash begins at the root, whose name is a slash. -/
def parts (path : String) : List String :=
  if root path = "" then names path else "/" :: names path

/-- A path in plain form: without empty parts and parts that stay in place. -/
def plain (path : String) : String :=
  let text := root path ++ "/".intercalate ((names path).filter (· != "."))
  if text = "" then "." else text

/-- Adds a part to the parts before it, the last of which stands first. A part that leads up takes
away the one before; at the root there is none above, and elsewhere it is kept if nothing is left. -/
def reduce (rooted : Bool) (before : List String) (part : String) : List String :=
  if part = "." then before
  else if part = ".." then
    match before with
    | [] => if rooted then [] else [part]
    | last :: others => if last = ".." then part :: before else others
  else part :: before

/-- A path in normal form, in which a part that leads up and the one before it are left out. Nothing
counts behind the character that ends texts. -/
def normal (path : String) : String :=
  let path := String.ofList (path.toList.takeWhile (· != '\x00'))
  let rooted := root path != ""
  let text := root path ++ "/".intercalate ((names path).foldl (reduce rooted) []).reverse
  if text = "" then "." else text

/-- Puts a name behind a directory. -/
def join (directory name : String) : String :=
  if directory = "" || directory.toList.getLast? = some '/' then directory ++ name
  else directory ++ "/" ++ name

/-- What stands before the last slash, without slashes at its end, and what stands behind it. -/
def splitLast (path : String) : String × String :=
  let reversed := path.toList.reverse
  let last := (reversed.takeWhile (· != '/')).reverse
  let front := reversed.dropWhile (· != '/')
  let bare := front.dropWhile (· = '/')
  (String.ofList (if bare.isEmpty then front else bare).reverse, String.ofList last)

/-- The directory of a path and its last name, a slash at the end being ignored. -/
def parentAndName (path : String) : String × String :=
  let (front, last) := splitLast path
  if last = "" then splitLast front else (front, last)

/-- The ending of the last name of a path, with its dot. Dots at the beginning of the name belong to no
ending. -/
def extension (path : String) : String :=
  let name := (path.toList.reverse.takeWhile (· != '/')).reverse
  let bare := name.dropWhile (· = '.')
  if bare.contains '.' then
    String.ofList ('.' :: (bare.reverse.takeWhile (· != '.')).reverse)
  else ""

example : plain "./a//b/." = "a/b" ∧ plain "" = "." ∧ join "out" "x.csv" = "out/x.csv" := by decide +kernel

example : normal "a/../../b" = "../b" ∧ normal "/.." = "/" ∧ normal "" = "." := by decide +kernel

example : extension "m.tar.gz" = ".gz" ∧ extension "d.gz/..m" = "" := by decide +kernel


end ExactCover.Path
