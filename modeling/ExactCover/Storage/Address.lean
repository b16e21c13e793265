import ExactCover.Storage.Path

/-!
# Addresses

The name of a file may be an address: a scheme, a host, a path, and further parts that do not count.
Every address also has a place of its own below the working directory, its host being a directory
there. No dots or slashes at its beginning can lead out of that directory.

Main statement: `not_leading_of_bare` (a path below the working directory begins with neither a dot
nor a slash).
-/

set_option autoImplicit false

namespace ExactCover

/-- An address. -/
structure Address where
  scheme : List Char
  host : List Char
  path : List Char

namespace Address

/-- Whether a character can stand in a scheme. -/
def isSchemeCharacter (character : Char) : Bool :=
  character.isAlphanum || character = '+' || character = '-' || character = '.'

/-- Whether a text is a scheme: it begins with a letter. -/
def isScheme : List Char → Bool
  | [] => false
  | first :: rest => first.isAlpha && rest.all isSchemeCharacter

/-- The scheme before the first colon, and what stands behind it. -/
def cutScheme (text : List Char) : List Char × List Char :=
  let start := text.takeWhile (· != ':')
  match text.dropWhile (· != ':') with
  | _ :: rest => if isScheme start then (start.map Char.toLower, rest) else ([], text)
  | [] => ([], text)

/-- Whether a character ends a host. -/
def endsHost (character : Char) : Bool := character = '/' || character = '?' || character = '#'

/-- The host behind two slashes, and what stands behind it. -/
def cutHost : List Char → List Char × List Char
  | '/' :: '/' :: rest => (rest.takeWhile (!endsHost ·), rest.dropWhile (!endsHost ·))
  | text => ([], text)

/-- The schemes whose last names may have parameters. -/
def withParameters : List String :=
  ["", "ftp", "hdl", "prospero", "http", "imap", "https", "shttp", "rtsp", "rtspu", "sip", "sips",
    "mms", "sftp", "tel"]

/-- What stands before the parameters of the last name. -/
def cutParameters (path : List Char) : List Char :=
  let last := (path.reverse.takeWhile (· != '/')).reverse
  path.take (path.length - last.length) ++ last.takeWhile (· != ';')

/-- Reads an address; tabs and ends of lines in it do not count. -/
def ofText (text : String) : Address :=
  let characters := text.toList.filter fun c => c != '\t' && c != '\r' && c != '\n'
  let (scheme, rest) := cutScheme characters
  let (host, rest) := cutHost rest
  let path := (rest.takeWhile (· != '#')).takeWhile (· != '?')
  ⟨scheme, host,
    if withParameters.contains (String.ofList scheme) then cutParameters path else path⟩

/-- Whether an address leads to another machine. -/
def isRemote (address : Address) : Bool := !address.scheme.isEmpty && !address.host.isEmpty

/-- Whether a host has a bracket without the other one. -/
def hasOpenBracket (address : Address) : Bool :=
  address.host.contains '[' != address.host.contains ']'

/-! ## Places of addresses -/

/-- Whether a character could lead out of a directory at the beginning of a path. -/
def isLeading (character : Char) : Bool := character = '/' || character = '.'

/-- A path in normal form without dots and slashes at its beginning. -/
def bare (path : List Char) : List Char :=
  (Path.normal (String.ofList path)).toList.dropWhile isLeading

/-- Nothing that leads is left at the beginning of a text. -/
theorem not_leading_of_dropWhile {text rest : List Char} {first : Char}
    (begins : text.dropWhile isLeading = first :: rest) : isLeading first = false := by
  have found := List.head?_dropWhile_not isLeading text
  rw [begins] at found
  simpa using found

/-- **A path below the working directory begins with neither a dot nor a slash.** -/
theorem not_leading_of_bare {path rest : List Char} {first : Char}
    (begins : bare path = first :: rest) : isLeading first = false := by
  unfold bare at begins
  exact not_leading_of_dropWhile begins

/-- The path of an address below the working directory. -/
def inside (address : Address) : String :=
  let host := bare address.host
  let place := if host.isEmpty then bare address.path else host ++ '/' :: bare address.path
  "./" ++ String.ofList place

example : (ofText "HTTP://h/a/b;p?q#f").inside = "./h/a/b" := by decide +kernel

example : (ofText "../m.txt").inside = "./m.txt" ∧ (ofText "/").inside = "./" := by decide +kernel

end Address

end ExactCover
