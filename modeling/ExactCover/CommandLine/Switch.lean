import ExactCover.Text.Digit
import ExactCover.Text.Quoted

/-!
# Switches

The switches of the command line, their spellings, and how a word of the command line is taken for
one of them. A long switch may be cut short as long as no other begins the same way, and its value
may follow an equals sign. The value of a short switch may follow at once.
-/

set_option autoImplicit false

namespace ExactCover.CommandLine

/-- A switch. -/
inductive Switch where
  | help
  | mode
  | size
  | square
  | saveSquares
  | matrix
  | limit
  | runs
  | seed
  | unoptimized
  | configuration
  | plots
  | selfTest
  | validate
deriving DecidableEq

/-- The spellings of the switches, in the order in which they are tried. -/
def spellings : List (String × Switch) :=
  [("-h", .help), ("--help", .help), ("--mode", .mode), ("--n", .size), ("--cell", .square),
    ("-c", .square), ("--save-partial", .saveSquares), ("--matrix", .matrix), ("--limit", .limit),
    ("--runs", .runs), ("--seed", .seed), ("--unoptimized", .unoptimized),
    ("--config", .configuration), ("--plots", .plots), ("--quick-test", .selfTest),
    ("--validate", .validate)]

/-- Whether a switch takes a value. -/
def Switch.takesValue : Switch → Bool
  | .help => false
  | .saveSquares => false
  | .unoptimized => false
  | .plots => false
  | .selfTest => false
  | .validate => false
  | _ => true

/-- A switch by all of its spellings. -/
def Switch.name (switch : Switch) : String :=
  "/".intercalate ((spellings.filter fun entry => entry.2 = switch).map Prod.fst)

/-- What is attached to a switch in one word. -/
inductive Attached where
  | nothing
  /-- A value after an equals sign. -/
  | afterEquals (text : String)
  /-- What follows a short switch at once. -/
  | atOnce (text : String)
deriving DecidableEq

/-- What a word of the command line is. -/
inductive Word where
  /-- No switch: the value of one, or out of place. -/
  | plain (text : String)
  /-- The mark after which no word is a switch. -/
  | mark
  | switch (switch : Switch) (attached : Attached) (text : String)
  | unknown (text : String)

/-- The word as it was given. -/
def Word.text : Word → String
  | .plain text => text
  | .mark => "--"
  | .switch _ _ text => text
  | .unknown text => text

/-- The switch of an exact spelling. -/
def spelled? (text : String) : Option Switch :=
  (spellings.find? fun entry => entry.1 = text).map Prod.snd

/-- What stands before the first equals sign, and what stands behind it if there is one. -/
def cutEquals (text : String) : String × Option String :=
  let characters := text.toList
  match characters.dropWhile (· != '=') with
  | [] => (text, none)
  | _ :: rest => (String.ofList (characters.takeWhile (· != '=')), some (String.ofList rest))

def begins (text start : String) : Bool := start.toList.isPrefixOf text.toList

/-- The value after an equals sign, if there is one. -/
def Attached.ofValue : Option String → Attached
  | some value => .afterEquals value
  | none => .nothing

/-- The long switches that a word may stand for, with their spellings. -/
def longCandidates (text : String) : List (String × Switch × Attached) :=
  let (start, value) := cutEquals text
  (spellings.filter fun entry => begins entry.1 start).map fun entry =>
    (entry.1, entry.2, Attached.ofValue value)

/-- The short switches that a word may stand for, with their spellings. -/
def shortCandidates (text : String) : List (String × Switch × Attached) :=
  let start := String.ofList (text.toList.take 2)
  let rest := String.ofList (text.toList.drop 2)
  spellings.filterMap fun entry =>
    if entry.1 = start then some (entry.1, entry.2, Attached.atOnce rest)
    else if begins entry.1 text then some (entry.1, entry.2, Attached.nothing)
    else none

/-- The switches that a word may stand for which is no exact spelling. -/
def candidates (text : String) : List (String × Switch × Attached) :=
  if begins text "--" then longCandidates text else shortCandidates text

/-- Whether some digits, and nothing but a line feed after them, are left. -/
def endsInDigits (characters : List Char) : Bool :=
  let rest := characters.dropWhile Text.isDigit
  !(characters.takeWhile Text.isDigit).isEmpty && (rest.isEmpty || rest = ['\n'])

/-- Whether a word looks like a negative number: a minus sign, and digits that may hold a point. -/
def isNegativeNumber (text : String) : Bool :=
  match text.toList with
  | '-' :: body =>
      endsInDigits body ||
        (match body.dropWhile Text.isDigit with
          | '.' :: fraction => endsInDigits fraction
          | _ => false)
  | _ => false

/-- A word that may stand for several switches. -/
structure Ambiguity where
  word : String
  spellings : List String

/-- Takes a word for what it is, no mark having come before it. -/
def classify (text : String) : Except Ambiguity Word :=
  if !begins text "-" || text = "-" then .ok (.plain text)
  else
    match spelled? text with
    | some switch => .ok (.switch switch .nothing text)
    | none =>
        match cutEquals text with
        | (start, some value) =>
            match spelled? start with
            | some switch => .ok (.switch switch (.afterEquals value) text)
            | none => guess text
        | _ => guess text
where
  /-- Takes a word for the only switch that it may stand for. -/
  guess (text : String) : Except Ambiguity Word :=
    match candidates text with
    | [(_, switch, attached)] => .ok (.switch switch attached text)
    | [] =>
        if isNegativeNumber text || text.toList.contains ' ' then .ok (.plain text)
        else .ok (.unknown text)
    | several => .error ⟨text, several.map Prod.fst⟩

/-- Takes every word for what it is. -/
def classifyAll : List String → Except Ambiguity (List Word)
  | [] => .ok []
  | text :: rest =>
      if text = "--" then .ok (.mark :: rest.map .plain)
      else do
        let word ← classify text
        return word :: (← classifyAll rest)

end ExactCover.CommandLine
