import ExactCover.CommandLine.Switch
import ExactCover.Value.Number

/-!
# Options

What a command line asks for. Its words are gone through from left to right; a word that is neither a
switch nor the value of one is refused in the end, when all others have been found to be right.
-/

set_option autoImplicit false

namespace ExactCover.CommandLine

/-- What is to be done. -/
inductive Mode where
  | experiments
  | enumerate
  | random
  | forced
  | matrix
deriving DecidableEq

/-- The modes by name. -/
def modes : List (String × Mode) :=
  [("experiments", .experiments), ("enumerate", .enumerate), ("random", .random),
    ("partial", .forced), ("matrix", .matrix)]

/-- The options of a run. A value that is nothing but the mark between words is taken away, and an
empty list is left of it; so the values of options are checked where they are used. -/
structure Options where
  mode : Mode := .experiments
  size : Value := .int 8
  /-- The texts that name squares with forced queens. -/
  squares : List Value := []
  saveSquares : Bool := false
  /-- The path of a matrix; null for none. -/
  matrix : Value := .null
  /-- After how many solutions to stop; null if the settings decide. -/
  limit : Value := .null
  runs : Value := .int 2
  /-- Where random numbers begin; null if the settings decide. -/
  seed : Value := .null
  unoptimized : Bool := false
  configuration : Value := .text "config.json"
  plots : Bool := false
  selfTest : Bool := false
  validate : Bool := false

/-- What is wrong with the use of a switch. -/
inductive Misuse where
  | noValue
  | superfluousValue (value : String)
  | noInteger (value : String)
  | noChoice (value : String)

/-- The wording of a misuse. -/
def Misuse.message : Misuse → String
  | .noValue => "expected one argument"
  | .superfluousValue value => "ignored explicit argument " ++ Text.quoted value
  | .noInteger value => "invalid int value: " ++ Text.quoted value
  | .noChoice value =>
      "invalid choice: " ++ Text.quoted value ++ " (choose from " ++
        ", ".intercalate (modes.map fun entry => Text.quoted entry.1) ++ ")"

/-- Why a command line is not carried out. -/
inductive Refusal where
  | ambiguous (word : String) (spellings : List String)
  | misused (switch : Switch) (how : Misuse)
  | unrecognized (words : List String)

/-- The wording of a refusal. -/
def Refusal.message : Refusal → String
  | .ambiguous word spellings =>
      "ambiguous option: " ++ word ++ " could match " ++ ", ".intercalate spellings
  | .misused switch how => "argument " ++ switch.name ++ ": " ++ how.message
  | .unrecognized words => "unrecognized arguments: " ++ " ".intercalate words

/-- What a command line comes to if it asks for no run. -/
inductive Stop where
  | help
  | refused (refusal : Refusal)

def refuse {α : Type} (switch : Switch) (how : Misuse) : Except Stop α :=
  .error (.refused (.misused switch how))

/-- What is left of a value that is nothing but the mark between words. -/
def nothingLeft : Value := .list []

/-- A value as a text. -/
def textValue (value : String) : Value := if value = "--" then nothingLeft else .text value

/-- The integer of a value. -/
def integerOf (switch : Switch) (value : String) : Except Stop Value :=
  if value = "--" then .ok nothingLeft
  else
    match Text.readInteger value with
    | .ok number => .ok (.int number)
    | .error _ => refuse switch (.noInteger value)

/-- The mode of a value. No name at all is a name for none of the modes before the last. -/
def modeOf (value : String) : Except Stop Mode :=
  if value = "--" then .ok .matrix
  else
    match modes.find? fun entry => entry.1 = value with
    | some (_, mode) => .ok mode
    | none => refuse .mode (.noChoice value)

/-- Sets the value of a switch. -/
def Options.withValue (options : Options) (switch : Switch) (value : String) :
    Except Stop Options :=
  match switch with
  | .mode => do return { options with mode := ← modeOf value }
  | .size => do return { options with size := ← integerOf switch value }
  | .square => .ok { options with squares := options.squares ++ [textValue value] }
  | .matrix => .ok { options with matrix := textValue value }
  | .limit => do return { options with limit := ← integerOf switch value }
  | .runs => do return { options with runs := ← integerOf switch value }
  | .seed => do return { options with seed := ← integerOf switch value }
  | .configuration => .ok { options with configuration := textValue value }
  | _ => .ok options

/-- Sets a switch that takes no value. -/
def Options.withSwitch (options : Options) : Switch → Options
  | .saveSquares => { options with saveSquares := true }
  | .unoptimized => { options with unoptimized := true }
  | .plots => { options with plots := true }
  | .selfTest => { options with selfTest := true }
  | .validate => { options with validate := true }
  | _ => options

/-- Checks the letters that follow a request for help in the same word. They are taken as short
switches; `valueFollows` says whether the next word can be the value of one. -/
def helpAfter (valueFollows : Bool) : List Char → Stop
  | [] => .help
  | 'h' :: rest => helpAfter valueFollows rest
  | ['c'] => if valueFollows then .help else .refused (.misused .square .noValue)
  | 'c' :: _ => .help
  | rest => .refused (.misused .help (.superfluousValue (String.ofList rest)))

/-- What a request for help with something attached to it comes to. -/
def helpWith (valueFollows : Bool) (attached : String) : Stop :=
  if attached = "" then .refused (.misused .help (.superfluousValue ""))
  else helpAfter valueFollows attached.toList

/-- Whether the next word can be the value of a switch. -/
def valueFollows : List Word → Bool
  | .plain _ :: _ => true
  | _ => false

/-- Goes through words. `strays` are the words that are out of place, the latest first. -/
def collect (options : Options) (strays : List String) :
    List Word → Except Stop (Options × List String)
  | [] => .ok (options, strays.reverse)
  | .switch switch attached text :: rest =>
      match switch.takesValue, attached, rest with
      | true, .afterEquals value, rest => do collect (← options.withValue switch value) strays rest
      | true, .atOnce value, rest => do collect (← options.withValue switch value) strays rest
      | true, .nothing, .plain value :: rest => do
          collect (← options.withValue switch value) strays rest
      | true, .nothing, _ => refuse switch .noValue
      | false, .afterEquals value, rest =>
          if begins text "--" then refuse switch (.superfluousValue value)
          else .error (helpWith (valueFollows rest) value)
      | false, .atOnce tail, rest => .error (helpWith (valueFollows rest) tail)
      | false, .nothing, rest =>
          if switch = .help then .error .help else collect (options.withSwitch switch) strays rest
  | word :: rest => collect options (word.text :: strays) rest

/-- Reads a command line. -/
def read (words : List String) : Except Stop Options := do
  match classifyAll words with
  | .error ambiguity => throw (.refused (.ambiguous ambiguity.word ambiguity.spellings))
  | .ok words =>
      let (options, strays) ← collect {} [] words
      if strays.isEmpty then return options else throw (.refused (.unrecognized strays))

end ExactCover.CommandLine
