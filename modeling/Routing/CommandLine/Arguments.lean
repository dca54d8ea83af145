import Routing.CommandLine.Command
import Routing.Text.Cut

namespace Routing.CommandLine

/-! # Arguments

Arguments are read from left to right. Switches may stand before the command, where only those of
the program count, and among the words of the command. The first argument that does not fit
decides.
-/

/-! ## Switches -/

inductive Switch
  | config
  | verbose
  | version
  | help
  | link
  | json
  deriving DecidableEq, Repr

namespace Switch

/-- The letter after one dash. -/
def letter? : Switch → Option Char
  | config => some 'c'
  | verbose => some 'v'
  | version => some 'V'
  | help => some 'h'
  | link => some 'l'
  | json => none

/-- The word after two dashes. -/
def word : Switch → String
  | config => "config"
  | verbose => "verbose"
  | version => "version"
  | help => "help"
  | link => "link"
  | json => "json"

def takesValue : Switch → Bool
  | config => true
  | _ => false

end Switch

/-! ## Reading one level -/

/-- What may stand before a command, or after it. -/
structure Scope where
  switches : List Switch
  /-- How many words may stand here. -/
  words : Nat → Bool
  /-- The first word ends the level. -/
  endsAtWord : Bool

/-- Why arguments do not fit. -/
inductive Misuse
  | unknownSwitch (text : String)
  | repeatedSwitch (s : Switch)
  | missingValue (s : Switch)
  | unwantedValue (s : Switch)
  | unwantedWord (text : String)
  | missingWord
  | missingCommand
  | unknownCommand (name : String)
  deriving DecidableEq, Repr

/-- Why reading ends before the last argument. -/
inductive Stop
  | help
  | version
  | misuse (reason : Misuse)
  deriving DecidableEq, Repr

/-- What was read on a level; a switch without a value has the empty text. -/
structure Level where
  given : List (Switch × String) := []
  words : List String := []
  deriving DecidableEq, Repr

namespace Level

/-- Takes a switch with its value. No switch is given twice. -/
def note (level : Level) (s : Switch) (value : String) : Except Stop Level :=
  match s with
  | .help => .error .help
  | .version => .error .version
  | _ =>
    if (level.given.lookup s).isSome then .error (.misuse (.repeatedSwitch s))
    else if s.takesValue ∧ value = "" then .error (.misuse (.missingValue s))
    else .ok { level with given := (s, value) :: level.given }

/-- Takes a word, if one more may stand here. -/
def addWord (scope : Scope) (level : Level) (text : String) : Except Stop Level :=
  if scope.words (level.words.length + 1) then .ok { level with words := level.words ++ [text] }
  else .error (.misuse (.unwantedWord text))

/-- Reads the letters after one dash. A letter that takes a value takes the rest of the letters; if
there is none, its switch is given back, since the value is the next argument. -/
def noteLetters (scope : Scope) (level : Level) : List Char → Except Stop (Level × Option Switch)
  | [] => .ok (level, none)
  | c :: rest =>
    match scope.switches.find? fun s => s.letter? = some c with
    | none => .error (.misuse (.unknownSwitch (String.ofList ['-', c])))
    | some s =>
      if s.takesValue then
        match rest with
        | [] => .ok (level, some s)
        | '=' :: value => return (← level.note s (String.ofList value), none)
        | value => return (← level.note s (String.ofList value), none)
      else do noteLetters scope (← level.note s "") rest

/-- Reads the text after two dashes, a word or `word=value`. -/
def noteWord (scope : Scope) (level : Level) (text : List Char) :
    Except Stop (Level × Option Switch) :=
  let (name, value?) := match Text.cut? '=' text with
    | some (name, value) => (String.ofList name, some (String.ofList value))
    | none => (String.ofList text, none)
  match scope.switches.find? fun s => s.word = name with
  | none => .error (.misuse (.unknownSwitch ("--" ++ name)))
  | some s =>
    match value?, s.takesValue with
    | some value, true => return (← level.note s value, none)
    | some _, false => .error (.misuse (.unwantedValue s))
    | none, true => .ok (level, some s)
    | none, false => return (← level.note s "", none)

/-- Reads a level: what was read, and the arguments from the word that ends it on. A switch may wait
for its value. -/
def read (scope : Scope) (level : Level) (waiting : Option Switch) :
    List String → Except Stop (Level × List String)
  | [] =>
    match waiting with
    | some s => .error (.misuse (.missingValue s))
    | none => .ok (level, [])
  | argument :: rest =>
    match waiting, argument.toList with
    | some s, '-' :: _ :: _ => .error (.misuse (.missingValue s))
    | some s, _ => do read scope (← level.note s argument) none rest
    | none, ['-', '-'] => do
      let level ← rest.foldlM (addWord scope) level
      return (level, [])
    | none, '-' :: '-' :: text => do
      let (level, waiting) ← level.noteWord scope text
      read scope level waiting rest
    | none, '-' :: c :: letters => do
      let (level, waiting) ← level.noteLetters scope (c :: letters)
      read scope level waiting rest
    | none, _ =>
      if scope.endsAtWord then .ok (level, argument :: rest)
      else do read scope (← level.addWord scope argument) none rest

end Level

/-! ## Requests -/

/-- What the arguments ask for. -/
inductive Request
  | help
  | version
  | run (fileName : String) (command : Command)
  deriving DecidableEq, Repr

/-- The file of settings unless another is given. -/
def defaultFile : String := "routemap.toml"

/-- The names of the commands. -/
def commandNames : List String := ["hash", "parse", "rules", "dispatch", "help"]

/-- What may stand before the command. -/
def programScope : Scope := ⟨[.config, .verbose, .version, .help], (· = 0), true⟩

/-- What may stand after a command, and the command that its words and switches give. -/
def commandScope? : String → Option (Scope × (Level → Option Command))
  | "hash" => some (⟨[.config, .verbose, .help, .link], fun _ => true, false⟩, fun level =>
      match level.words with
      | [] => none
      | route :: params => some (.render route params (level.given.lookup .link).isSome))
  | "parse" => some (⟨[.config, .verbose, .help, .json], (· ≤ 1), false⟩, fun level =>
      match level.words with
      | [path] => some (.resolve path (level.given.lookup .json).isSome)
      | _ => none)
  | "rules" => some (⟨[.config, .verbose, .help], (· = 0), false⟩, fun _ => some .list)
  | "dispatch" => some (⟨[.config, .verbose, .help], fun _ => true, false⟩, fun level =>
      if level.words = [] then none else some (.dispatch level.words))
  | _ => none

/-- The command with the given name and arguments, and the file of settings that they name. -/
def readCommand (name : String) (arguments : List String) :
    Except Stop (Command × Option String) :=
  if name = "help" then
    match arguments with
    | [] => .error .help
    | [topic] =>
      if topic ∈ commandNames then .error .help else .error (.misuse (.unknownCommand topic))
    | _ :: topic :: _ => .error (.misuse (.unknownCommand topic))
  else
    match commandScope? name with
    | none => .error (.misuse (.unknownCommand name))
    | some (scope, build) => do
      let (level, _) ← Level.read scope {} none arguments
      match build level with
      | none => .error (.misuse .missingWord)
      | some command => .ok (command, level.given.lookup .config)

/-- The command that the arguments give and its file of settings; a file named after the command
counts more than one named before it. -/
def readRun (arguments : List String) : Except Stop (String × Command) := do
  let (level, rest) ← Level.read programScope {} none arguments
  match rest with
  | [] => .error (.misuse .missingCommand)
  | name :: rest =>
    let (command, file?) ← readCommand name rest
    return (file?.getD ((level.given.lookup .config).getD defaultFile), command)

/-- What the arguments of the program ask for. -/
def readArguments (arguments : List String) : Except Misuse Request :=
  match readRun arguments with
  | .ok (fileName, command) => .ok (.run fileName command)
  | .error .help => .ok .help
  | .error .version => .ok .version
  | .error (.misuse reason) => .error reason

end Routing.CommandLine
