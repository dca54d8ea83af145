import Routing.CommandLine.Arguments

namespace Routing.CommandLine

/-! # Endings

How the program ends: its exit code and what it prints. A failed command ends with 1, arguments that
do not fit with 2.
-/

structure Ending where
  code : UInt8
  /-- The text on standard output. -/
  output : String
  /-- The text on standard error. -/
  complaint : String
  deriving DecidableEq, Repr

def versionText : String := "routemap 0.1.0\n"

def helpText : String :=
  "Usage: routemap [OPTIONS] <COMMAND>\n\n"
    ++ "Commands:\n"
    ++ "  hash ROUTE [NAME=VALUE]... [-l|--link]  Render the path of a route\n"
    ++ "  parse PATH [--json]                     Resolve a path\n"
    ++ "  rules                                   List the rules\n"
    ++ "  dispatch PATH...                        Handle paths in a dry run\n\n"
    ++ "Options:\n"
    ++ "  -c, --config FILE  File of settings [default: routemap.toml]\n"
    ++ "  -v, --verbose      Say more\n"
    ++ "  -V, --version      Print the version\n"
    ++ "  -h, --help         Print this text\n"

/-- The wording of arguments that do not fit. -/
def Misuse.message : Misuse → String
  | unknownSwitch text => s!"unexpected argument '{text}'"
  | repeatedSwitch s => s!"'--{s.word}' cannot be used twice"
  | missingValue s => s!"'--{s.word}' needs a value"
  | unwantedValue s => s!"'--{s.word}' takes no value"
  | unwantedWord text => s!"unexpected argument '{text}'"
  | missingWord => "a required argument is missing"
  | missingCommand => "a command is missing"
  | unknownCommand name => s!"unrecognized command '{name}'"

/-- A failure over several lines, the outermost part first. -/
def failureText (f : Failure) : String :=
  let causes := match f.causes with
    | [] => ""
    | [cause] => "\nCaused by:\n    " ++ cause ++ "\n"
    | causes => "\nCaused by:\n" ++ String.join (causes.mapIdx fun i cause =>
        "    " ++ toString i ++ ": " ++ cause ++ "\n")
  "Error: " ++ f.headline ++ "\n" ++ causes

namespace Ending

def ofMisuse (reason : Misuse) : Ending :=
  ⟨2, "", "error: " ++ reason.message ++ "\n\nFor more information, try '--help'.\n"⟩

def ofResult : Except Failure String → Ending
  | .ok text => ⟨0, text, ""⟩
  | .error f => ⟨1, "", failureText f⟩

/-- How the program ends on a request, given what is found under the name of each file. -/
def ofRequest (source : String → Settings.Source) : Request → Ending
  | .help => ⟨0, helpText, ""⟩
  | .version => ⟨0, versionText, ""⟩
  | .run fileName command => ofResult (command.run fileName (source fileName))

/-- How the program ends on its arguments. -/
def ofArguments (source : String → Settings.Source) (arguments : List String) : Ending :=
  match readArguments arguments with
  | .ok request => ofRequest source request
  | .error reason => ofMisuse reason

end Ending

end Routing.CommandLine
