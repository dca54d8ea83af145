import Routing.Error
import Routing.Router
import Routing.Text.Character
import Routing.Toml.Document

namespace Routing

/-! # Settings

A file of settings gives the text before every path, the first path, and the rules in the order in
which they are tried. Keys that have no meaning here are passed over.
-/

/-- What a file of settings holds. -/
structure Settings where
  /-- Stands before every path in the location. -/
  lead : String := ""
  /-- The text of the location at first. -/
  start : String := "/"
  rules : List Declaration := []
  deriving DecidableEq, Repr

namespace Settings

/-! ## From TOML -/

def text? : Toml → Option String
  | .string text => some text
  | _ => none

/-- A text, or the default if the key is absent. -/
def textOr? (fallback : String) : Option Toml → Option String
  | none => some fallback
  | some value => text? value

/-- The lead and the start: a table, an array of both in order, or a date, which sets nothing. -/
def routing? : Option Toml → Option (String × String)
  | none => some ("", "/")
  | some (.table _ entries) =>
    return (← textOr? "" (entries.lookup "prefix"), ← textOr? "/" (entries.lookup "start"))
  | some (.array items) => return (← textOr? "" items[0]?, ← textOr? "/" items[1]?)
  | some (.dateTime _) => some ("", "/")
  | some _ => none

/-- A rule: a table, or an array of route and method. -/
def declaration? : Toml → Option Declaration
  | .table _ entries =>
    return ⟨← entries.lookup "route" >>= text?, ← entries.lookup "method" >>= text?⟩
  | .array items => return ⟨← items[0]? >>= text?, ← items[1]? >>= text?⟩
  | _ => none

/-- The rules: an array, or tables one by one. -/
def rules? : Option Toml → Option (List Declaration)
  | none => some []
  | some (.array items) => items.mapM declaration?
  | some (.tables elements) => elements.mapM declaration?
  | some _ => none

/-- The settings that a TOML text stands for. -/
def ofToml (text : String) : Except Failure Settings :=
  let settings? : Option Settings := do
    let entries ← Toml.parse? text
    let (lead, start) ← routing? (entries.lookup "routing")
    let rules ← rules? (entries.lookup "rules")
    return { lead, start, rules }
  match settings? with
  | some settings => .ok settings
  | none => .error .unreadableToml

/-! ## From files -/

/-- What is found under the name of a file. -/
inductive Source
  | missing
  /-- Something that cannot be read as a file. -/
  | unreadable
  | bytes (content : List UInt8)
  deriving DecidableEq, Repr

/-- The settings of a file. A file that is missing or blank sets nothing. -/
def load (fileName : String) (source : Source) : Except Failure Settings :=
  let unreadable : Except Failure Settings :=
    .error (.doing ("Failed to read config file: " ++ Text.quoteName fileName) .unreadableFile)
  match source with
  | .missing => .ok {}
  | .unreadable => unreadable
  | .bytes content =>
    match String.fromUTF8? ⟨content.toArray⟩ with
    | none => unreadable
    | some text =>
      if Text.isBlank text then .ok {}
      else
        (ofToml text).mapError
          (.doing ("Failed to parse config file: " ++ Text.quoteName fileName))

end Settings

/-- The router that settings describe, without handlers, on a memory of its own. -/
def Router.ofSettings (s : Settings) : Except Error Router :=
  return .new (← RuleTable.ofDeclarations s.rules) s.lead (.memory s.start)

end Routing
