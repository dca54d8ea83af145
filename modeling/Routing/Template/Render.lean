import Routing.Bindings
import Routing.Path
import Routing.Template.Token

namespace Routing.Template

/-! # Rendering

A template and values for its parameters give a path. Parameters that may be left out add nothing;
when nothing but the leading fixed texts is left, the path ends in a slash.
-/

/-- What a parameter without a value adds: nothing if it may be left out. -/
def leaveOut (presence : Presence) (name : String) : Except String String :=
  match presence with
  | .required => .error name
  | .optional => .ok ""

/-- What a token adds to the path, or the name of the parameter whose value is missing. -/
def emit (values : Bindings) : Token → Except String String
  | .literal text => .ok ("/" ++ text)
  | .positional presence name =>
    match values.filled? name with
    | some value => .ok ("/" ++ Path.encode value)
    | none => leaveOut presence name
  | .keyed presence name =>
    match values[name]? with
    | some value => .ok ("/" ++ name ++ "=" ++ Path.encode value)
    | none => leaveOut presence name
  | .wildcard name =>
    let pieces := Path.encodePieces (values.getD (name.getD Token.anonymous) "")
    .ok (if pieces = "" then "" else "/" ++ pieces)

/-- What tokens add to the path, or the name of the first parameter whose value is missing. -/
def emitAll (values : Bindings) (tokens : List Token) : Except String String :=
  return String.join (← tokens.mapM (emit values))

/-- The path of a template, or the name of the first parameter whose value is missing. -/
def render (tokens : List Token) (values : Bindings) : Except String String := do
  let rest := tokens.dropWhile Token.isLiteral
  let lead ← emitAll values (tokens.takeWhile Token.isLiteral)
  let body ← emitAll values rest
  return if body = "" ∧ (rest ≠ [] ∨ lead = "") then lead ++ "/" else lead ++ body

end Routing.Template
