import Routing.Bindings
import Routing.Path
import Routing.Template.Token

namespace Routing.Template

/-! # Matching

A path is matched in two steps. Segments `key=value` whose key the template declares are set aside
wherever they stand; the other segments are aligned with the other tokens from left to right.
-/

/-- The keys that a template takes from `key=value` segments. -/
def keys (tokens : List Token) : List String :=
  (tokens.filter Token.isKeyed).filterMap Token.name

/-- The parts of a segment `key=value` whose key is declared. -/
def keyed? (declared : List String) (segment : String) : Option (String × String) :=
  match Text.cut? '=' segment.toList with
  | some (key, value) =>
    if String.ofList key ∈ declared then some (String.ofList key, String.ofList value) else none
  | none => none

/-- Binds each keyed token to the value found under its key; a required one must have a value. -/
def bindKeyed (found : List (String × String)) : List Token → Option (List (String × String))
  | [] => some []
  | .keyed presence name :: tokens =>
    match found.lookup name, presence with
    | some value, _ => (bindKeyed found tokens).map ((name, Path.decode value) :: ·)
    | none, .optional => bindKeyed found tokens
    | none, .required => none
  | _ :: tokens => bindKeyed found tokens

/-- Takes segments for tokens from left to right. An optional token takes a segment only if enough
segments are left for the mandatory tokens after it; a wildcard takes all that are left. -/
def fill : List Token → List String → Option (List (String × String))
  | [], [] => some []
  | [], _ :: _ => none
  | .literal text :: tokens, segment :: segments =>
    if segment = text then fill tokens segments else none
  | .literal _ :: _, [] => none
  | .positional .required name :: tokens, segment :: segments =>
    (fill tokens segments).map ((name, Path.decode segment) :: ·)
  | .positional .required _ :: _, [] => none
  | .positional .optional name :: tokens, segment :: segments =>
    if tokens.countP Token.takesSegment ≤ segments.length then
      (fill tokens segments).map ((name, Path.decode segment) :: ·)
    else fill tokens (segment :: segments)
  | .positional .optional _ :: tokens, [] => fill tokens []
  | .wildcard name :: tokens, segments =>
    (fill tokens []).map
      ((name.getD Token.anonymous, "/".intercalate (segments.map Path.decode)) :: ·)
  | .keyed _ _ :: tokens, segments => fill tokens segments

/-- The values that a path gives to the parameters of a template, if it matches. -/
def bindings? (tokens : List Token) (path : String) : Option Bindings := do
  let declared := keys tokens
  let segments := Path.segments path
  let found := segments.filterMap (keyed? declared)
  guard (found.map Prod.fst).Nodup
  let named ← bindKeyed found tokens
  let placed ← fill tokens (segments.filter fun segment => (keyed? declared segment).isNone)
  return Bindings.ofPairs (named ++ placed)

end Routing.Template
