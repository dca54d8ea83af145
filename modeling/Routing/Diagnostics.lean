import Routing.Router

namespace Routing

/-! # Diagnostic texts

The form in which tokens, rules, visits and routers are shown on one line.
-/

def Token.shown : Token → String
  | literal text => Text.applied "Literal" (Text.quote text)
  | positional .required name => Text.applied "PositionalRequired" (Text.quote name)
  | positional .optional name => Text.applied "PositionalOptional" (Text.quote name)
  | keyed .required name => Text.applied "NamedRequired" (Text.quote name)
  | keyed .optional name => Text.applied "NamedOptional" (Text.quote name)
  | wildcard none => "WildcardPositional"
  | wildcard (some name) => Text.applied "WildcardNamed" (Text.quote name)

def Rule.shown (r : Rule) : String :=
  Text.record "Rule"
    [Text.field "route" (Text.quote r.route), Text.field "method" (Text.quote r.method),
      Text.field "tokens" (Text.listed (r.tokens.map Token.shown))]

def Bindings.shown (bound : Bindings) : String :=
  Text.mapped (bound.toList.map fun entry => (Text.quote entry.1, Text.quote entry.2))

def Visit.shown (v : Visit) : String :=
  Text.record "Snapshot" [Text.field "rule" v.rule.shown, Text.field "args" v.args.shown]

def Handlers.shown (handlers : Handlers) : String :=
  Text.record "Context" [Text.field "methods" (Text.listed (handlers.keys.map Text.quote))]

/-- Leaves out the location and whatever is applied to visits. -/
def Router.shown (r : Router) : String :=
  Text.record "RouteMap"
    [Text.field "rules" (Text.listed (r.table.rules.map Rule.shown)),
      Text.field "context" (Handlers.shown r.handlers),
      Text.field "prefix" (Text.quote r.lead),
      Text.field "current" (Text.optional (r.current.map Visit.shown)),
      Text.field "last" (Text.optional (r.last.map Visit.shown)),
      ".."]

end Routing
