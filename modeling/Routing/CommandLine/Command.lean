import Routing.Declaration.OfJson
import Routing.Settings

namespace Routing
namespace CommandLine

/-! # Commands

Each command loads the rules from the settings and prints one text, or fails and prints nothing.
-/

inductive Command
  /-- Renders the path of a route. -/
  | render (route : String) (params : List String) (link : Bool)
  /-- Resolves a path. -/
  | resolve (path : String) (json : Bool)
  /-- Lists the rules. -/
  | list
  /-- Handles paths one after the other, with handlers that do nothing. -/
  | dispatch (paths : List String)
  deriving DecidableEq, Repr

/-! ## Parameters

Values of parameters are given as `key=value`; the value may hold further `=`. -/

/-- Binds one argument of the form `key=value`. -/
def bindArgument (bound : Bindings) (argument : String) : Except Failure Bindings :=
  match Text.cut? '=' argument.toList with
  | none => .error (.message s!"Expected key=value, got `{argument}`")
  | some ([], _) => .error (.message s!"Empty parameter name in `{argument}`")
  | some (key, value) => .ok (bound.insert (String.ofList key) (String.ofList value))

/-- Binds the arguments in turn, so the last value given for a key stands. -/
def bindings (arguments : List String) : Except Failure Bindings :=
  arguments.foldlM bindArgument ∅

/-! ## Rendering -/

/-- The declaration under which a route is rendered: the first rule with it, or one made up. -/
def declarationFor (r : Router) (route : String) : Declaration :=
  match r.table.rules.find? fun rule => rule.route = route with
  | some rule => rule.toDeclaration
  | none => ⟨route, "-"⟩

/-- The path of a route for the given values, as it stands in the location if `link` is set. -/
def renderRoute (r : Router) (route : String) (values : Bindings) (link : Bool) :
    Except Error String :=
  if link then r.link (declarationFor r route) values else r.render (declarationFor r route) values

/-! ## Resolving -/

/-- One line for each bound value. -/
def bindingLines (margin : String) (bound : Bindings) : String :=
  String.join (bound.toList.map fun (name, value) =>
    margin ++ name ++ " = " ++ Text.quote value ++ "\n")

/-- A visit over several lines. -/
def visitText (v : Visit) : String :=
  v.rule.route ++ " -> " ++ v.rule.method ++ "\n" ++ bindingLines "  " v.args

/-- A visit as a JSON value. -/
def visitJson (v : Visit) : Json :=
  .object
    [("rule", v.rule.toDeclaration.toJson),
      ("args", .object (v.args.toList.map fun (name, value) => (name, .string value)))]

/-! ## Listing -/

/-- Text with blanks after it, up to a number of characters. -/
def padRight (width : Nat) (text : String) : String :=
  text ++ String.ofList (List.replicate (width - text.length) ' ')

/-- Text with blanks before it, up to a number of characters. -/
def padLeft (width : Nat) (text : String) : String :=
  String.ofList (List.replicate (width - text.length) ' ') ++ text

/-- The rules with their numbers, in columns; the second is as wide as the route of most bytes. -/
def tableText (r : Router) : String :=
  let rules := r.table.rules
  if rules.isEmpty then "No rules configured\n"
  else
    let heading := if r.lead = "" then "" else "Prefix: " ++ r.lead ++ "\n\n"
    let width := (rules.map fun rule => rule.route.utf8ByteSize).foldl max 0
    let line (i : Nat) (rule : Rule) : String :=
      padLeft 3 (toString (i + 1)) ++ ". " ++ padRight width rule.route ++ "  " ++ rule.method
        ++ "\n"
    heading ++ String.join (rules.mapIdx line)

/-! ## Dry run -/

/-- A handler that does nothing and succeeds. -/
def idle : Handler := fun _ => {}

/-- Idle handlers for all methods of a table. -/
def idleHandlers (table : RuleTable) : Handlers :=
  table.rules.foldl (fun handlers rule => handlers.insert rule.method idle) ∅

end CommandLine

/-- The router on a memory of its own, with idle handlers for its rules. -/
def Router.idling (r : Router) : Router :=
  { r with location := .memory "/", handlers := CommandLine.idleHandlers r.table }

namespace CommandLine

/-- The outcomes of going to paths one after the other. -/
def goAll (r : Router) : List String → List (String × Outcome)
  | [] => []
  | path :: paths =>
    let outcome := r.go path
    (path, outcome) :: goAll outcome.router paths

/-- What a handler was called with. -/
def callText (n : Navigation) : String :=
  let last := (n.last.map fun v => v.rule.route).getD "(none)"
  "  ✓ " ++ n.current.rule.method ++ " (last: " ++ last ++ ")\n"
    ++ bindingLines "    " n.current.args

/-- The lines for one path: what was called, or why nothing was. -/
def outcomeLines (path : String) (outcome : Outcome) : String :=
  let calls := outcome.events.filterMap fun
    | .called _ navigation => some (callText navigation)
    | _ => none
  let complaint := match outcome.result with
    | .ok () => ""
    | .error e => "  ✗ " ++ e.message ++ "\n"
  "→ " ++ path ++ "\n" ++ String.join calls ++ complaint

/-- Goes to all paths with idle handlers and reports on each. -/
def dryRun (r : Router) (paths : List String) : String :=
  let outcomes := goAll r.idling paths
  let failures := outcomes.countP fun (_, outcome) => outcome.result matches .error _
  let summary :=
    if failures = 0 then ""
    else s!"\n{failures} of {paths.length} paths failed to dispatch\n"
  "Dispatching (dry run)...\n\n"
    ++ String.join (outcomes.map fun (path, outcome) => outcomeLines path outcome) ++ summary

/-! ## Running -/

/-- The router with the rules of a file of settings. -/
def openRouter (fileName : String) (source : Settings.Source) : Except Failure Router := do
  let settings ← Settings.load fileName source
  (Router.ofSettings settings).mapError fun e =>
    .doing "Invalid rule in config" (Failure.ofError e)

/-- What a command prints on a router. -/
def Command.print (r : Router) : Command → Except Failure String
  | render route params link => do
    let values ← bindings params
    let path ← (renderRoute r route values link).mapError Failure.ofError
    return path ++ "\n"
  | resolve path json => do
    let visit ← (r.resolve path).mapError Failure.ofError
    return if json then (visitJson visit).pretty 0 ++ "\n" else visitText visit
  | list => return tableText r
  | dispatch paths => return dryRun r paths

/-- What a command prints with a file of settings. -/
def Command.run (fileName : String) (source : Settings.Source) (c : Command) :
    Except Failure String := do
  c.print (← openRouter fileName source)

end CommandLine

end Routing
