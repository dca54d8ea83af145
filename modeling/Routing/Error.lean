import Routing.Declaration
import Routing.Template.Grammar
import Routing.Text.Shown

namespace Routing

/-! # Errors

Every way in which declaring, rendering, resolving or dispatching can fail, what it is about, and
its wording; and what stops a command.
-/

/-! ## Errors of operations -/

/-- Why something cannot be taken as a rule. -/
inductive Unusable
  /-- A route or a method is empty. -/
  | incomplete (declaration : Declaration)
  /-- A value that is no object, in its written form. -/
  | notAnObject (shown : String)
  /-- A field that is absent, empty or no text. -/
  | missingField (key : String)
  deriving DecidableEq, Repr

/-- The cause of a failed operation. -/
inductive Error
  /-- The template of the route breaks the grammar. -/
  | malformed (route : String) (flaw : Template.Flaw)
  /-- No rule matches the path. -/
  | unmatched (path : String)
  /-- The table holds the rule already. -/
  | alreadyAdded (declaration : Declaration)
  /-- The table does not hold the rule. -/
  | notAdded (declaration : Declaration)
  /-- What was given is no rule. -/
  | notARule (reason : Unusable)
  /-- Nothing is registered under the method of the matched rule. -/
  | noHandler (method : String)
  /-- A required parameter has no value. -/
  | noValue (route : String) (name : String)
  /-- The location cannot be written. -/
  | fixedLocation
  /-- The handler failed, for these causes, the outermost first. -/
  | handlerFailed (method : String) (causes : List String)
  deriving DecidableEq, Repr

/-- The wording of a flaw in a route. -/
def Template.Flaw.message (route : String) : Template.Flaw → String
  | .repeatedName name => s!"duplicate parameter `{name}` in route `{route}`"
  | .requiredTooLate name =>
    s!"required parameter `{name}` follows an optional parameter in route `{route}`"
  | .afterWildcard segment => s!"segment `{segment}` follows a wildcard in route `{route}`"
  | .illFormed segment => s!"invalid segment `{segment}` in route `{route}`"

/-- The wording of what makes something no rule. -/
def Unusable.message : Unusable → String
  | incomplete declaration =>
    s!"rule needs both a route and a method, got {declaration.shown}"
  | notAnObject shown => s!"expected an object, got `{shown}`"
  | missingField key => s!"missing string field `{key}`"

namespace Error

/-- What an error is about. -/
inductive Kind
  /-- A template, or a path that no template matches. -/
  | grammar
  | repeatedRule
  /-- Something given as a rule of the table that is none. -/
  | ruleReference
  | lookup
  | parameter
  | location
  | handler
  deriving DecidableEq, Repr

def kind : Error → Kind
  | malformed _ _ => .grammar
  | unmatched _ => .grammar
  | alreadyAdded _ => .repeatedRule
  | notAdded _ => .ruleReference
  | notARule _ => .ruleReference
  | noHandler _ => .lookup
  | noValue _ _ => .parameter
  | fixedLocation => .location
  | handlerFailed _ _ => .handler

/-- The wording of an error; the causes of a failed handler are not part of it. -/
def message : Error → String
  | malformed route flaw => flaw.message route
  | unmatched path => s!"no route matches `{path}`"
  | alreadyAdded d => s!"rule `{d.route}` -> `{d.method}` is already registered"
  | notAdded d => s!"`{d.route}` -> `{d.method}` is not a registered rule"
  | notARule reason => s!"not a rule: {reason.message}"
  | noHandler method => s!"no handler registered for `{method}`"
  | noValue route name => s!"missing value for parameter `{name}` in route `{route}`"
  | fixedLocation => "location is read-only"
  | handlerFailed method _ => s!"handler `{method}` failed"

end Error

/-! ## Failures of commands -/

/-- What stopped a command: a message, or the fact that a text or a file cannot be read, under the
messages that say what was being done. -/
inductive Failure
  | message (text : String)
  /-- A text is no TOML, or does not hold the settings. -/
  | unreadableToml
  /-- A file cannot be read, or does not hold text. -/
  | unreadableFile
  /-- What was being done when something else failed. -/
  | doing (text : String) (cause : Failure)
  deriving DecidableEq, Repr

namespace Failure

/-- A message with its causes under it, the outermost first. -/
def ofMessages (text : String) : List String → Failure
  | [] => message text
  | cause :: causes => doing text (ofMessages cause causes)

/-- The failure of an operation on routes. -/
def ofError (e : Error) : Failure :=
  match e with
  | .handlerFailed _ causes => ofMessages e.message causes
  | _ => message e.message

/-- The wording of the outermost part. -/
def headline : Failure → String
  | message text => text
  | unreadableToml => "not a table of settings in TOML"
  | unreadableFile => "not a readable text file"
  | doing text _ => text

/-- The wordings of the parts under the outermost one. -/
def causes : Failure → List String
  | doing _ cause => cause.headline :: cause.causes
  | _ => []

end Failure

end Routing
