import Routing.RuleTable

namespace Routing

/-! # Routers

A router reads the current path from its location, resolves it in its table and calls the handler of
the matched rule. It remembers the visit being handled and the last one that succeeded.
-/

/-! ## Handlers -/

/-- What a handler sees when its method is called: the visit that is being handled, and the last one
that was handled without failure. -/
structure Navigation where
  current : Visit
  last : Option Visit
  deriving DecidableEq

/-- The value of a parameter in the visit that is being handled. -/
def Navigation.arg? (n : Navigation) (name : String) : Option String := n.current.args[name]?

/-- What a handler does. -/
structure Reaction where
  /-- The text that it writes to the host's address bar, if it writes any. -/
  relocate : Option String := none
  /-- Why it fails, the outermost cause first, if it fails. -/
  failure : Option (List String) := none
  deriving DecidableEq

/-- Answers a navigation. -/
abbrev Handler := Navigation → Reaction

/-- Handlers by method. -/
abbrev Handlers := Std.ExtTreeMap String Handler

/-! ## Locations and routers -/

/-- What a host makes of the text that it holds, when a path is read or written there. -/
structure Host where
  /-- The path that is found, given the text that the host holds. -/
  read (held : String) : String
  /-- What the host holds after a path is written, and whether it takes the path. -/
  write (path held : String) : String × Except Error Unit

/-- Where a router reads its path, and writes it. -/
inductive Location
  /-- The host's address bar, which handlers write too. -/
  | addressBar
  /-- A memory of the router's own. -/
  | memory (path : String)
  /-- A path that cannot be written. -/
  | fixed (path : String)
  /-- A host that reads and writes in its own way. -/
  | hosted (host : Host)

/-- A rule table with handlers, a location and the history of navigation. -/
structure Router where
  table : RuleTable
  handlers : Handlers
  /-- Stands before every path in the location. -/
  lead : String
  location : Location
  /-- The text of the host's address bar, or what else the host holds. -/
  addressBar : String
  /-- Applied to a visit before it is handled. -/
  adjust : Visit → Visit
  current : Option Visit
  last : Option Visit

/-- What an operation reports to observers, in order. -/
inductive Event
  | ruleAdded (rule : Rule)
  /-- A rule matched; the visit is as found, before anything is applied to it. -/
  | resolved (visit : Visit)
  | called (method : String) (navigation : Navigation)

/-- The router after an operation, what it reported, and whether it succeeded. -/
structure Outcome where
  router : Router
  events : List Event
  result : Except Error Unit

namespace Router

/-- A router without handlers or history that reads from a location. -/
def new (table : RuleTable) (lead : String) (location : Location) : Router where
  table := table
  handlers := ∅
  lead := lead
  location := location
  addressBar := "/"
  adjust := id
  current := none
  last := none

/-! ## Rules and paths -/

def add (r : Router) (d : Declaration) : Outcome :=
  match r.table.add d with
  | .ok (rule, table) => ⟨{ r with table }, [.ruleAdded rule], .ok ()⟩
  | .error e => ⟨r, [], .error e⟩

def remove (r : Router) (d : Declaration) : Outcome :=
  match r.table.remove d with
  | .ok (_, table) => ⟨{ r with table }, [], .ok ()⟩
  | .error e => ⟨r, [], .error e⟩

/-- The path of a rule, registered or not, for the given values. -/
def render (r : Router) (d : Declaration) (values : Bindings) : Except Error String :=
  r.table.render d values

/-- The path of a rule as it stands in the location. -/
def link (r : Router) (d : Declaration) (values : Bindings) : Except Error String :=
  return r.lead ++ (← r.render d values)

def resolve (r : Router) (path : String) : Except Error Visit :=
  r.table.resolve path

/-! ## Handlers and lead -/

def setLead (r : Router) (lead : String) : Router := { r with lead }

def setHandlers (r : Router) (handlers : Handlers) : Router := { r with handlers }

/-- Registers a handler in place of the one for the same method, if there is one. -/
def insertHandler (r : Router) (method : String) (handler : Handler) : Router :=
  r.setHandlers (r.handlers.insert method handler)

def removeHandler (r : Router) (method : String) : Router :=
  r.setHandlers (r.handlers.erase method)

/-! ## Location -/

/-- The whole text of the location. -/
def locationText (r : Router) : String :=
  match r.location with
  | .addressBar => r.addressBar
  | .memory path => path
  | .fixed path => path
  | .hosted host => host.read r.addressBar

/-- The path in the location. -/
def path (r : Router) : String := Path.dropLead r.lead r.locationText

/-- The host writes its address bar. -/
def relocate (r : Router) (text : String) : Router := { r with addressBar := text }

/-- Writes a path to the location, unless that is read-only. -/
def write (r : Router) (path : String) : Router × Except Error Unit :=
  match r.location with
  | .addressBar => (r.relocate (r.lead ++ path), .ok ())
  | .memory _ => ({ r with location := .memory (r.lead ++ path) }, .ok ())
  | .fixed _ => (r, .error .fixedLocation)
  | .hosted host =>
    let (held, result) := host.write (r.lead ++ path) r.addressBar
    (r.relocate held, result)

/-! ## Dispatch -/

/-- Calls the handler of a visit. The visit is current from then on, and the last one if the handler
does not fail. -/
def dispatch (r : Router) (visit : Visit) : Outcome :=
  let method := visit.rule.method
  let entered := { r with current := some visit }
  match r.handlers[method]? with
  | none => ⟨entered, [], .error (.noHandler method)⟩
  | some handler =>
    let navigation := ⟨visit, r.last⟩
    let reaction := handler navigation
    let left := match reaction.relocate with
      | some text => entered.relocate text
      | none => entered
    match reaction.failure with
    | some causes => ⟨left, [.called method navigation], .error (.handlerFailed method causes)⟩
    | none => ⟨{ left with last := some visit }, [.called method navigation], .ok ()⟩

/-- Handles the path in the location. -/
def handle (r : Router) : Outcome :=
  match r.resolve r.path with
  | .error e => ⟨r, [], .error e⟩
  | .ok visit =>
    let outcome := r.dispatch (r.adjust visit)
    { outcome with events := .resolved visit :: outcome.events }

/-- Writes a path to the location and handles it. -/
def go (r : Router) (path : String) : Outcome :=
  match r.write path with
  | (written, .error e) => ⟨written, [], .error e⟩
  | (written, .ok ()) => written.handle

/-! ## What operations come to -/

/-- Writing changes where the path stands, and nothing else. -/
theorem write_eq (r : Router) (path : String) : ∃ location addressBar result,
    r.write path = ({ r with location, addressBar }, result) := by
  unfold write
  split
  · exact ⟨r.location, r.lead ++ path, .ok (), rfl⟩
  · exact ⟨.memory (r.lead ++ path), r.addressBar, .ok (), rfl⟩
  · exact ⟨r.location, r.addressBar, .error .fixedLocation, rfl⟩
  · exact ⟨r.location, _, _, rfl⟩

/-- A router finds the same rules wherever it reads its path. -/
theorem resolve_moved (r : Router) (location : Location) (addressBar path : String) :
    { r with location, addressBar }.resolve path = r.resolve path := rfl

variable {r : Router}

theorem handle_of_resolve_eq_error {e : Error} (h : r.resolve r.path = .error e) :
    r.handle = ⟨r, [], .error e⟩ := by
  rw [handle, h]

/-- Once a rule matches, the adjusted visit is dispatched. -/
theorem handle_of_resolve_eq_ok {visit : Visit} (h : r.resolve r.path = .ok visit) :
    r.handle = { r.dispatch (r.adjust visit) with
      events := .resolved visit :: (r.dispatch (r.adjust visit)).events } := by
  rw [handle, h]

/-- Going to a path ends where it cannot be written. -/
theorem go_of_write_eq_error {path : String} {written : Router} {e : Error}
    (h : r.write path = (written, .error e)) : r.go path = ⟨written, [], .error e⟩ := by
  rw [go, h]

/-- Once a path is written it is handled. -/
theorem go_of_write_eq_ok {path : String} {written : Router}
    (h : r.write path = (written, .ok ())) : r.go path = written.handle := by
  rw [go, h]

end Router

end Routing
