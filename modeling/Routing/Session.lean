import Routing.Router

namespace Routing

/-! # Sessions

A host works with a router by one operation after another. Operations that only ask for something
leave the router as it is.
-/

/-- What a host does with a router. -/
inductive Operation
  | add (d : Declaration)
  | remove (d : Declaration)
  | render (d : Declaration) (values : Bindings)
  | link (d : Declaration) (values : Bindings)
  | resolve (path : String)
  | setLead (lead : String)
  | setHandlers (handlers : Handlers)
  | insertHandler (method : String) (handler : Handler)
  | removeHandler (method : String)
  /-- The host writes the text that it holds. -/
  | relocate (text : String)
  | handle
  | go (path : String)

/-- The operation handles a path. -/
def Operation.isNavigation : Operation → Bool
  | handle => true
  | go _ => true
  | _ => false

namespace Router

/-- A change that cannot fail. -/
def changed (r : Router) : Outcome := ⟨r, [], .ok ()⟩

/-- An answer that leaves the router as it is. -/
def answered {α : Type} (r : Router) (answer : Except Error α) : Outcome :=
  ⟨r, [], answer.map fun _ => ()⟩

def perform (r : Router) : Operation → Outcome
  | .add d => r.add d
  | .remove d => r.remove d
  | .render d values => r.answered (r.render d values)
  | .link d values => r.answered (r.link d values)
  | .resolve path => r.answered (r.resolve path)
  | .setLead lead => (r.setLead lead).changed
  | .setHandlers handlers => (r.setHandlers handlers).changed
  | .insertHandler method handler => (r.insertHandler method handler).changed
  | .removeHandler method => (r.removeHandler method).changed
  | .relocate text => (r.relocate text).changed
  | .handle => r.handle
  | .go path => r.go path

end Router

/-- An operation on a router. -/
structure Step where
  before : Router
  operation : Operation

def Step.outcome (s : Step) : Outcome := s.before.perform s.operation

namespace Router

/-- The operations of a session, each with the router that it finds. -/
def steps (r : Router) : List Operation → List Step
  | [] => []
  | operation :: operations =>
    ⟨r, operation⟩ :: steps (r.perform operation).router operations

/-- The router after the operations of a session. -/
def run (r : Router) (operations : List Operation) : Router :=
  operations.foldl (fun r operation => (r.perform operation).router) r

end Router

end Routing
