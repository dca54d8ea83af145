import Mathlib.Data.List.Forall2
import Routing.Proofs.Path.Pieces
import Routing.Session

namespace Routing

/-! # Routers under different leads

The lead of a router is not seen from inside: two routers that differ only in it, and in the lead
that stands in their locations, do the same with the same operations. What one operation keeps is
said by `Router.Alike.perform`; what is seen of two such routers is `Router.Alike.agrees`. Main
statement: `Router.session_agrees`.
-/

/-- The same text after two leads. -/
def IsUnder (p q left right : String) : Prop :=
  ∃ text, left = p ++ text ∧ right = q ++ text

/-- Reactions that write the same text to the address bar, each after its lead, or write nothing. -/
structure Reaction.Alike (p q : String) (left right : Reaction) : Prop where
  relocate : Option.Rel (IsUnder p q) left.relocate right.relocate
  failure : left.failure = right.failure

/-- Handlers that react alike to every navigation. -/
def Handler.Alike (p q : String) (left right : Handler) : Prop :=
  ∀ navigation, (left navigation).Alike p q (right navigation)

/-- Handlers that are alike, method by method. -/
def Handlers.Alike (p q : String) (left right : Handlers) : Prop :=
  ∀ method : String, Option.Rel (Handler.Alike p q) left[method]? right[method]?

/-- Operations that differ in what is written to the location only, and leave the lead as it is. -/
inductive Operation.Alike (p q : String) : Operation → Operation → Prop
  | add (d : Declaration) : Operation.Alike p q (.add d) (.add d)
  | remove (d : Declaration) : Operation.Alike p q (.remove d) (.remove d)
  | render (d : Declaration) (values : Bindings) :
      Operation.Alike p q (.render d values) (.render d values)
  | link (d : Declaration) (values : Bindings) :
      Operation.Alike p q (.link d values) (.link d values)
  | resolve (path : String) : Operation.Alike p q (.resolve path) (.resolve path)
  | setHandlers {left right : Handlers} (h : left.Alike p q right) :
      Operation.Alike p q (.setHandlers left) (.setHandlers right)
  | insertHandler (method : String) {left right : Handler} (h : left.Alike p q right) :
      Operation.Alike p q (.insertHandler method left) (.insertHandler method right)
  | removeHandler (method : String) :
      Operation.Alike p q (.removeHandler method) (.removeHandler method)
  | relocate (text : String) : Operation.Alike p q (.relocate (p ++ text)) (.relocate (q ++ text))
  | handle : Operation.Alike p q .handle .handle
  | go (path : String) : Operation.Alike p q (.go path) (.go path)

/-- Memories that hold the same text, each after its lead: the address bars, or memories of their
own. A router with a memory of its own reads no address bar, so nothing is asked of the bars
then. -/
inductive Location.Alike (p q : String) (left right : Location) (leftBar rightBar : String) : Prop
  | bar (left_eq : left = .addressBar) (right_eq : right = .addressBar)
      (held : IsUnder p q leftBar rightBar)
  | own (text : String) (left_eq : left = .memory (p ++ text))
      (right_eq : right = .memory (q ++ text))

/-- A location that gives back what is written there. -/
def Location.IsMemory (location : Location) : Prop :=
  location = .addressBar ∨ ∃ held, location = .memory held

namespace Router

/-- Routers that differ in their leads only. -/
structure Alike (p q : String) (r s : Router) : Prop where
  left : r.lead = p
  right : s.lead = q
  table : r.table = s.table
  handlers : r.handlers.Alike p q s.handlers
  location : r.location.Alike p q s.location r.addressBar s.addressBar
  adjust : r.adjust = s.adjust
  current : r.current = s.current
  last : r.last = s.last

/-- The router once its location holds a text, whoever has written it. -/
def holding (r : Router) (text : String) : Router :=
  match r.location with
  | .memory _ => { r with location := .memory text }
  | _ => r.relocate text

/-- What a router with a lead does with paths. -/
structure IsLed (r : Router) (lead : String) : Prop where
  location : r.locationText = lead ++ r.path
  link : ∀ d values, r.link d values = (r.render d values).map (lead ++ ·)
  /-- A link leads to the path that it was made from. -/
  followed : ∀ d values text, r.link d values = .ok text →
    r.render d values = .ok (r.holding text).path
  /-- Going to a path handles this path. -/
  go : ∀ path, r.go path = (r.holding (lead ++ path)).handle ∧
    (r.holding (lead ++ path)).path = path
  /-- Where no rule matches the path, only the location changes. -/
  unmatched : ∀ path e, r.resolve path = .error e →
    r.go path = ⟨r.holding (lead ++ path), [], .error e⟩
  /-- The visit that the path itself leads to is dispatched. -/
  matched : ∀ path visit, r.resolve path = .ok visit →
    r.go path = { (r.holding (lead ++ path)).dispatch (r.adjust visit) with
      events := .resolved visit ::
        ((r.holding (lead ++ path)).dispatch (r.adjust visit)).events }

/-- All that is seen of two routers is the same, but for their leads. -/
structure Agrees (p q : String) (r s : Router) : Prop where
  rules : r.table.rules = s.table.rules
  current : r.current = s.current
  last : r.last = s.last
  path : r.path = s.path
  render : ∀ d values, r.render d values = s.render d values
  resolve : ∀ path, r.resolve path = s.resolve path
  registered : ∀ method : String, r.handlers[method]?.isSome = s.handlers[method]?.isSome
  left : r.IsLed p
  right : s.IsLed q

end Router

/-- The same reports and the same result, and routers that are alike. -/
structure Outcome.Alike (p q : String) (left right : Outcome) : Prop where
  events : left.events = right.events
  result : left.result = right.result
  router : left.router.Alike p q right.router

/-- A step of each of two routers that agree, to routers that agree, with the same reports and the
same result. -/
structure Step.Agrees (p q : String) (a b : Step) : Prop where
  before : a.before.Agrees p q b.before
  events : a.outcome.events = b.outcome.events
  result : a.outcome.result = b.outcome.result
  after : a.outcome.router.Agrees p q b.outcome.router

/-! ## What operations keep -/

variable {p q : String}

theorem Handlers.Alike.insert {left right : Handlers} (h : left.Alike p q right) (method : String)
    {f g : Handler} (hhandler : f.Alike p q g) :
    Handlers.Alike p q (left.insert method f) (right.insert method g) := by
  intro other
  rw [Std.ExtTreeMap.getElem?_insert, Std.ExtTreeMap.getElem?_insert]
  by_cases heq : compare method other = .eq
  · rw [if_pos heq, if_pos heq]
    exact .some hhandler
  · rw [if_neg heq, if_neg heq]
    exact h other

theorem Handlers.Alike.erase {left right : Handlers} (h : left.Alike p q right) (method : String) :
    Handlers.Alike p q (left.erase method) (right.erase method) := by
  intro other
  rw [Std.ExtTreeMap.getElem?_erase, Std.ExtTreeMap.getElem?_erase]
  by_cases heq : compare method other = .eq
  · rw [if_pos heq, if_pos heq]
    exact .none
  · rw [if_neg heq, if_neg heq]
    exact h other

theorem Location.Alike.isMemory {left right : Location} {leftBar rightBar : String}
    (h : left.Alike p q right leftBar rightBar) : left.IsMemory ∧ right.IsMemory := by
  cases h with
  | bar left_eq right_eq => exact ⟨.inl left_eq, .inl right_eq⟩
  | own text left_eq right_eq => exact ⟨.inr ⟨_, left_eq⟩, .inr ⟨_, right_eq⟩⟩

namespace Router.Alike

variable {r s : Router} (h : r.Alike p q s)
include h

/-! ### Changes of one part -/

theorem withTable (table : RuleTable) : Router.Alike p q { r with table } { s with table } :=
  { h with table := rfl }

theorem setHandlers {left right : Handlers} (hhandlers : left.Alike p q right) :
    (r.setHandlers left).Alike p q (s.setHandlers right) :=
  { h with handlers := hhandlers }

theorem enter (visit : Option Visit) :
    Router.Alike p q { r with current := visit } { s with current := visit } :=
  { h with current := rfl }

theorem leave (visit : Option Visit) :
    Router.Alike p q { r with last := visit } { s with last := visit } :=
  { h with last := rfl }

theorem relocate (text : String) : (r.relocate (p ++ text)).Alike p q (s.relocate (q ++ text)) := by
  have hlocation : r.location.Alike p q s.location (p ++ text) (q ++ text) := by
    cases h.location with
    | bar left_eq right_eq => exact .bar left_eq right_eq ⟨text, rfl, rfl⟩
    | own held left_eq right_eq => exact .own held left_eq right_eq
  exact { h with location := hlocation }

/-! ### Paths -/

/-- Both locations hold the path after the lead. -/
theorem locationText : ∃ text, r.locationText = p ++ text ∧ s.locationText = q ++ text := by
  cases h.location with
  | bar left_eq right_eq held =>
    rcases held with ⟨text, hleft, hright⟩
    refine ⟨text, ?_, ?_⟩
    · rw [Router.locationText, left_eq, hleft]
    · rw [Router.locationText, right_eq, hright]
  | own text left_eq right_eq =>
    refine ⟨text, ?_, ?_⟩
    · rw [Router.locationText, left_eq]
    · rw [Router.locationText, right_eq]

theorem path_eq : r.path = s.path := by
  rcases h.locationText with ⟨text, hleft, hright⟩
  rw [path, path, h.left, h.right, hleft, hright, Path.dropLead_append, Path.dropLead_append]

theorem resolve_eq (path : String) : r.resolve path = s.resolve path := by
  rw [resolve, resolve, h.table]

theorem render_eq (d : Declaration) (values : Bindings) :
    r.render d values = s.render d values := by
  rw [render, render, h.table]

/-- Both locations can be written, and hold the path after the lead then. -/
theorem write (path : String) : ∃ written written', r.write path = (written, .ok ()) ∧
    s.write path = (written', .ok ()) ∧ written.Alike p q written' := by
  cases h.location with
  | bar left_eq right_eq =>
    refine ⟨r.relocate (p ++ path), s.relocate (q ++ path), ?_, ?_, h.relocate path⟩
    · rw [Router.write, left_eq, h.left]
    · rw [Router.write, right_eq, h.right]
  | own held left_eq right_eq =>
    refine ⟨{ r with location := .memory (p ++ path) }, { s with location := .memory (q ++ path) },
      ?_, ?_, { h with location := .own path rfl rfl }⟩
    · rw [Router.write, left_eq, h.left]
    · rw [Router.write, right_eq, h.right]

/-! ### Dispatch -/

/-- What handlers write that react alike. -/
theorem react {left right : Reaction} (hreaction : left.Alike p q right) :
    Router.Alike p q
      (match left.relocate with
        | some text => r.relocate text
        | none => r)
      (match right.relocate with
        | some text => s.relocate text
        | none => s) := by
  rcases eq_none_or_exists_of_rel hreaction.relocate with
    ⟨hleft, hright⟩ | ⟨_, _, hleft, hright, hunder⟩
  · rw [hleft, hright]
    exact h
  · rcases hunder with ⟨text, rfl, rfl⟩
    rw [hleft, hright]
    exact h.relocate text

theorem dispatch (visit : Visit) : (r.dispatch visit).Alike p q (s.dispatch visit) := by
  rcases eq_none_or_exists_of_rel (h.handlers visit.rule.method) with
    ⟨hleft, hright⟩ | ⟨f, g, hleft, hright, hhandler⟩
  · rw [Router.dispatch, hleft, Router.dispatch, hright]
    exact ⟨rfl, rfl, h.enter (some visit)⟩
  · -- Both handlers see the same navigation, so only what they write can differ.
    have hnavigation : Navigation.mk visit r.last = ⟨visit, s.last⟩ := by rw [h.last]
    have hreaction : (f ⟨visit, r.last⟩).Alike p q (g ⟨visit, s.last⟩) :=
      hnavigation ▸ hhandler ⟨visit, r.last⟩
    have hmoved := (h.enter (some visit)).react hreaction
    have hfailure := hreaction.failure
    cases hcauses : (g ⟨visit, s.last⟩).failure with
    | some causes =>
      rw [hcauses] at hfailure
      simp only [Router.dispatch, hleft, hright, hfailure, hcauses]
      exact ⟨by rw [hnavigation], rfl, hmoved⟩
    | none =>
      rw [hcauses] at hfailure
      simp only [Router.dispatch, hleft, hright, hfailure, hcauses]
      exact ⟨by rw [hnavigation], rfl, hmoved.leave (some visit)⟩

theorem handle : r.handle.Alike p q s.handle := by
  have hpath : s.resolve s.path = r.resolve r.path := by
    rw [← h.path_eq, h.resolve_eq]
  unfold Router.handle
  rw [hpath]
  cases r.resolve r.path with
  | error e => exact ⟨rfl, rfl, h⟩
  | ok visit =>
    rw [← h.adjust]
    have hdispatch := h.dispatch (r.adjust visit)
    exact { hdispatch with events := congrArg (Event.resolved visit :: ·) hdispatch.events }

theorem go (path : String) : (r.go path).Alike p q (s.go path) := by
  rcases h.write path with ⟨written, written', hleft, hright, halike⟩
  rw [go_of_write_eq_ok hleft, go_of_write_eq_ok hright]
  exact halike.handle

/-- Operations that are alike do the same to routers that are. -/
theorem perform {operation operation' : Operation} (hop : operation.Alike p q operation') :
    (r.perform operation).Alike p q (s.perform operation') := by
  cases hop with
  | add d =>
    rw [Router.perform, Router.perform, Router.add, Router.add, ← h.table]
    cases r.table.add d with
    | ok result => exact ⟨rfl, rfl, h.withTable result.2⟩
    | error e => exact ⟨rfl, rfl, h⟩
  | remove d =>
    rw [Router.perform, Router.perform, Router.remove, Router.remove, ← h.table]
    cases r.table.remove d with
    | ok result => exact ⟨rfl, rfl, h.withTable result.2⟩
    | error e => exact ⟨rfl, rfl, h⟩
  | render d values =>
    refine ⟨rfl, ?_, h⟩
    simp only [Router.perform, Router.answered, h.render_eq]
  | link d values =>
    refine ⟨rfl, ?_, h⟩
    simp only [Router.perform, Router.answered, Router.link, h.render_eq]
    cases s.render d values <;> rfl
  | resolve path =>
    refine ⟨rfl, ?_, h⟩
    simp only [Router.perform, Router.answered, h.resolve_eq]
  | setHandlers hhandlers => exact ⟨rfl, rfl, h.setHandlers hhandlers⟩
  | insertHandler method hhandler =>
    exact ⟨rfl, rfl, h.setHandlers (h.handlers.insert method hhandler)⟩
  | removeHandler method => exact ⟨rfl, rfl, h.setHandlers (h.handlers.erase method)⟩
  | relocate text => exact ⟨rfl, rfl, h.relocate text⟩
  | handle => exact h.handle
  | go path => exact h.go path

end Router.Alike

/-! ## What is seen of a router with a lead -/

namespace Router

section
variable {r : Router} (hmemory : r.location.IsMemory)
include hmemory

omit hmemory in
/-- Whoever writes the location, nothing else changes. -/
theorem exists_holding_eq (text : String) :
    ∃ location addressBar, r.holding text = { r with location, addressBar } := by
  unfold holding
  split
  · exact ⟨.memory text, r.addressBar, rfl⟩
  · exact ⟨r.location, text, rfl⟩

theorem locationText_holding (text : String) : (r.holding text).locationText = text := by
  rcases hmemory with hbar | ⟨held, hown⟩
  · rw [holding, hbar, locationText, relocate, hbar]
  · rw [holding, hown, locationText]

theorem path_holding (path : String) : (r.holding (r.lead ++ path)).path = path := by
  have hlead : (r.holding (r.lead ++ path)).lead = r.lead := by
    rcases r.exists_holding_eq (r.lead ++ path) with ⟨location, addressBar, hholding⟩
    rw [hholding]
  rw [Router.path, hlead, locationText_holding hmemory, Path.dropLead_append]

theorem write_holding (path : String) : r.write path = (r.holding (r.lead ++ path), .ok ()) := by
  rcases hmemory with hbar | ⟨held, hown⟩
  · rw [write, holding, hbar]
  · rw [write, holding, hown]

/-- The path that is handled is resolved by the same rules. -/
theorem resolve_holding (path : String) :
    (r.holding (r.lead ++ path)).resolve (r.holding (r.lead ++ path)).path = r.resolve path := by
  rw [path_holding hmemory]
  rcases r.exists_holding_eq (r.lead ++ path) with ⟨location, addressBar, hholding⟩
  rw [hholding, resolve_moved]

omit hmemory in
theorem adjust_holding (text : String) : (r.holding text).adjust = r.adjust := by
  rcases r.exists_holding_eq text with ⟨location, addressBar, hholding⟩
  rw [hholding]

theorem isLed (hheld : ∃ text, r.locationText = r.lead ++ text) : r.IsLed r.lead where
  location := by
    rcases hheld with ⟨text, htext⟩
    rw [path, htext, Path.dropLead_append]
  link d values := by
    unfold link
    cases r.render d values <;> rfl
  followed d values text hlink := by
    unfold link at hlink
    cases hrender : r.render d values with
    | error e =>
      rw [hrender] at hlink
      cases hlink
    | ok path =>
      rw [hrender] at hlink
      cases hlink
      rw [path_holding hmemory]
  go path := ⟨go_of_write_eq_ok (write_holding hmemory path), path_holding hmemory path⟩
  unmatched path e hresolve := by
    rw [← resolve_holding hmemory] at hresolve
    rw [go_of_write_eq_ok (write_holding hmemory path), handle_of_resolve_eq_error hresolve]
  matched path visit hresolve := by
    rw [← resolve_holding hmemory] at hresolve
    rw [go_of_write_eq_ok (write_holding hmemory path), handle_of_resolve_eq_ok hresolve,
      adjust_holding]

end

theorem Alike.agrees {r s : Router} (h : r.Alike p q s) : r.Agrees p q s where
  rules := by rw [h.table]
  current := h.current
  last := h.last
  path := h.path_eq
  render := h.render_eq
  resolve := h.resolve_eq
  registered method := by
    rcases eq_none_or_exists_of_rel (h.handlers method) with
      ⟨hleft, hright⟩ | ⟨_, _, hleft, hright, -⟩
    · rw [hleft, hright]
    · rw [hleft, hright, Option.isSome_some, Option.isSome_some]
  left := by
    rcases h.locationText with ⟨text, hleft, -⟩
    exact h.left ▸ isLed h.location.isMemory.1 ⟨text, h.left.symm ▸ hleft⟩
  right := by
    rcases h.locationText with ⟨text, -, hright⟩
    exact h.right ▸ isLed h.location.isMemory.2 ⟨text, h.right.symm ▸ hright⟩

/-- Routers that differ in their leads only agree at every step of sessions that differ in nothing
else either, and at the end. -/
theorem session_agrees (p q : String) (r s : Router) (operations operations' : List Operation)
    (h : r.Alike p q s) (hsession : List.Forall₂ (Operation.Alike p q) operations operations') :
    List.Forall₂ (Step.Agrees p q) (r.steps operations) (s.steps operations') ∧
      (r.run operations).Agrees p q (s.run operations') := by
  induction hsession generalizing r s with
  | nil => exact ⟨.nil, h.agrees⟩
  | cons hop _ ih =>
    have hstep := h.perform hop
    rcases ih _ _ hstep.router with ⟨hsteps, hend⟩
    exact ⟨.cons ⟨h.agrees, hstep.events, hstep.result, hstep.router.agrees⟩ hsteps, hend⟩

/-- One lead may begin with the other, and paths with either. -/
theorem session_agrees_of_nested_leads :
    let r (lead : String) : Router :=
      { Router.new RuleTable.empty lead .addressBar with addressBar := lead ++ "#/" }
    let forward (lead : String) : Handler := fun navigation =>
      { relocate := some (lead ++ (navigation.arg? "a").getD "") }
    let operations (lead : String) : List Operation :=
      [.add ⟨"/:a/:b", "show"⟩, .insertHandler "show" (forward lead), .handle,
        .relocate (lead ++ "#/#/"), .go "/#/x", .link ⟨"/:a", "show"⟩ (.ofPairs [("a", "#")])]
    (r "#").Alike "#" "#/" (r "#/") ∧
      List.Forall₂ (Operation.Alike "#" "#/") (operations "#") (operations "#/") ∧
      List.Forall₂ (Step.Agrees "#" "#/") ((r "#").steps (operations "#"))
        ((r "#/").steps (operations "#/")) ∧
      ((r "#").run (operations "#")).Agrees "#" "#/" ((r "#/").run (operations "#/")) := by
  intro r forward operations
  have hforward : Handler.Alike "#" "#/" (forward "#") (forward "#/") := fun navigation =>
    ⟨.some ⟨(navigation.arg? "a").getD "", rfl, rfl⟩, rfl⟩
  have hempty : Handlers.Alike "#" "#/" ∅ ∅ := by
    intro method
    rw [Std.ExtTreeMap.getElem?_empty]
    exact .none
  have halike : (r "#").Alike "#" "#/" (r "#/") :=
    { left := rfl, right := rfl, table := rfl, handlers := hempty,
      location := .bar rfl rfl ⟨"#/", rfl, rfl⟩, adjust := rfl, current := rfl, last := rfl }
  have hsession : List.Forall₂ (Operation.Alike "#" "#/") (operations "#") (operations "#/") :=
    .cons (.add _) (.cons (.insertHandler _ hforward) (.cons .handle (.cons (.relocate _)
      (.cons (.go _) (.cons (.link _ _) .nil)))))
  exact ⟨halike, hsession, session_agrees _ _ _ _ _ _ halike hsession⟩

end Router

end Routing
