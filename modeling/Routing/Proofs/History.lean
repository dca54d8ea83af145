import Routing.Session

namespace Routing

/-! # The history of a session

Which visits a router remembers after any sequence of operations, and which handlers it has called.
What a single operation can do is said once (`Step.exit`); the rest follows from it. Main statement:
`Router.history`.
-/

/-- The handlers that were called, by their methods, and what they saw. -/
def Outcome.calls (o : Outcome) : List (String × Navigation) :=
  o.events.filterMap fun
    | .called method navigation => some (method, navigation)
    | _ => none

/-- The visit that the path in the location leads to. -/
def Router.destination? (r : Router) : Option Visit :=
  (r.resolve r.path).toOption.map r.adjust

namespace Step

/-- The visit that a navigation leads to, if it gets as far as a matching rule. -/
def visit? (s : Step) : Option Visit :=
  match s.operation with
  | .handle => s.before.destination?
  | .go path =>
    match s.before.write path with
    | (written, .ok ()) => written.destination?
    | (_, .error _) => none
  | _ => none

/-- The operation is a navigation that succeeded. -/
def isCompleted (s : Step) : Bool := s.operation.isNavigation && s.outcome.result.isOk

/-- The remembered visits stay. -/
def IsUnmoved (s : Step) : Prop :=
  s.outcome.router.current = s.before.current ∧ s.outcome.router.last = s.before.last

/-- Everything that an operation can do to the history of a router. -/
inductive Exit (s : Step) : Prop
  /-- No rule is reached. -/
  | idle (visit : s.visit? = none) (unmoved : s.IsUnmoved) (calls : s.outcome.calls = [])
      (incomplete : s.isCompleted = false)
  /-- A rule matches, and nothing is registered under its method. -/
  | missing {visit : Visit} (visited : s.visit? = some visit)
      (registered : s.before.handlers[visit.rule.method]? = none)
      (current : s.outcome.router.current = some visit)
      (last : s.outcome.router.last = s.before.last) (calls : s.outcome.calls = [])
      (result : s.outcome.result = .error (.noHandler visit.rule.method))
  /-- The handler is called and fails. -/
  | failed {visit : Visit} {handler : Handler} {causes : List String}
      (visited : s.visit? = some visit)
      (registered : s.before.handlers[visit.rule.method]? = some handler)
      (failure : (handler ⟨visit, s.before.last⟩).failure = some causes)
      (current : s.outcome.router.current = some visit)
      (last : s.outcome.router.last = s.before.last)
      (calls : s.outcome.calls = [(visit.rule.method, ⟨visit, s.before.last⟩)])
      (result : s.outcome.result = .error (.handlerFailed visit.rule.method causes))
  /-- The handler is called and succeeds. -/
  | completed {visit : Visit} {handler : Handler} (visited : s.visit? = some visit)
      (registered : s.before.handlers[visit.rule.method]? = some handler)
      (success : (handler ⟨visit, s.before.last⟩).failure = none)
      (current : s.outcome.router.current = some visit)
      (last : s.outcome.router.last = some visit)
      (calls : s.outcome.calls = [(visit.rule.method, ⟨visit, s.before.last⟩)])
      (result : s.outcome.result = .ok ())

end Step

/-! ## One operation -/

namespace Router

variable (r : Router)

theorem add_keeps (d : Declaration) : (r.add d).router.current = r.current ∧
    (r.add d).router.last = r.last ∧ (r.add d).calls = [] := by
  unfold add
  split
  · exact ⟨rfl, rfl, rfl⟩
  · exact ⟨rfl, rfl, rfl⟩

theorem remove_keeps (d : Declaration) : (r.remove d).router.current = r.current ∧
    (r.remove d).router.last = r.last ∧ (r.remove d).calls = [] := by
  unfold remove
  split
  · exact ⟨rfl, rfl, rfl⟩
  · exact ⟨rfl, rfl, rfl⟩

theorem destination?_of_resolve_eq_error {e : Error} (h : r.resolve r.path = .error e) :
    r.destination? = none := by
  unfold destination?
  rw [h]
  rfl

/-- Handling a path is dispatching its destination, but for the report of the rule found. -/
theorem destination?_of_resolve_eq_ok {visit : Visit} (h : r.resolve r.path = .ok visit) :
    r.destination? = some (r.adjust visit) ∧
      r.handle.router = (r.dispatch (r.adjust visit)).router ∧
      r.handle.calls = (r.dispatch (r.adjust visit)).calls ∧
      r.handle.result = (r.dispatch (r.adjust visit)).result := by
  unfold destination?
  rw [handle_of_resolve_eq_ok h, h]
  exact ⟨rfl, rfl, rfl, rfl⟩

variable {visit : Visit} {handler : Handler}

theorem dispatch_of_not_registered (h : r.handlers[visit.rule.method]? = none) :
    r.dispatch visit =
      ⟨{ r with current := some visit }, [], .error (.noHandler visit.rule.method)⟩ := by
  rw [dispatch, h]

/-- A registered handler is called once, and the visit is current whatever it does. -/
theorem dispatch_of_registered (h : r.handlers[visit.rule.method]? = some handler) :
    (r.dispatch visit).router.current = some visit ∧
      (r.dispatch visit).calls = [(visit.rule.method, ⟨visit, r.last⟩)] := by
  simp only [dispatch, h]
  cases (handler ⟨visit, r.last⟩).relocate <;> cases (handler ⟨visit, r.last⟩).failure <;>
    exact ⟨rfl, rfl⟩

theorem dispatch_of_failure (h : r.handlers[visit.rule.method]? = some handler)
    {causes : List String} (hfailure : (handler ⟨visit, r.last⟩).failure = some causes) :
    (r.dispatch visit).router.last = r.last ∧
      (r.dispatch visit).result = .error (.handlerFailed visit.rule.method causes) := by
  simp only [dispatch, h, hfailure]
  refine ⟨?_, trivial⟩
  cases (handler ⟨visit, r.last⟩).relocate <;> rfl

theorem dispatch_of_success (h : r.handlers[visit.rule.method]? = some handler)
    (hsuccess : (handler ⟨visit, r.last⟩).failure = none) :
    (r.dispatch visit).router.last = some visit ∧ (r.dispatch visit).result = .ok () := by
  simp only [dispatch, h, hsuccess]
  exact ⟨trivial, trivial⟩

end Router

namespace Step

theorem isCompleted_of_not_isNavigation {s : Step} (h : s.operation.isNavigation = false) :
    s.isCompleted = false := by
  unfold isCompleted
  rw [h, Bool.false_and]

/-- An operation that is no navigation keeps what is remembered. -/
theorem exit_of_not_isNavigation {s : Step} (h : s.operation.isNavigation = false) : s.Exit := by
  have hincomplete := isCompleted_of_not_isNavigation h
  rcases s with ⟨r, operation⟩
  cases operation with
  | add d =>
    rcases r.add_keeps d with ⟨hcurrent, hlast, hcalls⟩
    exact .idle rfl ⟨hcurrent, hlast⟩ hcalls hincomplete
  | remove d =>
    rcases r.remove_keeps d with ⟨hcurrent, hlast, hcalls⟩
    exact .idle rfl ⟨hcurrent, hlast⟩ hcalls hincomplete
  | handle => cases h
  | go path => cases h
  | _ => exact .idle rfl ⟨rfl, rfl⟩ rfl hincomplete

theorem exit_handle (r : Router) : Exit ⟨r, .handle⟩ := by
  cases hresolve : r.resolve r.path with
  | error e =>
    have hhandle : outcome ⟨r, .handle⟩ = ⟨r, [], .error e⟩ :=
      Router.handle_of_resolve_eq_error hresolve
    refine .idle (r.destination?_of_resolve_eq_error hresolve) ?_ ?_ ?_
    · unfold IsUnmoved
      rw [hhandle]
      exact ⟨rfl, rfl⟩
    · rw [hhandle]
      rfl
    · unfold isCompleted
      rw [hhandle]
      rfl
  | ok visit =>
    rcases r.destination?_of_resolve_eq_ok hresolve with ⟨hvisit, hrouter, hcalls, hresult⟩
    -- From here on only the adjusted visit matters.
    generalize r.adjust visit = visit at hvisit hrouter hcalls hresult
    cases hhandler : r.handlers[visit.rule.method]? with
    | none =>
      rw [r.dispatch_of_not_registered hhandler] at hrouter hcalls hresult
      have hcurrent := congrArg Router.current hrouter
      have hlast := congrArg Router.last hrouter
      exact .missing hvisit hhandler hcurrent hlast hcalls hresult
    | some handler =>
      rcases r.dispatch_of_registered hhandler with ⟨hcurrent, hcalled⟩
      rw [← hrouter] at hcurrent
      rw [← hcalls] at hcalled
      cases hfailure : (handler ⟨visit, r.last⟩).failure with
      | some causes =>
        rcases r.dispatch_of_failure hhandler hfailure with ⟨hlast, hfailed⟩
        rw [← hrouter] at hlast
        rw [← hresult] at hfailed
        exact .failed hvisit hhandler hfailure hcurrent hlast hcalled hfailed
      | none =>
        rcases r.dispatch_of_success hhandler hfailure with ⟨hlast, hok⟩
        rw [← hrouter] at hlast
        rw [← hresult] at hok
        exact .completed hvisit hhandler hfailure hcurrent hlast hcalled hok

/-- The exits of a step are told by its visit and its outcome, and by what the router remembers. -/
theorem Exit.congr {s t : Step} (h : s.Exit) (hvisit : s.visit? = t.visit?)
    (houtcome : s.outcome = t.outcome)
    (hnavigation : s.operation.isNavigation = t.operation.isNavigation)
    (hhandlers : s.before.handlers = t.before.handlers)
    (hcurrent : s.before.current = t.before.current) (hlast : s.before.last = t.before.last) :
    t.Exit := by
  cases h with
  | idle visit unmoved calls incomplete =>
    rw [hvisit] at visit
    unfold IsUnmoved at unmoved
    rw [houtcome, hcurrent, hlast] at unmoved
    rw [houtcome] at calls
    unfold isCompleted at incomplete
    rw [hnavigation, houtcome] at incomplete
    exact .idle visit unmoved calls incomplete
  | missing visited registered current last calls result =>
    rw [hvisit] at visited
    rw [hhandlers] at registered
    rw [houtcome] at current last calls result
    exact .missing visited registered current (last.trans hlast) calls result
  | failed visited registered failure current last calls result =>
    rw [hvisit] at visited
    rw [hhandlers] at registered
    rw [houtcome] at current last calls result
    rw [hlast] at failure last calls
    exact .failed visited registered failure current last calls result
  | completed visited registered success current last calls result =>
    rw [hvisit] at visited
    rw [hhandlers] at registered
    rw [houtcome] at current last calls result
    rw [hlast] at success calls
    exact .completed visited registered success current last calls result

theorem exit_go (r : Router) (path : String) : Exit ⟨r, .go path⟩ := by
  rcases r.write_eq path with ⟨location, addressBar, result, hwrite⟩
  cases result with
  | error e =>
    have hgo : outcome ⟨r, .go path⟩ = ⟨{ r with location, addressBar }, [], .error e⟩ :=
      Router.go_of_write_eq_error hwrite
    refine .idle (by simp only [visit?, hwrite]) ?_ ?_ ?_
    · unfold IsUnmoved
      rw [hgo]
      exact ⟨rfl, rfl⟩
    · rw [hgo]
      rfl
    · unfold isCompleted
      rw [hgo]
      rfl
  | ok _ =>
    -- Once the location is written, the rest is handling it.
    refine (exit_handle { r with location, addressBar }).congr ?_ ?_ rfl rfl rfl rfl
    · simp only [visit?, hwrite]
    · exact (Router.go_of_write_eq_ok hwrite).symm

/-- Every operation ends in one of the exits. -/
theorem exit (s : Step) : s.Exit := by
  rcases s with ⟨r, operation⟩
  cases operation with
  | handle => exact exit_handle r
  | go path => exact exit_go r path
  | _ => exact exit_of_not_isNavigation rfl

/-- What a step may change, and whom it calls. -/
structure IsRegular (s : Step) : Prop where
  /-- An operation that is no navigation leaves the visits alone. -/
  other : s.operation.isNavigation = false → s.IsUnmoved ∧ s.outcome.calls = []
  /-- So does a navigation that finds no rule, or a location that cannot be written. -/
  unreached : (∃ path, s.outcome.result = .error (.unmatched path)) ∨
    s.outcome.result = .error .fixedLocation → s.IsUnmoved ∧ s.outcome.calls = []
  /-- What leads to no visit changes nothing, and what leads to one makes it current. -/
  unvisited : s.visit? = none → s.IsUnmoved ∧ s.outcome.calls = []
  visited : ∀ visit, s.visit? = some visit → s.outcome.router.current = some visit
  /-- The last visit changes with success only. -/
  unsuccessful : s.outcome.result ≠ .ok () → s.outcome.router.last = s.before.last
  missing : ∀ visit, s.visit? = some visit → s.before.handlers[visit.rule.method]? = none →
    s.outcome.calls = [] ∧ s.outcome.result = .error (.noHandler visit.rule.method)
  /-- The handler under the method of the visit is called once, and decides the result. -/
  called : ∀ visit handler, s.visit? = some visit →
    s.before.handlers[visit.rule.method]? = some handler →
      s.outcome.calls = [(visit.rule.method, ⟨visit, s.before.last⟩)] ∧
        s.outcome.result =
          match (handler ⟨visit, s.before.last⟩).failure with
          | none => .ok ()
          | some causes => .error (.handlerFailed visit.rule.method causes)

theorem isNavigation_of_visit? {s : Step} {visit : Visit} (h : s.visit? = some visit) :
    s.operation.isNavigation = true := by
  rcases s with ⟨r, operation⟩
  cases operation with
  | handle => rfl
  | go path => rfl
  | _ => cases h

theorem isCompleted_iff {s : Step} :
    s.isCompleted = true ↔ s.operation.isNavigation = true ∧ s.outcome.result = .ok () := by
  unfold isCompleted
  rw [Bool.and_eq_true]
  cases s.outcome.result <;> simp [Except.isOk, Except.toBool]

theorem current_outcome (s : Step) :
    s.outcome.router.current = s.visit?.or s.before.current := by
  cases s.exit with
  | idle visit unmoved => rw [visit, Option.none_or, unmoved.1]
  | missing visited _ current => rw [visited, Option.some_or, current]
  | failed visited _ _ current => rw [visited, Option.some_or, current]
  | completed visited _ _ current => rw [visited, Option.some_or, current]

/-- A navigation that succeeds leads to a visit, and remembers it as the last one. -/
theorem last_outcome_of_isCompleted {s : Step} (h : s.isCompleted = true) :
    ∃ visit, s.visit? = some visit ∧ s.outcome.router.last = some visit := by
  have hok := (isCompleted_iff.1 h).2
  cases s.exit with
  | idle _ _ _ incomplete =>
    rw [incomplete] at h
    exact Bool.noConfusion h
  | missing _ _ _ _ _ result =>
    rw [result] at hok
    cases hok
  | failed _ _ _ _ _ _ result =>
    rw [result] at hok
    cases hok
  | completed visited _ _ _ last => exact ⟨_, visited, last⟩

theorem last_outcome_of_not_isCompleted {s : Step} (h : s.isCompleted = false) :
    s.outcome.router.last = s.before.last := by
  cases s.exit with
  | idle _ unmoved => exact unmoved.2
  | missing _ _ _ last => exact last
  | failed _ _ _ _ last => exact last
  | completed visited _ _ _ _ _ result =>
    rw [isCompleted_iff.2 ⟨isNavigation_of_visit? visited, result⟩] at h
    exact Bool.noConfusion h

theorem isRegular (s : Step) : s.IsRegular where
  other h := by
    -- Only a navigation has a visit.
    cases s.exit with
    | idle _ unmoved calls => exact ⟨unmoved, calls⟩
    | missing visited => exact absurd (isNavigation_of_visit? visited) (by simp [h])
    | failed visited => exact absurd (isNavigation_of_visit? visited) (by simp [h])
    | completed visited => exact absurd (isNavigation_of_visit? visited) (by simp [h])
  unreached h := by
    cases s.exit with
    | idle _ unmoved calls => exact ⟨unmoved, calls⟩
    | missing _ _ _ _ _ result => simp [result] at h
    | failed _ _ _ _ _ _ result => simp [result] at h
    | completed _ _ _ _ _ _ result => simp [result] at h
  unvisited h := by
    cases s.exit with
    | idle _ unmoved calls => exact ⟨unmoved, calls⟩
    | missing visited => simp [h] at visited
    | failed visited => simp [h] at visited
    | completed visited => simp [h] at visited
  visited visit h := by rw [current_outcome, h, Option.some_or]
  unsuccessful h := by
    refine last_outcome_of_not_isCompleted (Bool.eq_false_iff.2 fun hcompleted => ?_)
    exact h (isCompleted_iff.1 hcompleted).2
  missing visit h hnone := by
    cases s.exit with
    | idle visit => simp [h] at visit
    | missing visited _ _ _ calls result =>
      cases visited.symm.trans h
      exact ⟨calls, result⟩
    | failed visited registered =>
      cases visited.symm.trans h
      simp [hnone] at registered
    | completed visited registered =>
      cases visited.symm.trans h
      simp [hnone] at registered
  called visit handler h hhandler := by
    cases s.exit with
    | idle visit => simp [h] at visit
    | missing visited registered =>
      cases visited.symm.trans h
      simp [hhandler] at registered
    | failed visited registered failure _ _ calls result =>
      cases visited.symm.trans h
      cases registered.symm.trans hhandler
      exact ⟨calls, by rw [result, failure]⟩
    | completed visited registered success _ _ calls result =>
      cases visited.symm.trans h
      cases registered.symm.trans hhandler
      exact ⟨calls, by rw [result, success]⟩

end Step

/-! ## A whole session -/

namespace Router

/-- The current visit is the one that the most recent navigation led to, of those that led to
any. -/
theorem current_run (r : Router) (operations : List Operation) :
    (r.run operations).current =
      ((r.steps operations).filterMap Step.visit?).getLast?.or r.current := by
  induction operations generalizing r with
  | nil => rfl
  | cons operation operations ih =>
    have hstep := Step.current_outcome ⟨r, operation⟩
    rw [run, List.foldl_cons, ← run, ih, steps, List.filterMap_cons]
    change (r.perform operation).router.current = _ at hstep
    rw [hstep]
    cases hvisit : Step.visit? ⟨r, operation⟩ with
    | none => rfl
    | some visit =>
      rw [List.getLast?_cons]
      cases ((steps _ operations).filterMap Step.visit?).getLast? <;> rfl

/-- The last visit is the one that the most recent completed navigation led to. -/
theorem last_run (r : Router) (operations : List Operation) :
    (r.run operations).last =
      (((r.steps operations).filter Step.isCompleted).getLast?.bind Step.visit?).or r.last := by
  induction operations generalizing r with
  | nil => rfl
  | cons operation operations ih =>
    rw [run, List.foldl_cons, ← run, ih, steps, List.filter_cons]
    cases hcompleted : Step.isCompleted ⟨r, operation⟩ with
    | false =>
      have hlast : (r.perform operation).router.last = r.last :=
        Step.last_outcome_of_not_isCompleted hcompleted
      rw [hlast]
      rfl
    | true =>
      -- This visit is the last one unless a later navigation is completed.
      rcases Step.last_outcome_of_isCompleted hcompleted with ⟨visit, hvisit, hlast⟩
      change (r.perform operation).router.last = _ at hlast
      rw [if_pos rfl, List.getLast?_cons, hlast]
      cases hlater : ((steps _ operations).filter Step.isCompleted).getLast? with
      | none => simp [hvisit]
      | some later =>
        -- A later completed navigation has led to a visit of its own.
        have hmem := List.mem_of_getLast? hlater
        rcases Step.last_outcome_of_isCompleted (List.mem_filter.1 hmem).2 with ⟨other, hother, -⟩
        simp [hother]

/-- A router that has navigated nowhere remembers, after any operations, the visits of the most
recent navigations: of those that led to a visit, and of those that were completed. -/
theorem history (table : RuleTable) (lead : String) (location : Location) (handlers : Handlers)
    (adjust : Visit → Visit) (held : String) (operations : List Operation) :
    let r : Router :=
      { Router.new table lead location with handlers, adjust, addressBar := held }
    (r.run operations).current = ((r.steps operations).filterMap Step.visit?).getLast? ∧
      (r.run operations).last =
        ((r.steps operations).filter Step.isCompleted).getLast?.bind Step.visit? ∧
      ∀ step ∈ r.steps operations, step.IsRegular := by
  intro r
  refine ⟨?_, ?_, fun step _ => step.isRegular⟩
  · rw [current_run]
    exact Option.or_none
  · rw [last_run]
    exact Option.or_none

end Router

end Routing
