import Mathlib.Data.List.Nodup
import Routing.Proofs.Template.Grammar
import Routing.Session

namespace Routing

/-! # Tables as ordered sets

To those who use it a table is an ordered set of declarations: what it knows beyond them, the tokens
of each rule, is told by the route. Here the ordered set is described by itself, one request after
another, and a table is shown to answer like it, on its own (`RuleTable.register_after`) and in a
router (`Router.table_run`). Main statement: `Router.represents`.
-/

/-- What is asked of a table. -/
inductive Request
  | add (d : Declaration)
  | remove (d : Declaration)
  | get (d : Declaration)

/-! ## Ordered sets -/

/-- Declarations in the order in which they came, none of them twice. -/
@[ext]
structure Register where
  declarations : List Declaration
  nodup : declarations.Nodup

namespace Register

def empty : Register := ⟨[], .nil⟩

/-- The register with a new declaration after the others. -/
def append (g : Register) (d : Declaration) (hnew : d ∉ g.declarations) : Register where
  declarations := g.declarations ++ [d]
  nodup := by
    rw [List.nodup_append_comm, List.singleton_append]
    exact List.nodup_cons.2 ⟨hnew, g.nodup⟩

/-- The other declarations of the register. -/
def without (g : Register) (d : Declaration) : Register where
  declarations := g.declarations.filter fun other => other ≠ d
  nodup := g.nodup.filter _

/-- The reply to a request, and the register after it. -/
def answer (g : Register) : Request → Except Error (Option Declaration) × Register
  | .add d =>
    if d.IsComplete then
      match Template.read (Path.segments d.route) with
      | .error flaw => (.error (.malformed d.route flaw), g)
      | .ok _ =>
        if hold : d ∈ g.declarations then (.error (.alreadyAdded d), g)
        else (.ok (some d), g.append d hold)
    else (.error (.notARule (.incomplete d)), g)
  | .remove d =>
    if d.IsComplete then
      if d ∈ g.declarations then (.ok (some d), g.without d) else (.error (.notAdded d), g)
    else (.error (.notARule (.incomplete d)), g)
  | .get d => (.ok (if d ∈ g.declarations then some d else none), g)

/-- The register after requests. -/
def after (g : Register) (requests : List Request) : Register :=
  requests.foldl (fun g request => (g.answer request).2) g

theorem after_cons (g : Register) (request : Request) (requests : List Request) :
    g.after (request :: requests) = (g.answer request).2.after requests := rfl

end Register

/-! ## What a table does with a request -/

namespace RuleTable

/-- The declarations of a table. -/
def register (t : RuleTable) : Register where
  declarations := t.rules.map Rule.toDeclaration
  nodup := t.nodup.map fun _ _ => Rule.ext_declaration

/-- The reply to a request, and the table after it. -/
def answer (t : RuleTable) : Request → Except Error (Option Rule) × RuleTable
  | .add d =>
    match t.add d with
    | .ok (rule, table) => (.ok (some rule), table)
    | .error e => (.error e, t)
  | .remove d =>
    match t.remove d with
    | .ok (rule, table) => (.ok (some rule), table)
    | .error e => (.error e, t)
  | .get d => (.ok (t.get? d), t)

/-- The table after requests. -/
def after (t : RuleTable) (requests : List Request) : RuleTable :=
  requests.foldl (fun t request => (t.answer request).2) t

theorem after_cons (t : RuleTable) (request : Request) (requests : List Request) :
    t.after (request :: requests) = (t.answer request).2.after requests := rfl

/-! ### Each request by its cases -/

/-- Everything that adding a declaration can come to. -/
inductive Addition (t : RuleTable) (d : Declaration) : Prop
  | incomplete (lacking : ¬ d.IsComplete) (result : t.add d = .error (.notARule (.incomplete d)))
  | malformed {flaw : Template.Flaw} (complete : d.IsComplete)
      (unread : Template.read (Path.segments d.route) = .error flaw)
      (result : t.add d = .error (.malformed d.route flaw))
  | held {rule : Rule} (complete : d.IsComplete) (read : rule.toDeclaration = d)
      (old : rule ∈ t.rules) (result : t.add d = .error (.alreadyAdded d))
  | added {rule : Rule} {table : RuleTable} (complete : d.IsComplete)
      (read : rule.toDeclaration = d) (new : rule ∉ t.rules)
      (rules : table.rules = t.rules ++ [rule])
      (result : t.add d = .ok (rule, table))

/-- Everything that removing a declaration can come to. -/
inductive Removal (t : RuleTable) (d : Declaration) : Prop
  | incomplete (lacking : ¬ d.IsComplete) (result : t.remove d = .error (.notARule (.incomplete d)))
  | missing (complete : d.IsComplete) (absent : ∀ rule ∈ t.rules, rule.toDeclaration ≠ d)
      (result : t.remove d = .error (.notAdded d))
  | removed {rule : Rule} {table : RuleTable} (complete : d.IsComplete)
      (read : rule.toDeclaration = d) (old : rule ∈ t.rules)
      (rules : table.rules = t.rules.erase rule)
      (result : t.remove d = .ok (rule, table))

section
variable (t : RuleTable) {d : Declaration} {rule : Rule}

theorem add_of_ofDeclaration_eq_error {e : Error} (hcomplete : d.IsComplete)
    (hrule : Rule.ofDeclaration d = .error e) : t.add d = .error e := by
  unfold add
  rw [dif_pos hcomplete]
  split <;> simp_all

/-- What can be read and is complete is added unless the table holds it. -/
theorem add_toDeclaration (hcomplete : rule.IsComplete) :
    t.add rule.toDeclaration =
      if old : rule ∈ t.rules then .error (.alreadyAdded rule.toDeclaration)
      else .ok (rule, t.push rule old hcomplete) := by
  have hrule := rule.ofDeclaration_toDeclaration
  unfold add
  rw [dif_pos hcomplete]
  split <;> simp_all

theorem add_of_mem (hcomplete : rule.IsComplete) (hold : rule ∈ t.rules) :
    t.add rule.toDeclaration = .error (.alreadyAdded rule.toDeclaration) :=
  (t.add_toDeclaration hcomplete).trans (dif_pos hold)

theorem add_of_not_mem (hcomplete : rule.IsComplete) (hnew : rule ∉ t.rules) :
    t.add rule.toDeclaration = .ok (rule, t.push rule hnew hcomplete) :=
  (t.add_toDeclaration hcomplete).trans (dif_neg hnew)

end

theorem addition (t : RuleTable) (d : Declaration) : t.Addition d := by
  by_cases hcomplete : d.IsComplete
  · cases hread : Template.read (Path.segments d.route) with
    | error flaw =>
      have hrule := Rule.ofDeclaration_of_read_eq_error hread
      exact .malformed hcomplete hread (t.add_of_ofDeclaration_eq_error hcomplete hrule)
    | ok tokens =>
      let rule : Rule := ⟨d, tokens, hread⟩
      by_cases hold : rule ∈ t.rules
      · exact .held hcomplete rfl hold (t.add_of_mem hcomplete hold)
      · exact .added hcomplete rfl hold rfl (t.add_of_not_mem hcomplete hold)
  · exact .incomplete hcomplete (by rw [add, dif_neg hcomplete])

theorem removal (t : RuleTable) (d : Declaration) : t.Removal d := by
  by_cases hcomplete : d.IsComplete
  · cases hget : t.get? d with
    | none =>
      exact .missing hcomplete (get?_eq_none_iff.1 hget) (by rw [remove, if_pos hcomplete, hget])
    | some rule =>
      rcases get?_eq_some_iff.1 hget with ⟨hold, hread⟩
      exact .removed hcomplete hread hold rfl (by rw [remove, if_pos hcomplete, hget])
  · exact .incomplete hcomplete (by rw [remove, if_neg hcomplete])

/-! ### The table and the ordered set -/

theorem toDeclaration_inj {rule other : Rule} :
    rule.toDeclaration = other.toDeclaration ↔ rule = other :=
  ⟨Rule.ext_declaration, congrArg Rule.toDeclaration⟩

theorem mem_register_iff {t : RuleTable} {rule : Rule} :
    rule.toDeclaration ∈ t.register.declarations ↔ rule ∈ t.rules := by
  constructor
  · intro h
    rcases List.mem_map.1 h with ⟨other, hother, heq⟩
    exact Rule.ext_declaration heq ▸ hother
  · exact List.mem_map_of_mem

theorem not_mem_register {t : RuleTable} {d : Declaration}
    (h : ∀ rule ∈ t.rules, rule.toDeclaration ≠ d) : d ∉ t.register.declarations := by
  intro hmem
  rcases List.mem_map.1 hmem with ⟨rule, hrule, heq⟩
  exact h rule hrule heq

theorem register_of_append {t table : RuleTable} {rule : Rule}
    (hrules : table.rules = t.rules ++ [rule])
    (hnew : rule.toDeclaration ∉ t.register.declarations) :
    table.register = t.register.append rule.toDeclaration hnew := by
  ext1
  simp [register, Register.append, hrules]

/-- No other rule has the same declaration, so one rule leaves with one declaration. -/
theorem register_of_erase {t table : RuleTable} {rule : Rule}
    (hrules : table.rules = t.rules.erase rule) :
    table.register = t.register.without rule.toDeclaration := by
  ext1
  simp only [register, Register.without, hrules]
  rw [t.nodup.erase_eq_filter, List.filter_map]
  congr 1
  apply List.filter_congr
  intro other _
  rw [Bool.eq_iff_iff, bne_iff_ne, Function.comp, decide_eq_true_iff, Ne, Ne, toDeclaration_inj]

/-- A table replies like its declarations, and its declarations are afterwards what theirs are. -/
theorem answer_register (t : RuleTable) (request : Request) :
    t.register.answer request =
      ((t.answer request).1.map (Option.map Rule.toDeclaration),
        (t.answer request).2.register) := by
  -- Table and declarations check the same things in the same order, so one case of each decides.
  cases request with
  | add d =>
    cases t.addition d with
    | incomplete lacking result =>
      simp only [answer, result, Register.answer, if_neg lacking, Except.map]
    | malformed complete unread result =>
      simp only [answer, result, Register.answer, if_pos complete, unread, Except.map]
    | @held rule complete read old result =>
      subst read
      simp only [answer, result, Register.answer, if_pos complete, rule.read_route,
        dif_pos (mem_register_iff.2 old), Except.map]
    | @added rule table complete read new rules result =>
      subst read
      have hnew := mem_register_iff.not.2 new
      simp only [answer, result, Register.answer, if_pos complete, rule.read_route, dif_neg hnew,
        Except.map, Option.map_some, register_of_append rules hnew]
  | remove d =>
    cases t.removal d with
    | incomplete lacking result =>
      simp only [answer, result, Register.answer, if_neg lacking, Except.map]
    | missing complete absent result =>
      simp only [answer, result, Register.answer, if_pos complete, if_neg (not_mem_register absent),
        Except.map]
    | @removed rule table complete read old rules result =>
      subst read
      simp only [answer, result, Register.answer, if_pos complete, if_pos (mem_register_iff.2 old),
        Except.map, Option.map_some, register_of_erase rules]
  | get d =>
    rw [answer, Register.answer, Except.map]
    cases hget : t.get? d with
    | none => rw [if_neg (not_mem_register (get?_eq_none_iff.1 hget)), Option.map_none]
    | some rule =>
      rcases get?_eq_some_iff.1 hget with ⟨hold, rfl⟩
      rw [if_pos (mem_register_iff.2 hold), Option.map_some]

/-- Any requests lead the table and its declarations to the same ordered set. -/
theorem register_after (t : RuleTable) (requests : List Request) :
    (t.after requests).register = t.register.after requests := by
  induction requests generalizing t with
  | nil => rfl
  | cons request requests ih =>
    have hstep : (t.register.answer request).2 = (t.answer request).2.register :=
      congrArg Prod.snd (t.answer_register request)
    rw [after_cons, ih, Register.after_cons, hstep]

/-- A request that fails leaves the table as it is. -/
theorem answer_of_error {t : RuleTable} {request : Request} {e : Error}
    (h : (t.answer request).1 = .error e) : (t.answer request).2 = t := by
  cases request with
  | add d =>
    cases hadd : t.add d with
    | error e => simp only [answer, hadd]
    | ok result => simp [answer, hadd] at h
  | remove d =>
    cases hremove : t.remove d with
    | error e => simp only [answer, hremove]
    | ok result => simp [answer, hremove] at h
  | get d => rfl

/-- Removing a rule that was just added gives the table back. -/
theorem remove_of_add {t u : RuleTable} {d : Declaration} {rule : Rule}
    (h : t.add d = .ok (rule, u)) : u.remove d = .ok (rule, t) := by
  cases t.addition d with
  | @added other table complete read new rules result =>
    obtain ⟨rfl, rfl⟩ : rule = other ∧ u = table := by simpa [h] using result
    cases u.removal d with
    | @removed found left _ hread hold hleft hresult =>
      obtain rfl : found = rule := Rule.ext_declaration (hread.trans read.symm)
      -- The rule was new, so the one that is taken out stands at the end.
      have hrules : left.rules = t.rules := by
        rw [hleft, rules, List.erase_append_right _ new, List.erase_cons_head, List.append_nil]
      rw [hresult, RuleTable.ext hrules]
    | missing _ absent => exact absurd read (absent rule (by simp [rules]))
    | incomplete lacking => exact absurd complete lacking
  | incomplete _ result => simp [h] at result
  | malformed _ _ result => simp [h] at result
  | held _ _ _ result => simp [h] at result

/-- What is relied on in a table that stands for an ordered set of declarations. -/
structure Represents (t : RuleTable) (g : Register) : Prop where
  declarations : t.rules.map Rule.toDeclaration = g.declarations
  /-- No two rules have the same route and method. -/
  distinct : (t.rules.map Rule.toDeclaration).Nodup
  complete : ∀ rule ∈ t.rules, rule.IsComplete
  tokens : ∀ rule ∈ t.rules, Template.read (Path.segments rule.route) = .ok rule.tokens
  reply : ∀ request,
    (t.answer request).1.map (Option.map Rule.toDeclaration) = (g.answer request).1
  next : ∀ request, (t.answer request).2.register = (g.answer request).2
  failed : ∀ request e, (t.answer request).1 = .error e → (t.answer request).2 = t
  found : ∀ d rule, t.get? d = some rule ↔ rule ∈ t.rules ∧ rule.toDeclaration = d
  /-- Adding and then removing changes nothing. -/
  undone : ∀ d rule u, t.add d = .ok (rule, u) → u.remove d = .ok (rule, t)

theorem represents_register (t : RuleTable) : t.Represents t.register where
  declarations := rfl
  distinct := t.register.nodup
  complete := t.complete
  tokens rule _ := rule.read_route
  reply request := (congrArg Prod.fst (t.answer_register request)).symm
  next request := (congrArg Prod.snd (t.answer_register request)).symm
  failed _ _ h := answer_of_error h
  found _ _ := get?_eq_some_iff
  undone _ _ _ h := remove_of_add h

end RuleTable

/-! ## The table of a router -/

/-- What an operation asks of the table. -/
def Operation.request? : Operation → Option Request
  | add d => some (.add d)
  | remove d => some (.remove d)
  | _ => none

/-- The rules that were reported as new. -/
def Outcome.added (o : Outcome) : List Rule :=
  o.events.filterMap fun
    | .ruleAdded rule => some rule
    | _ => none

/-- What a step does to the rules, and which of them it reports. -/
structure Step.IsOrderly (s : Step) : Prop where
  /-- A request is answered as the table answers it. -/
  requested : ∀ request, s.operation.request? = some request →
    s.outcome.router.table = (s.before.table.answer request).2 ∧
      s.outcome.result = (s.before.table.answer request).1.map fun _ => ()
  /-- Other operations leave the rules alone, and so does a request that fails. -/
  unrequested : s.operation.request? = none → s.outcome.router.table = s.before.table
  failed : s.outcome.result ≠ .ok () → s.outcome.router.table = s.before.table
  /-- A rule that was added is the last one, and is reported once. -/
  reported : ∀ d, s.operation = .add d → s.outcome.result = .ok () →
    ∃ rule, rule.toDeclaration = d ∧ s.outcome.added = [rule] ∧
      s.outcome.router.table.rules = s.before.table.rules ++ [rule]
  unreported : (∀ d, s.operation = .add d → s.outcome.result ≠ .ok ()) → s.outcome.added = []

namespace Router

variable (r : Router)

theorem add_of_ok {d : Declaration} {rule : Rule} {table : RuleTable}
    (h : r.table.add d = .ok (rule, table)) :
    r.add d = ⟨{ r with table }, [.ruleAdded rule], .ok ()⟩ := by
  rw [add, h]

theorem add_of_error {d : Declaration} {e : Error} (h : r.table.add d = .error e) :
    r.add d = ⟨r, [], .error e⟩ := by
  rw [add, h]

theorem remove_of_ok {d : Declaration} {rule : Rule} {table : RuleTable}
    (h : r.table.remove d = .ok (rule, table)) : r.remove d = ⟨{ r with table }, [], .ok ()⟩ := by
  rw [remove, h]

theorem remove_of_error {d : Declaration} {e : Error} (h : r.table.remove d = .error e) :
    r.remove d = ⟨r, [], .error e⟩ := by
  rw [remove, h]

/-- Dispatching touches no rule and reports none as new. -/
theorem dispatch_table (visit : Visit) :
    (r.dispatch visit).router.table = r.table ∧ (r.dispatch visit).added = [] := by
  cases hhandler : r.handlers[visit.rule.method]? with
  | none =>
    rw [dispatch, hhandler]
    exact ⟨rfl, rfl⟩
  | some handler =>
    simp only [dispatch, hhandler]
    cases (handler ⟨visit, r.last⟩).relocate <;> cases (handler ⟨visit, r.last⟩).failure <;>
      exact ⟨rfl, rfl⟩

theorem handle_table : r.handle.router.table = r.table ∧ r.handle.added = [] := by
  cases hresolve : r.resolve r.path with
  | error e =>
    rw [handle_of_resolve_eq_error hresolve]
    exact ⟨rfl, rfl⟩
  | ok visit =>
    rw [handle_of_resolve_eq_ok hresolve]
    exact r.dispatch_table (r.adjust visit)

theorem go_table (path : String) : (r.go path).router.table = r.table ∧ (r.go path).added = [] := by
  rcases r.write_eq path with ⟨location, addressBar, result, hwrite⟩
  cases result with
  | error e =>
    rw [go_of_write_eq_error hwrite]
    exact ⟨rfl, rfl⟩
  | ok =>
    rw [go_of_write_eq_ok hwrite]
    exact handle_table { r with location, addressBar }

theorem perform_of_request?_eq_none {operation : Operation} (h : operation.request? = none) :
    (r.perform operation).router.table = r.table ∧ (r.perform operation).added = [] := by
  cases operation with
  | add d => cases h
  | remove d => cases h
  | handle => exact r.handle_table
  | go path => exact r.go_table path
  | _ => exact ⟨rfl, rfl⟩

/-- A request to the router is one to its table. -/
theorem perform_of_request?_eq_some {operation : Operation} {request : Request}
    (h : operation.request? = some request) :
    (r.perform operation).router.table = (r.table.answer request).2 ∧
      (r.perform operation).result = (r.table.answer request).1.map fun _ => () := by
  cases operation with
  | add d =>
    cases h
    rw [perform]
    cases hadd : r.table.add d with
    | ok result => simp [r.add_of_ok hadd, RuleTable.answer, hadd, Except.map]
    | error e => simp [r.add_of_error hadd, RuleTable.answer, hadd, Except.map]
  | remove d =>
    cases h
    rw [perform]
    cases hremove : r.table.remove d with
    | ok result => simp [r.remove_of_ok hremove, RuleTable.answer, hremove, Except.map]
    | error e => simp [r.remove_of_error hremove, RuleTable.answer, hremove, Except.map]
  | _ => cases h

/-- A rule that was added is the last one, and is reported once. -/
theorem added_of_add_eq_ok {d : Declaration} (h : (r.add d).result = .ok ()) :
    ∃ rule, rule.toDeclaration = d ∧ (r.add d).added = [rule] ∧
      (r.add d).router.table.rules = r.table.rules ++ [rule] := by
  cases r.table.addition d with
  | @added rule table _ read _ rules result =>
    rw [r.add_of_ok result]
    exact ⟨rule, read, rfl, rules⟩
  | incomplete _ result => simp [r.add_of_error result] at h
  | malformed _ _ result => simp [r.add_of_error result] at h
  | held _ _ _ result => simp [r.add_of_error result] at h

theorem added_of_add_ne_ok {d : Declaration} (h : (r.add d).result ≠ .ok ()) :
    (r.add d).added = [] := by
  cases hadd : r.table.add d with
  | ok result => simp [r.add_of_ok hadd] at h
  | error e => rw [r.add_of_error hadd, Outcome.added, List.filterMap_nil]

theorem added_remove (d : Declaration) : (r.remove d).added = [] := by
  cases hremove : r.table.remove d with
  | ok result => rw [r.remove_of_ok hremove, Outcome.added, List.filterMap_nil]
  | error e => rw [r.remove_of_error hremove, Outcome.added, List.filterMap_nil]

end Router

theorem Step.isOrderly (s : Step) : s.IsOrderly where
  requested request h := s.before.perform_of_request?_eq_some h
  unrequested h := (s.before.perform_of_request?_eq_none h).1
  failed h := by
    -- A router fails at a request only as its table does.
    cases hrequest : s.operation.request? with
    | none => exact (s.before.perform_of_request?_eq_none hrequest).1
    | some request =>
      rcases s.before.perform_of_request?_eq_some hrequest with ⟨htable, hresult⟩
      cases hanswer : (s.before.table.answer request).1 with
      | ok reply =>
        rw [hanswer] at hresult
        exact absurd hresult h
      | error e => exact htable.trans (RuleTable.answer_of_error hanswer)
  reported d hoperation hresult := by
    rcases s with ⟨r, operation⟩
    cases hoperation
    exact r.added_of_add_eq_ok hresult
  unreported h := by
    rcases s with ⟨r, operation⟩
    cases operation with
    | add d => exact r.added_of_add_ne_ok (h d rfl)
    | remove d => exact r.added_remove d
    | handle => exact r.handle_table.2
    | go path => exact (r.go_table path).2
    | _ => rfl

namespace Router

/-- The table of a router is what the requests among the operations make of it. -/
theorem table_run (r : Router) (operations : List Operation) :
    (r.run operations).table = r.table.after (operations.filterMap Operation.request?) := by
  induction operations generalizing r with
  | nil => rfl
  | cons operation operations ih =>
    rw [run, List.foldl_cons, ← run, ih, List.filterMap_cons]
    cases hrequest : operation.request? with
    | none => rw [(r.perform_of_request?_eq_none hrequest).1]
    | some request => rw [(r.perform_of_request?_eq_some hrequest).1, RuleTable.after_cons]

/-- After any requests the empty table stands for the ordered set that they make, and the table of a
router without rules is after any operations what the requests among them make. -/
theorem represents (requests : List Request) (lead : String) (location : Location)
    (handlers : Handlers) (adjust : Visit → Visit) (held : String) (operations : List Operation) :
    (RuleTable.empty.after requests).Represents (Register.empty.after requests) ∧
      let r : Router :=
        { Router.new RuleTable.empty lead location with handlers, adjust, addressBar := held }
      (r.run operations).table =
          RuleTable.empty.after (operations.filterMap Operation.request?) ∧
        ∀ operation, Step.IsOrderly ⟨r.run operations, operation⟩ := by
  refine ⟨?_, table_run _ operations, fun operation => Step.isOrderly _⟩
  have hregister : (RuleTable.empty.after requests).register = Register.empty.after requests :=
    RuleTable.empty.register_after requests
  rw [← hregister]
  exact RuleTable.represents_register _

end Router

end Routing
