import Routing.CommandLine.Command
import Routing.Proofs.Template.Grammar
import Routing.Session

namespace Routing

/-! # Paths without a table

A table keeps the tokens of its rules, and renders with them where it can. Here a path is made from
the route alone, and every way of rendering is shown to come to it, whatever the table holds. Main
statement: `Router.renders_route`.
-/

/-- The path of a route that is read afresh, for the given values. -/
def Template.generate (route : String) (values : Bindings) : Except Error String := do
  let tokens ← (read (Path.segments route)).mapError (.malformed route)
  (render tokens values).mapError (.noValue route)

/-- The tokens of a rule are what reading its route gives. -/
theorem Rule.render_eq_generate (r : Rule) (values : Bindings) :
    r.render values = Template.generate r.route values := by
  unfold Template.generate
  rw [r.read_route]
  rfl

/-- Reading a declaration and rendering its rule looks at the route only. -/
theorem Rule.ofDeclaration_bind_render (d : Declaration) (values : Bindings) :
    (ofDeclaration d >>= fun r => r.render values) = Template.generate d.route values := by
  cases hrule : ofDeclaration d with
  | ok r =>
    have hread : r.toDeclaration = d := ofDeclaration_eq_ok_iff.1 hrule
    have hrender := r.render_eq_generate values
    rw [hread] at hrender
    exact hrender
  | error e =>
    rcases ofDeclaration_eq_error_iff.1 hrule with ⟨flaw, hflaw, rfl⟩
    unfold Template.generate
    rw [hflaw]
    rfl

/-- A table renders a declaration that it holds like one that it does not hold. -/
theorem RuleTable.render_eq_generate (t : RuleTable) (d : Declaration) (values : Bindings) :
    t.render d values = Template.generate d.route values := by
  unfold render
  cases hget : t.get? d with
  | none => exact Rule.ofDeclaration_bind_render d values
  | some rule =>
    have hread : rule.toDeclaration = d := (get?_eq_some_iff.1 hget).2
    have hrender := rule.render_eq_generate values
    rw [hread] at hrender
    exact hrender

namespace Router

theorem render_eq_generate (r : Router) (d : Declaration) (values : Bindings) :
    r.render d values = Template.generate d.route values :=
  r.table.render_eq_generate d values

theorem link_eq_generate (r : Router) (d : Declaration) (values : Bindings) :
    r.link d values = (Template.generate d.route values).map (r.lead ++ ·) := by
  unfold link
  rw [render_eq_generate]
  cases Template.generate d.route values <;> rfl

end Router

namespace CommandLine

/-- Whichever rule is found for a route, it has this route. -/
theorem route_declarationFor (r : Router) (route : String) :
    (declarationFor r route).route = route := by
  unfold declarationFor
  cases hfind : r.table.rules.find? fun rule => rule.route = route with
  | none => rfl
  | some rule =>
    have hroute := List.find?_some hfind
    exact of_decide_eq_true hroute

theorem renderRoute_eq_generate (r : Router) (route : String) (values : Bindings) (link : Bool) :
    renderRoute r route values link =
      (Template.generate route values).map fun path => if link then r.lead ++ path else path := by
  have hroute := route_declarationFor r route
  unfold renderRoute
  cases link with
  | true => rw [if_pos rfl, r.link_eq_generate, hroute]; rfl
  | false =>
    rw [if_neg Bool.false_ne_true, r.render_eq_generate, hroute]
    cases Template.generate route values <;> rfl

end CommandLine

/-- After any operations, a router renders and links every declaration as its route is rendered
afresh, with the same failures, and the command line does so with every route. Neither depends on
the rules that the router holds by then. -/
theorem Router.renders_route (r : Router) (operations : List Operation) (d : Declaration)
    (values : Bindings) (route : String) (link : Bool) :
    let reached := r.run operations
    reached.render d values = Template.generate d.route values ∧
      reached.link d values = (Template.generate d.route values).map (reached.lead ++ ·) ∧
      CommandLine.renderRoute reached route values link =
        (Template.generate route values).map fun path =>
          if link then reached.lead ++ path else path := by
  intro reached
  exact ⟨reached.render_eq_generate d values, reached.link_eq_generate d values,
    CommandLine.renderRoute_eq_generate reached route values link⟩

end Routing
