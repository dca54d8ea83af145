import Routing.Error
import Routing.Path
import Routing.Template.Grammar
import Routing.Template.Match
import Routing.Template.Render

namespace Routing

/-! # Rules

A rule is a declaration together with the tokens of its route. The tokens are determined by the
route, so two rules with the same route and method are equal (`Rule.ext_declaration`).
-/

/-- A declaration whose route has been read. -/
structure Rule extends Declaration where
  tokens : List Token
  /-- The tokens are those of the route. -/
  read_route : Template.read (Path.segments route) = .ok tokens

namespace Rule

theorem ext_declaration {r s : Rule} (h : r.toDeclaration = s.toDeclaration) : r = s := by
  obtain ⟨d, tokens, hr⟩ := r
  obtain ⟨e, tokens', hs⟩ := s
  obtain rfl : d = e := h
  obtain rfl : tokens = tokens' := by simpa [hr] using hs
  rfl

instance : DecidableEq Rule := fun r s =>
  if h : r.toDeclaration = s.toDeclaration then isTrue (ext_declaration h)
  else isFalse fun e => h (congrArg toDeclaration e)

/-- Reads the route of a declaration. -/
def ofDeclaration (d : Declaration) : Except Error Rule :=
  match h : Template.read (Path.segments d.route) with
  | .ok tokens => .ok ⟨d, tokens, h⟩
  | .error flaw => .error (.malformed d.route flaw)

/-- The path of a rule for the given values. -/
def render (r : Rule) (values : Bindings) : Except Error String :=
  (Template.render r.tokens values).mapError (.noValue r.route)

/-- The values that a path gives to the parameters of a rule, if it matches. -/
def bindings? (r : Rule) (path : String) : Option Bindings :=
  Template.bindings? r.tokens path

theorem ofDeclaration_eq_ok_iff {d : Declaration} {r : Rule} :
    ofDeclaration d = .ok r ↔ r.toDeclaration = d := by
  unfold ofDeclaration
  split
  · rename_i tokens h
    constructor
    · intro e; cases e; rfl
    · rintro rfl
      congr 1
      exact ext_declaration rfl
  · rename_i flaw h
    simp only [reduceCtorEq, false_iff]
    rintro rfl
    simp [r.read_route] at h

@[simp]
theorem ofDeclaration_toDeclaration (r : Rule) : ofDeclaration r.toDeclaration = .ok r :=
  ofDeclaration_eq_ok_iff.2 rfl

end Rule

end Routing
