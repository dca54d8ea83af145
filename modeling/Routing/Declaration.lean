import Routing.Text.Shown

namespace Routing

/-! # Declarations

A declaration pairs a route template with the name of the method that answers it.
-/

/-- A route template and the method for it, as written by the user of a table. -/
structure Declaration where
  route : String
  method : String
  deriving DecidableEq, Repr

namespace Declaration

/-- Both parts are given. -/
def IsComplete (d : Declaration) : Prop := d.route ≠ "" ∧ d.method ≠ ""

instance (d : Declaration) : Decidable d.IsComplete :=
  inferInstanceAs (Decidable (_ ∧ _))

/-- The declaration in the form that error texts show. -/
def shown (d : Declaration) : String :=
  Text.record "RuleDef"
    [Text.field "route" (Text.quote d.route), Text.field "method" (Text.quote d.method)]

end Declaration

end Routing
