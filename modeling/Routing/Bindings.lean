import Std.Data.ExtTreeMap

namespace Routing

/-! # Bindings

The values bound to the parameters of a template, keyed by parameter name. Two bindings are equal
when they bind the same names to the same values, and listing them goes by name.
-/

/-- Values by parameter name; a name is bound at most once. -/
abbrev Bindings := Std.ExtTreeMap String String

namespace Bindings

/-- Binds the pairs of a list in turn, so the last value given for a name stands. -/
def ofPairs (pairs : List (String × String)) : Bindings :=
  pairs.foldl (fun bound pair => bound.insert pair.1 pair.2) ∅

/-- The value of a name, unless there is none or it is empty. -/
def filled? (bound : Bindings) (name : String) : Option String :=
  bound[name]?.filter (· ≠ "")

@[simp]
theorem ofPairs_nil : ofPairs [] = ∅ := rfl

theorem ofPairs_concat (pairs : List (String × String)) (pair : String × String) :
    ofPairs (pairs ++ [pair]) = (ofPairs pairs).insert pair.1 pair.2 := by
  simp [ofPairs]

theorem filled?_eq_some_iff {bound : Bindings} {name value : String} :
    bound.filled? name = some value ↔ bound[name]? = some value ∧ value ≠ "" := by
  simp [filled?, Option.filter_eq_some_iff]

end Bindings

end Routing
