import Routing.Error
import Routing.Json

namespace Routing.Declaration

/-! # Declarations as JSON

A declaration is written as an object with the fields `route` and `method`. An object is read as a
declaration when its fields of these names are texts, neither of them empty; other fields say
nothing. Main statements: `ofJson_eq_ok_iff` and `ofJson_eq_error_iff`, what is read from which
values and why others are refused, and `ofJson_toJson`, what is written is read again.
-/

/-- The object that stands for a declaration. -/
def toJson (d : Declaration) : Json :=
  .object [("route", .string d.route), ("method", .string d.method)]

/-- The text of a field, which must not be empty. -/
def fieldText (value : Json) (key : String) : Except Error String :=
  match (value.field? key).bind Json.string? with
  | some text => if text = "" then .error (.notARule (.missingField key)) else .ok text
  | none => .error (.notARule (.missingField key))

/-- The declaration that an object stands for. -/
def ofJson (value : Json) : Except Error Declaration :=
  match value with
  | .object _ => do
    let route ← fieldText value "route"
    let method ← fieldText value "method"
    return ⟨route, method⟩
  | _ => .error (.notARule (.notAnObject value.compact))

/-! ## One field -/

/-- The field is there and holds a text that is not empty. -/
def HasText (value : Json) (key text : String) : Prop :=
  value.field? key = some (.string text) ∧ text ≠ ""

theorem fieldText_eq_ok_iff {value : Json} {key text : String} :
    fieldText value key = .ok text ↔ HasText value key text := by
  unfold fieldText HasText
  cases value.field? key with
  | none => simp
  | some found =>
    cases found with
    | string held =>
      by_cases hempty : held = ""
      · simp [Json.string?, hempty, eq_comm]
      · simp only [Option.bind_some, Json.string?, if_neg hempty, Except.ok.injEq,
          Option.some.injEq, Json.string.injEq]
        exact ⟨fun h => ⟨h, h ▸ hempty⟩, And.left⟩
    | _ => simp [Json.string?]

theorem fieldText_of_forall_not {value : Json} {key : String}
    (h : ∀ text, ¬HasText value key text) :
    fieldText value key = .error (.notARule (.missingField key)) := by
  cases hread : fieldText value key with
  | ok text => exact absurd (fieldText_eq_ok_iff.1 hread) (h text)
  | error e =>
    unfold fieldText at hread
    split at hread
    · split at hread
      · exact hread.symm
      · cases hread
    · exact hread.symm

/-! ## Whole declarations -/

/-- Why a value stands for no declaration. The route is missed before the method. -/
inductive IsRefused (value : Json) : Unusable → Prop
  | notAnObject (other : ∀ fields, value ≠ .object fields) :
      IsRefused value (.notAnObject value.compact)
  | noRoute {fields : List (String × Json)} (object : value = .object fields)
      (route : ∀ text, ¬HasText value "route" text) : IsRefused value (.missingField "route")
  | noMethod {fields : List (String × Json)} {text : String} (object : value = .object fields)
      (route : HasText value "route" text) (method : ∀ text, ¬HasText value "method" text) :
      IsRefused value (.missingField "method")

/-- A declaration is read from its two fields, wherever they stand among others; so it is
complete. -/
theorem ofJson_eq_ok_iff {value : Json} {d : Declaration} :
    ofJson value = .ok d ↔ HasText value "route" d.route ∧ HasText value "method" d.method := by
  cases value with
  | object fields =>
    rw [← fieldText_eq_ok_iff, ← fieldText_eq_ok_iff, ofJson]
    cases fieldText (.object fields) "route" with
    | error e => simp [bind, Except.bind]
    | ok route =>
      cases fieldText (.object fields) "method" with
      | error e => simp [bind, Except.bind]
      | ok method =>
        cases d
        simp [bind, Except.bind, pure, Except.pure]
  | _ => simp [ofJson, HasText, Json.field?]

theorem ofJson_of_isRefused {value : Json} {reason : Unusable} (h : IsRefused value reason) :
    ofJson value = .error (.notARule reason) := by
  cases h with
  | notAnObject other =>
    cases value with
    | object fields => exact absurd rfl (other fields)
    | _ => rfl
  | noRoute object route =>
    subst object
    rw [ofJson, fieldText_of_forall_not route]
    rfl
  | noMethod object route method =>
    subst object
    rw [ofJson, fieldText_eq_ok_iff.2 route, fieldText_of_forall_not method]
    rfl

/-- A value that is not read is refused for what it lacks first. -/
theorem ofJson_eq_error_iff {value : Json} {e : Error} :
    ofJson value = .error e ↔ ∃ reason, IsRefused value reason ∧ e = .notARule reason := by
  constructor
  · intro h
    have refused {reason : Unusable} (hreason : IsRefused value reason) :
        ∃ reason, IsRefused value reason ∧ e = .notARule reason := by
      rw [ofJson_of_isRefused hreason] at h
      cases h
      exact ⟨reason, hreason, rfl⟩
    by_cases hobject : ∃ fields, value = .object fields
    · rcases hobject with ⟨fields, hobject⟩
      by_cases hroute : ∃ text, HasText value "route" text
      · rcases hroute with ⟨route, hroute⟩
        by_cases hmethod : ∃ text, HasText value "method" text
        · -- With both fields the value is read.
          rcases hmethod with ⟨method, hmethod⟩
          have hread : ofJson value = .ok ⟨route, method⟩ := ofJson_eq_ok_iff.2 ⟨hroute, hmethod⟩
          rw [hread] at h
          cases h
        · exact refused (.noMethod hobject hroute fun text htext => hmethod ⟨text, htext⟩)
      · exact refused (.noRoute hobject fun text htext => hroute ⟨text, htext⟩)
    · exact refused (.notAnObject fun fields heq => hobject ⟨fields, heq⟩)
  · intro h
    rcases h with ⟨reason, hreason, rfl⟩
    exact ofJson_of_isRefused hreason

/-- What is written for a complete declaration is read as that declaration. -/
theorem ofJson_toJson {d : Declaration} (complete : d.IsComplete) : ofJson d.toJson = .ok d :=
  ofJson_eq_ok_iff.2 ⟨⟨rfl, complete.1⟩, ⟨rfl, complete.2⟩⟩

end Routing.Declaration
