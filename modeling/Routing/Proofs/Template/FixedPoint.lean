import Routing.Proofs.Template.Layout
import Routing.Proofs.Template.RoundTrip

namespace Routing

/-! # Matching and rendering again

Whatever path a template matches, the values found render, and the path they render gives them back:
after one round nothing changes any more. Only a wildcard may lose something in that round, the
empty pieces that escaped slashes leave in its value. Main statement:
`Rule.render_bindings?_fixed`.
-/

namespace Path

/-- A value without its empty pieces between slashes. -/
def compact (value : String) : String := "/".intercalate (segments value)

theorem segments_compact (value : String) : segments (compact value) = segments value :=
  segments_intercalate fun _ => isSegment_of_mem_segments

/-- Once the empty pieces are dropped, there are none. -/
theorem compact_compact (value : String) : compact (compact value) = compact value := by
  rw [compact, segments_compact, compact]

@[simp]
theorem compact_empty : compact "" = "" := by
  rw [compact, segments_empty, String.intercalate_nil]

end Path

namespace Template

/-- The values, without the empty pieces in that of a wildcard. -/
def compacted (tokens : List Token) (values : Bindings) : Bindings :=
  values.map fun name value =>
    if name ∈ names (tokens.filter Token.isWildcard) then Path.compact value else value

theorem getElem?_compacted (tokens : List Token) (values : Bindings) (name : String) :
    (compacted tokens values)[name]? = values[name]?.map fun value =>
      if name ∈ names (tokens.filter Token.isWildcard) then Path.compact value else value :=
  Std.ExtTreeMap.getElem?_map

/-- Without a wildcard there is nothing to drop. -/
theorem compacted_of_not_wildcard {tokens : List Token}
    (hnone : ∀ name, Token.wildcard name ∉ tokens) (values : Bindings) :
    compacted tokens values = values := by
  apply Bindings.ext_some
  intro name value
  rw [getElem?_compacted, filter_isWildcard_eq_nil hnone]
  simp [names]

section
variable {tokens : List Token} (htokens : IsWellFormed tokens)
include htokens

/-- What is bound under any name but that of a wildcard stays. -/
theorem getElem?_compacted_of_not_isWildcard (values : Bindings) {token : Token}
    (htoken : token ∈ tokens) (hwild : token.isWildcard = false) {name : String}
    (hname : token.name = some name) : (compacted tokens values)[name]? = values[name]? := by
  have hother : name ∉ names (tokens.filter Token.isWildcard) := by
    intro hmem
    rcases mem_names.1 hmem with ⟨other, hother, hname'⟩
    rcases List.mem_filter.1 hother with ⟨hmem', hwild'⟩
    have hsame := htokens.eq_of_name_eq htoken hmem' hname hname'
    rw [← hsame, hwild] at hwild'
    exact Bool.noConfusion hwild'
  rw [getElem?_compacted]
  simp [hother]

omit htokens in
theorem getElem?_compacted_wildcard (values : Bindings) {name : Option String}
    (htoken : Token.wildcard name ∈ tokens) :
    (compacted tokens values)[name.getD Token.anonymous]? =
      values[name.getD Token.anonymous]?.map Path.compact := by
  have hmem : name.getD Token.anonymous ∈ names (tokens.filter Token.isWildcard) :=
    mem_names.2 ⟨_, List.mem_filter.2 ⟨htoken, rfl⟩, rfl⟩
  rw [getElem?_compacted]
  simp [hmem]

omit htokens in
theorem getD_compacted_wildcard (values : Bindings) {name : Option String}
    (htoken : Token.wildcard name ∈ tokens) :
    (compacted tokens values).getD (name.getD Token.anonymous) "" =
      Path.compact (values.getD (name.getD Token.anonymous) "") := by
  rw [Std.ExtTreeMap.getD_eq_getD_getElem?, Std.ExtTreeMap.getD_eq_getD_getElem?,
    getElem?_compacted_wildcard values htoken]
  cases values[name.getD Token.anonymous]? with
  | none => simp
  | some value => rfl

/-- Rendering drops the empty pieces anyway, so they say nothing to it. -/
theorem sameFor_compacted (values : Bindings) {token : Token} (htoken : token ∈ tokens) :
    token.SameFor (compacted tokens values) values := by
  cases token with
  | literal text => trivial
  | positional presence name =>
    have hvalue := getElem?_compacted_of_not_isWildcard htokens values htoken rfl rfl
    simp only [Token.SameFor, Bindings.filled?, hvalue]
  | keyed presence name =>
    exact getElem?_compacted_of_not_isWildcard htokens values htoken rfl rfl
  | wildcard name =>
    simp only [Token.SameFor, getD_compacted_wildcard values htoken, Path.segments_compact]

theorem render_compacted {values : Bindings} {path : String}
    (hrender : render tokens values = .ok path) :
    render tokens (compacted tokens values) = .ok path := by
  rw [render_congr fun _ => sameFor_compacted htokens values]
  exact hrender

/-! ## Values that were found -/

variable {path : String} {args : Bindings} (hback : bindings? tokens path = some args)
include hback

/-- A match leaves no required parameter without a value. -/
theorem isSupplied_of_bindings? {token : Token} (htoken : token ∈ tokens) :
    token.IsSupplied args := by
  have hmatch := matches_of_bindings? htokens hback
  rcases token with text | ⟨_ | _, name⟩ | ⟨_ | _, name⟩ | name
  case positional.required =>
    -- A required parameter takes a segment in any case.
    have htaker : Token.positional .required name ∈ takers tokens (others tokens path).length :=
      List.mem_filter.2 ⟨htoken, rfl⟩
    rcases exists_mem_zip_takers htokens hmatch.aligned.enough htaker with ⟨segment, hplaced⟩
    exact Option.ne_none_iff_exists'.2 ⟨_, filled?_of_mem_zip_takers htokens hback hplaced⟩
  case keyed.required =>
    rcases hmatch.keys_given name htoken with ⟨segment, hsegment, value, hsplits⟩
    have hvalue := (getElem?_eq_some_iff_binds htokens hback).2 (.keyed htoken hsegment hsplits)
    exact Option.ne_none_iff_exists'.2 ⟨_, hvalue⟩
  all_goals trivial

theorem exists_render_of_bindings? : ∃ again, render tokens args = .ok again :=
  ⟨_, render_eq_ok_iff.2 ⟨fun _ => isSupplied_of_bindings? htokens hback, rfl⟩⟩

/-- Without the empty pieces of a wildcard, the values found are recoverable. -/
theorem isRecoverable_compacted : IsRecoverable tokens (compacted tokens args) := by
  -- Only the value of a wildcard changes; positional values are those that were found.
  have hsame : ∀ {presence : Presence} {name : String}, Token.positional presence name ∈ tokens →
      (compacted tokens args)[name]? = args[name]? := fun hname =>
    getElem?_compacted_of_not_isWildcard htokens args hname rfl rfl
  constructor
  · intro name value hvalue
    rw [getElem?_compacted, Option.map_eq_some_iff] at hvalue
    rcases hvalue with ⟨found, hfound, -⟩
    exact ((getElem?_eq_some_iff_binds htokens hback).1 hfound).mem_names
  · intro name hname
    rw [hsame hname]
    exact ne_empty_of_bindings? htokens hback hname
  · intro name htoken
    have hvalue := getElem?_compacted_wildcard args htoken
    rw [getElem?_wildcard_of_bindings? htokens hback htoken, Option.map_some] at hvalue
    exact ⟨_, hvalue, Path.intercalate_segments_eq_iff.1 (Path.compact_compact _)⟩
  · apply (leftmost_of_bindings? htokens hback).imp_of_mem
    rintro _ _ hone hother hleft name later rfl rfl
    rw [hsame hone, hsame hother]
    exact hleft name later rfl rfl
  · intro name rest hname hrest hnone
    rw [hsame hname] at hnone
    rw [getD_compacted_wildcard args hrest, getD_wildcard_eq_empty htokens hback hname hrest hnone,
      Path.compact_empty]

end

end Template

/-- The values that a rule finds in any path render, and they come back from the path that they
render, except that the value of a wildcard loses its empty pieces. From then on the path and the
values stay as they are. -/
theorem Rule.render_bindings?_fixed (r : Rule) (path : String) (args : Bindings)
    (hback : r.bindings? path = some args) :
    ∃ again, r.render args = .ok again ∧
      r.bindings? again = some (Template.compacted r.tokens args) ∧
      r.render (Template.compacted r.tokens args) = .ok again ∧
      ((∀ name, Token.wildcard name ∉ r.tokens) → Template.compacted r.tokens args = args) := by
  have htokens := r.isWellFormed
  have hclear := Template.not_shadowed_of_bindings? htokens hback
  rcases Template.exists_render_of_bindings? htokens hback with ⟨again, hagain⟩
  have hcompacted := Template.render_compacted htokens hagain
  have hvalues := Template.isRecoverable_compacted htokens hback
  refine ⟨again, render_eq_ok_iff.2 hagain, ?_, render_eq_ok_iff.2 hcompacted, ?_⟩
  · exact Template.bindings?_of_isRecoverable htokens hvalues hclear hcompacted
  · exact fun hnone => Template.compacted_of_not_wildcard hnone args

/-- Doubled slashes, a stray `%`, bytes that are no text, a keyed segment among the others, and an
escaped slash that leaves an empty piece in the value of the wildcard. -/
theorem Rule.render_bindings?_fixed_of_stray_escapes :
    let r : Rule := ⟨⟨"/by/:user/page:?/:dir?/*", "show"⟩, [.literal "by",
      .positional .required "user", .keyed .optional "page", .positional .optional "dir",
      .wildcard none], by decide +kernel⟩
    let path := "//by/%zz/%FF/page=%2/y%2F%2Fz/"
    let args : Bindings := .ofPairs [("user", "%zz"), ("dir", "%FF"), ("page", "%2"), ("*", "y//z")]
    r.bindings? path = some args ∧
      ∃ again, r.render args = .ok again ∧
        r.bindings? again = some (Template.compacted r.tokens args) ∧
        r.render (Template.compacted r.tokens args) = .ok again ∧
        ((∀ name, Token.wildcard name ∉ r.tokens) → Template.compacted r.tokens args = args) :=
  have hback := by decide +kernel
  ⟨hback, render_bindings?_fixed _ _ _ hback⟩

end Routing
