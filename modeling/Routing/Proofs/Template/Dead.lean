import Routing.Proofs.Template.RoundTrip

namespace Routing

/-! # Templates that match nothing

A fixed text that reads as a value of a keyed parameter of its own template is never found in its
place, so the template is dead: it renders, but it matches no path. Every other template matches the
path that it renders from the least that it needs. Main statement: `Rule.exists_bindings?_iff`.
-/

/-- The least that a token needs to be rendered and found again, under its name. -/
def Token.need : Token → Option (String × String)
  | .positional .required name => some (name, "x")
  | .keyed .required name => some (name, "")
  | .wildcard name => some (name.getD anonymous, "")
  | _ => none

theorem Token.name_of_need {token : Token} {name value : String}
    (h : token.need = some (name, value)) : token.name = some name := by
  rcases token with _ | ⟨_ | _, _⟩ | ⟨_ | _, _⟩ | _ <;> simp_all [need, Token.name]

namespace Template

/-- The least that a template needs to be rendered and found again. -/
def needs (tokens : List Token) : Bindings := .ofPairs (tokens.filterMap Token.need)

section
variable {tokens : List Token} (htokens : IsWellFormed tokens)
include htokens

theorem needs_eq_some_iff {name value : String} :
    (needs tokens)[name]? = some value ↔ ∃ token ∈ tokens, token.need = some (name, value) := by
  have hnodup := htokens.nodup_fst_filterMap Token.need fun _ _ hneed => Token.name_of_need hneed
  rw [needs, Bindings.getElem?_ofPairs_eq_some_iff hnodup, List.mem_filterMap]

/-- Under the name of a token stands what this token needs. -/
theorem getElem?_needs {token : Token} (htoken : token ∈ tokens) {name : String}
    (hname : token.name = some name) : (needs tokens)[name]? = token.need.map Prod.snd := by
  apply Option.ext
  intro value
  rw [needs_eq_some_iff htokens, Option.map_eq_some_iff]
  constructor
  · intro h
    rcases h with ⟨other, hother, hneed⟩
    -- No other token has this name.
    have hsame := htokens.eq_of_name_eq htoken hother hname (Token.name_of_need hneed)
    rw [hsame]
    exact ⟨_, hneed, rfl⟩
  · intro h
    rcases h with ⟨⟨name', _⟩, hneed, rfl⟩
    have hname' := Token.name_of_need hneed
    rw [hname, Option.some.injEq] at hname'
    rw [← hname'] at hneed
    exact ⟨token, htoken, hneed⟩

theorem isSupplied_needs {token : Token} (htoken : token ∈ tokens) :
    token.IsSupplied (needs tokens) := by
  rcases token with text | ⟨_ | _, name⟩ | ⟨_ | _, name⟩ | name
  case positional.required =>
    have hvalue : (needs tokens)[name]? = some "x" := getElem?_needs htokens htoken rfl
    simp [Token.IsSupplied, Bindings.filled?, hvalue]
  case keyed.required =>
    have hvalue : (needs tokens)[name]? = some "" := getElem?_needs htokens htoken rfl
    simp [Token.IsSupplied, hvalue]
  all_goals trivial

/-- Without optional values and with nothing for a wildcard, no value can move to another place. -/
theorem isRecoverable_needs : IsRecoverable tokens (needs tokens) := by
  have hoptional : ∀ name, Token.positional .optional name ∈ tokens →
      (needs tokens)[name]? = none := fun name htoken => getElem?_needs htokens htoken rfl
  have hwildcard : ∀ name, Token.wildcard name ∈ tokens →
      (needs tokens)[name.getD Token.anonymous]? = some "" :=
    fun name htoken => getElem?_needs htokens htoken rfl
  constructor
  · intro name value hvalue
    rcases (needs_eq_some_iff htokens).1 hvalue with ⟨token, htoken, hneed⟩
    exact mem_names.2 ⟨token, htoken, Token.name_of_need hneed⟩
  · intro name htoken
    rw [hoptional name htoken]
    simp
  · intro name htoken
    exact ⟨"", hwildcard name htoken, Or.inl rfl⟩
  · apply List.pairwise_of_forall_mem_list
    rintro _ _ _ hmem name later - rfl -
    exact hoptional later hmem
  · intro name rest _ hrest _
    rw [Std.ExtTreeMap.getD_eq_getD_getElem?, hwildcard rest hrest]
    rfl

theorem exists_render_needs : ∃ path, render tokens (needs tokens) = .ok path :=
  ⟨_, render_eq_ok_iff.2 ⟨fun _ => isSupplied_needs htokens, rfl⟩⟩

theorem exists_matches_iff : (∃ path, Matches tokens path) ↔ ¬ Shadowed tokens := by
  constructor
  · intro h
    rcases h with ⟨path, hmatch⟩
    exact not_shadowed_of_matches htokens hmatch
  · intro hclear
    rcases exists_render_needs htokens with ⟨path, hrender⟩
    exact ⟨path, matches_of_isRecoverable (isRecoverable_needs htokens) htokens hclear hrender⟩

end

end Template

namespace Rule

/-- A rule matches some path exactly if none of its fixed texts reads as a segment `key=value` of
one of its keyed parameters, wherever the two stand. A rule with such a text matches no path, and
still renders for all values that leave out nothing required. -/
theorem exists_bindings?_iff (r : Rule) :
    ((∃ path, (r.bindings? path).isSome) ↔ ¬ Template.Shadowed r.tokens) ∧
    (Template.Shadowed r.tokens → (∀ path, r.bindings? path = none) ∧
      ∀ values, (∀ token ∈ r.tokens, token.IsSupplied values) →
        ∃ path, r.render values = .ok path) := by
  have htokens := r.isWellFormed
  have hmatches : (∃ path, (r.bindings? path).isSome) ↔ ¬ Template.Shadowed r.tokens := by
    rw [← Template.exists_matches_iff htokens]
    exact exists_congr fun path => Template.isSome_bindings?_iff htokens
  refine ⟨hmatches, ?_⟩
  intro hshadowed
  refine ⟨?_, ?_⟩
  · intro path
    by_contra hsome
    have hpath := Option.isSome_iff_ne_none.2 hsome
    exact hmatches.1 ⟨path, hpath⟩ hshadowed
  · intro values hsupplied
    exact ⟨_, render_eq_ok_iff.2 (Template.render_eq_ok_iff.2 ⟨hsupplied, rfl⟩)⟩

/-- The same fixed text is in the way of a parameter that has its key, and of no other. -/
theorem exists_bindings?_iff_of_collision :
    let dead : Rule := ⟨⟨"/sort=up/:id/sort:?", "show"⟩, [.literal "sort=up",
      .positional .required "id", .keyed .optional "sort"], by decide +kernel⟩
    let live : Rule := ⟨⟨"/sort=up/:id/page:", "show"⟩, [.literal "sort=up",
      .positional .required "id", .keyed .required "page"], by decide +kernel⟩
    let values : Bindings := .ofPairs [("id", "7")]
    Template.Shadowed dead.tokens ∧ (∀ path, dead.bindings? path = none) ∧
      (∀ token ∈ dead.tokens, token.IsSupplied values) ∧
      (∃ path, dead.render values = .ok path) ∧
      ¬ Template.Shadowed live.tokens ∧ ∃ path, (live.bindings? path).isSome := by
  intro dead live values
  have hshadowed : Template.Shadowed dead.tokens := ⟨"sort=up", by decide, by decide +kernel⟩
  have hsupplied : ∀ token ∈ dead.tokens, token.IsSupplied values := by
    simp [dead, values, Token.IsSupplied, Bindings.filled?, Bindings.ofPairs]
  have hclear : ¬ Template.Shadowed live.tokens := by
    rintro ⟨text, htext, hkeyed⟩
    obtain rfl : text = "sort=up" := by simpa [live] using htext
    revert hkeyed
    decide +kernel
  rcases dead.exists_bindings?_iff.2 hshadowed with ⟨hnone, hrender⟩
  exact ⟨hshadowed, hnone, hsupplied, hrender values hsupplied, hclear,
    live.exists_bindings?_iff.1.2 hclear⟩

end Rule

end Routing
