import Routing.Proofs.Lists
import Routing.Proofs.Template.Reencoding

namespace Routing

/-! # Rendering what was found in a rendered path

The values found in a rendered path render to the same segments, those with a key and those without
one each in their order. Only where the two kinds meet may they change: when an optional parameter
takes the segment of a later one, the value may move past a keyed parameter between them. Main
statement: `Rule.render_bindings?_render_iff`.
-/

namespace Template

/-- No value has moved past a keyed parameter that is written: as many of the optional parameters
before it have a value as before. -/
def IsSettled (tokens : List Token) (values args : Bindings) : Prop :=
  ∀ before presence name after, tokens = before ++ .keyed presence name :: after →
    values[name]? ≠ none → given args before = given values before

/-! ## Where segments with a key stand -/

section
variable {tokens : List Token} (htokens : IsWellFormed tokens) (hclear : ¬ Shadowed tokens)
include htokens hclear

/-- Of the segments that a template writes, those of its keyed parameters have a key. -/
theorem isKeyed_iff_of_mem_pieces {values : Bindings} {token : Token} (htoken : token ∈ tokens)
    {piece : String} (hpiece : piece ∈ token.pieces values) :
    IsKeyed (keys tokens) piece ↔ token.isKeyed = true := by
  rw [← isSome_keyed?_iff, keyed?_of_mem_pieces htokens hclear htoken hpiece]
  cases token with
  | keyed presence name =>
    cases hvalue : values[name]? with
    | none => simp [Token.pieces, hvalue] at hpiece
    | some value => simp [Token.entry, Token.isKeyed, hvalue]
  | _ => simp [Token.entry, Token.isKeyed]

/-- Two renderings with the same segments without a key, and the same ones with a key, are the same
if and only if each segment with a key stands after as many of the others. -/
theorem append_emitted_eq_iff {values args : Bindings} {part : List Token} (hpart : part ⊆ tokens)
    (hkeyed : ∀ token ∈ part, token.isKeyed = true → token.pieces args = token.pieces values)
    {u v : List String} (hu : ∀ piece ∈ u, ¬ IsKeyed (keys tokens) piece)
    (hv : ∀ piece ∈ v, ¬ IsKeyed (keys tokens) piece)
    (hplaced : u ++ placed args part = v ++ placed values part) :
    u ++ emitted args part = v ++ emitted values part ↔
      ∀ before token after, part = before ++ token :: after →
        token.isKeyed = true → token.pieces values ≠ [] →
          u.length + (placed args before).length = v.length + (placed values before).length := by
  -- What was written so far, `u` and `v`, holds no key; a key is where both start afresh.
  induction part generalizing u v with
  | nil => simpa [placed, emitted] using hplaced
  | cons token rest ih =>
    rcases List.cons_subset.1 hpart with ⟨htoken, hrest⟩
    have ih := fun {u v : List String} => ih (u := u) (v := v) hrest fun other hother =>
      hkeyed other (List.mem_cons_of_mem _ hother)
    rw [forall_split_cons_iff, emitted_cons, emitted_cons]
    cases hkind : token.isKeyed with
    | false =>
      have hplain (bound : Bindings) : ∀ piece ∈ token.pieces bound,
          ¬ IsKeyed (keys tokens) piece := by
        intro piece hpiece
        rw [isKeyed_iff_of_mem_pieces htokens hclear htoken hpiece, hkind]
        exact Bool.noConfusion
      simp only [placed_cons, hkind, Bool.false_eq_true, if_false] at hplaced ⊢
      rw [← List.append_assoc, ← List.append_assoc] at hplaced ⊢
      have hleft := List.forall_mem_append.2 ⟨hu, hplain args⟩
      have hright := List.forall_mem_append.2 ⟨hv, hplain values⟩
      rw [ih hleft hright hplaced]
      simp [Nat.add_assoc]
    | true =>
      have hsame := hkeyed token List.mem_cons_self hkind
      simp only [placed_cons, hkind, if_true, List.nil_append] at hplaced ⊢
      rw [hsame]
      rcases Token.exists_pieces_of_isKeyed hkind values with ⟨written, hwritten⟩
      cases written with
      | none =>
        rw [hwritten]
        simpa using ih hu hv hplaced
      | some piece =>
        have hpiece : IsKeyed (keys tokens) piece := by
          have hmem : piece ∈ token.pieces values := by
            rw [hwritten]
            exact List.mem_singleton_self piece
          exact (isKeyed_iff_of_mem_pieces htokens hclear htoken hmem).2 hkind
        have hafresh := ih (u := []) (v := []) (by simp) (by simp)
        rw [hwritten]
        simp only [Option.toList_some, List.singleton_append, List.nil_append, List.length_nil,
          Nat.zero_add] at hafresh ⊢
        rw [append_cons_eq_iff_of_not hpiece hu hv hplaced]
        constructor
        · intro h
          rcases h with ⟨hlength, hsame, hmore⟩
          have hplaces := (hafresh hsame).1 hmore
          refine ⟨fun _ _ => hlength, fun before other after hsplit hother hwrite => ?_⟩
          rw [hlength, hplaces before other after hsplit hother hwrite]
        · intro h
          rcases h with ⟨hhere, hplaces⟩
          have hlength : u.length = v.length := by
            simpa [placed, emitted] using hhere trivial (by simp)
          have hsame := List.append_inj_right hplaced hlength
          refine ⟨hlength, hsame, (hafresh hsame).2 ?_⟩
          intro before other after hsplit hother hwrite
          have hplace := hplaces before other after hsplit hother hwrite
          omega

end

/-- Before a keyed parameter stand the segments of the mandatory tokens and of the given optional
ones. -/
theorem length_placed_before {values : Bindings} {before after : List Token} {token : Token}
    (htokens : IsWellFormed (before ++ token :: after))
    (hsupplied : ∀ token ∈ before, token.IsSupplied values) :
    (placed values before).length = mandatory before + given values before := by
  have hbefore := htokens.sublist (List.sublist_append_left before (token :: after))
  have hnone : before.filter Token.isWildcard = [] := by
    apply filter_isWildcard_eq_nil
    intro name hname
    have hbefore := (List.pairwise_append.1 htokens.wildcard_last).2.2
    have hlast := hbefore _ hname token List.mem_cons_self
    exact Bool.noConfusion hlast
  rw [placed_eq hbefore, hnone, List.length_append, length_emitted_dealt hsupplied, length_dealt]
  rfl

/-- Two paths of a template are the same if and only if their segments are. -/
theorem render_eq_iff_emitted_eq {tokens : List Token} (htokens : IsWellFormed tokens)
    {values args : Bindings} {path again : String} (hrender : render tokens values = .ok path)
    (hagain : render tokens args = .ok again) :
    again = path ↔ emitted args tokens = emitted values tokens := by
  constructor
  · rintro rfl
    rw [← segments_of_render htokens.formed hrender, ← segments_of_render htokens.formed hagain]
  · intro hemitted
    -- The leading fixed texts are the same for all values, so what follows them is the same too.
    have hlead : emitted args (tokens.takeWhile Token.isLiteral) =
        emitted values (tokens.takeWhile Token.isLiteral) := by
      apply List.flatMap_congr
      intro token htoken
      have hliteral := List.mem_takeWhile_imp htoken
      cases token with
      | literal text => rfl
      | _ => exact Bool.noConfusion hliteral
    have hrest : emitted args (tokens.dropWhile Token.isLiteral) =
        emitted values (tokens.dropWhile Token.isLiteral) := by
      have hsplit := hemitted
      rw [← tokens.takeWhile_append_dropWhile (p := Token.isLiteral), emitted_append,
        emitted_append, hlead] at hsplit
      exact List.append_cancel_left hsplit
    rw [(render_eq_ok_iff.1 hagain).2, (render_eq_ok_iff.1 hrender).2, hemitted, hrest]

/-! ## Values found in a rendered path -/

section
variable {tokens : List Token} {values args : Bindings} {path : String}
  (htokens : IsWellFormed tokens) (hrender : render tokens values = .ok path)
  (hback : bindings? tokens path = some args)
include htokens hrender hback

/-- A keyed parameter finds what was written under its key. -/
theorem getElem?_keyed_of_bindings? {presence : Presence} {name : String}
    (htoken : Token.keyed presence name ∈ tokens) : args[name]? = values[name]? := by
  have hclear := not_shadowed_of_bindings? htokens hback
  apply Option.ext
  intro value
  rw [getElem?_eq_some_iff_binds htokens hback,
    binds_keyed_iff_of_render htokens hclear hrender htoken]

theorem entry_of_bindings? {token : Token} (htoken : token ∈ tokens) :
    token.entry args = token.entry values := by
  cases token with
  | keyed presence name =>
    simp only [Token.entry, getElem?_keyed_of_bindings? htokens hrender hback htoken]
  | _ => rfl

theorem emitted_eq_iff_isSettled :
    emitted args tokens = emitted values tokens ↔ IsSettled tokens values args := by
  have hclear := not_shadowed_of_bindings? htokens hback
  have hsupplied := (render_eq_ok_iff.1 hrender).1
  have hkeyed : ∀ token ∈ tokens, token.isKeyed = true →
      token.pieces args = token.pieces values := by
    intro token htoken hkind
    cases token with
    | keyed presence name =>
      simp only [Token.pieces, getElem?_keyed_of_bindings? htokens hrender hback htoken]
    | _ => exact Bool.noConfusion hkind
  have hiff := append_emitted_eq_iff htokens hclear (List.Subset.refl _) hkeyed (u := []) (v := [])
    (by simp) (by simp) (congrArg ([] ++ ·) (placed_of_bindings? htokens hrender hback))
  simp only [List.nil_append, List.length_nil, Nat.zero_add] at hiff
  rw [hiff]
  -- Mandatory tokens add the same number of segments both times, so the optional ones decide.
  have hlength : ∀ {before token after}, tokens = before ++ token :: after →
      ((placed args before).length = (placed values before).length ↔
        given args before = given values before) := by
    rintro before token after rfl
    have hin : ∀ other ∈ before, other ∈ before ++ token :: after := fun other hother =>
      List.mem_append_left _ hother
    rw [length_placed_before htokens fun other hother =>
        isSupplied_of_bindings? htokens hback (hin other hother),
      length_placed_before htokens fun other hother => hsupplied other (hin other hother)]
    omega
  constructor
  · intro h before presence name after hsplit hvalue
    exact (hlength hsplit).1 (h before _ after hsplit rfl (by simpa [Token.pieces] using hvalue))
  · intro h before token after hsplit hkind hwrite
    refine (hlength hsplit).2 ?_
    cases token with
    | keyed presence name =>
      exact h before presence name after hsplit (by simpa [Token.pieces] using hwrite)
    | _ => exact Bool.noConfusion hkind

end

end Template

/-- The values that a rule finds in a path that it rendered always render, and to the same segments
without a key and the same ones with a key. The path is the same if and only if no value has moved
past a keyed parameter. -/
theorem Rule.render_bindings?_render_iff (r : Rule) (values args : Bindings) (path : String)
    (hrender : r.render values = .ok path) (hback : r.bindings? path = some args) :
    ∃ again, r.render args = .ok again ∧
      Template.others r.tokens again = Template.others r.tokens path ∧
      Template.found r.tokens again = Template.found r.tokens path ∧
      (again = path ↔ Template.IsSettled r.tokens values args) := by
  have htokens := r.isWellFormed
  have hclear := Template.not_shadowed_of_bindings? htokens hback
  have hrender := render_eq_ok_iff.1 hrender
  rcases Template.exists_render_of_bindings? htokens hback with ⟨again, hagain⟩
  refine ⟨again, render_eq_ok_iff.2 hagain, ?_, ?_, ?_⟩
  · rw [Template.others_of_render htokens hagain hclear,
      Template.others_of_render htokens hrender hclear,
      Template.placed_of_bindings? htokens hrender hback]
  · rw [Template.found_of_render htokens hagain hclear,
      Template.found_of_render htokens hrender hclear]
    exact List.filterMap_congr fun token htoken =>
      Template.entry_of_bindings? htokens hrender hback htoken
  · rw [Template.render_eq_iff_emitted_eq htokens hrender hagain,
      Template.emitted_eq_iff_isSettled htokens hrender hback]

/-- The value of the second optional parameter moves to the first one, before the keyed one. -/
theorem Rule.render_bindings?_render_moved :
    ∃ r : Rule, r.toDeclaration = ⟨"/:a?/:b?/k:?", "show"⟩ ∧
      r.render (.ofPairs [("b", "x y"), ("k", "v")]) = .ok "/x%20y/k=v" ∧
      r.bindings? "/x%20y/k=v" = some (.ofPairs [("a", "x y"), ("k", "v")]) ∧
      ∃ again, r.render (.ofPairs [("a", "x y"), ("k", "v")]) = .ok again ∧
        Template.others r.tokens again = Template.others r.tokens "/x%20y/k=v" ∧
        Template.found r.tokens again = Template.found r.tokens "/x%20y/k=v" ∧
        (again = "/x%20y/k=v" ↔ Template.IsSettled r.tokens (.ofPairs [("b", "x y"), ("k", "v")])
          (.ofPairs [("a", "x y"), ("k", "v")])) := by
  let r : Rule := ⟨⟨"/:a?/:b?/k:?", "show"⟩, [.positional .optional "a", .positional .optional "b",
    .keyed .optional "k"], by decide +kernel⟩
  have hrender : r.render (.ofPairs [("b", "x y"), ("k", "v")]) = .ok "/x%20y/k=v" := by
    decide +kernel
  have hback : r.bindings? "/x%20y/k=v" = some (.ofPairs [("a", "x y"), ("k", "v")]) := by
    decide +kernel
  exact ⟨r, rfl, hrender, hback, r.render_bindings?_render_iff _ _ _ hrender hback⟩

/-- A keyed parameter between two optional ones. -/
def Rule.interrupted : Rule :=
  ⟨⟨"/:a?/k:?/:b?", "show"⟩, [.positional .optional "a", .keyed .optional "k",
    .positional .optional "b"], by decide +kernel⟩

/-- The value of the second optional parameter is found by the first one and moves past the key. -/
theorem Rule.render_bindings?_render_ne :
    interrupted.render (.ofPairs [("b", "x"), ("k", "v")]) = .ok "/k=v/x" ∧
      interrupted.bindings? "/k=v/x" = some (.ofPairs [("a", "x"), ("k", "v")]) ∧
      interrupted.render (.ofPairs [("a", "x"), ("k", "v")]) = .ok "/x/k=v" := by
  refine ⟨?_, ?_, ?_⟩ <;> decide +kernel

end Routing
