import Mathlib.Data.Option.Basic
import Routing.Proofs.Bindings
import Routing.Proofs.Template.Alignment
import Routing.Proofs.Template.Keyed

namespace Routing

/-! # Matching in closed form

Which paths a template matches, and what it binds, said without following the matcher: the segments
`key=value` with declared keys, the others, and one count of them. Main statement:
`Rule.bindings?_eq_some_iff`.
-/

namespace Template

/-- The segments of a path that take their places among the tokens. -/
def others (tokens : List Token) (path : String) : List String :=
  (Path.segments path).filter fun segment => ¬ IsKeyed (keys tokens) segment

/-- What a path must be like to match a template. -/
structure Matches (tokens : List Token) (path : String) : Prop where
  /-- No declared key stands before a `=` in two segments. -/
  keys_once : (Path.segments path).Pairwise fun one other => ∀ key ∈ keys tokens, ∀ value value',
    Path.Splits one key value → ¬ Path.Splits other key value'
  /-- Every required keyed parameter has its segment. -/
  keys_given : ∀ key, Token.keyed .required key ∈ tokens →
    ∃ segment ∈ Path.segments path, ∃ value, Path.Splits segment key value
  aligned : Aligned tokens (others tokens path)

/-- What a path gives to the parameters of a template. -/
inductive Binds (tokens : List Token) (path : String) : String → String → Prop
  | keyed {presence : Presence} {name segment value : String}
      (declared : Token.keyed presence name ∈ tokens) (found : segment ∈ Path.segments path)
      (splits : Path.Splits segment name value) : Binds tokens path name (Path.decode value)
  | positional {presence : Presence} {name segment : String}
      (placed : (Token.positional presence name, segment) ∈
        (takers tokens (others tokens path).length).zip (others tokens path)) :
      Binds tokens path name (Path.decode segment)
  | wildcard {name : Option String} (declared : Token.wildcard name ∈ tokens) :
      Binds tokens path (name.getD Token.anonymous)
        ("/".intercalate (((others tokens path).drop
          (takers tokens (others tokens path).length).length).map Path.decode))

/-- The pairs that a matching path gives to the parameters. -/
def pairs (tokens : List Token) (path : String) : List (String × String) :=
  keyedPairs (found tokens path) tokens ++ placements tokens (others tokens path)

/-! ## One value for each name -/

theorem fst_filterMap_placement (taken : List Token) (segments : List String) :
    ((taken.zip segments).filterMap placement).map Prod.fst =
      names (taken.take segments.length) := by
  induction taken generalizing segments with
  | nil => simp [names]
  | cons token taken ih =>
    cases segments with
    | nil => simp [names]
    | cons segment segments =>
      cases hname : token.name <;> simpa [names, placement, hname] using ih segments

theorem fst_surplus (tokens : List Token) (segments : List String) :
    (surplus tokens segments).map Prod.fst = names (tokens.filter Token.isWildcard) := by
  unfold surplus names
  rw [List.map_filterMap]
  congr 1
  funext token
  cases token.name <;> rfl

theorem mem_takers {tokens : List Token} {n : Nat} {token : Token} (h : token ∈ takers tokens n) :
    token ∈ tokens ∧ (token.takesSegment = true ∨ token.mayTakeSegment = true) := by
  rcases List.mem_filter.1 h with ⟨hmem, hplace⟩
  refine ⟨hmem, ?_⟩
  rw [Bool.or_eq_true, decide_eq_true_eq] at hplace
  exact hplace.imp_right fun htaken => (List.mem_filter.1 (List.mem_of_mem_take htaken)).2

/-- What takes a segment by its place has no key. -/
theorem isKeyed_of_mem_takers {tokens : List Token} {n : Nat} {token : Token}
    (h : token ∈ takers tokens n) : token.isKeyed = false := by
  have hplace := (mem_takers h).2
  cases token with
  | keyed presence name => simp [Token.takesSegment, Token.mayTakeSegment] at hplace
  | _ => rfl

theorem isWildcard_of_mem_takers {tokens : List Token} {n : Nat} {token : Token}
    (h : token ∈ takers tokens n) : token.isWildcard = false := by
  have hplace := (mem_takers h).2
  cases token with
  | wildcard name => simp [Token.takesSegment, Token.mayTakeSegment] at hplace
  | _ => rfl

section
variable {tokens : List Token} (htokens : IsWellFormed tokens)
include htokens

/-- Tokens of different kinds bind different names. -/
theorem ne_of_mem_names {one other : List Token} (hone : one ⊆ tokens) (hother : other ⊆ tokens)
    (hne : ∀ token ∈ one, token ∉ other) :
    ∀ name ∈ names one, ∀ name' ∈ names other, name ≠ name' := by
  rintro name hname _ hname' rfl
  rcases mem_names.1 hname with ⟨token, htoken, heq⟩
  rcases mem_names.1 hname' with ⟨token', htoken', heq'⟩
  have hsame := htokens.eq_of_name_eq (hone htoken) (hother htoken') heq heq'
  exact hne token htoken (hsame ▸ htoken')

theorem nodup_names_of_sublist {part : List Token} (hpart : part.Sublist tokens) :
    (names part).Nodup :=
  htokens.names_nodup.sublist (hpart.filterMap _)

theorem nodup_fst_pairs (path : String) : ((pairs tokens path).map Prod.fst).Nodup := by
  have hkeyed := sublist_fst_keyedPairs (found tokens path) tokens
  have htaken : ((takers tokens (others tokens path).length).take
      (others tokens path).length).Sublist tokens :=
    (List.take_sublist _ _).trans List.filter_sublist
  have hwild : (tokens.filter Token.isWildcard).Sublist tokens := List.filter_sublist
  unfold pairs
  rw [placements, List.map_append, List.map_append, fst_filterMap_placement, fst_surplus]
  refine List.nodup_append.2 ⟨?_, List.nodup_append.2 ⟨?_, ?_, ?_⟩, ?_⟩
  · exact (nodup_names_of_sublist htokens (List.filter_sublist (p := Token.isKeyed))).sublist hkeyed
  · exact nodup_names_of_sublist htokens htaken
  · exact nodup_names_of_sublist htokens hwild
  · -- A wildcard takes no single segment.
    apply ne_of_mem_names htokens htaken.subset hwild.subset
    intro token hmem hbad
    have hnot := isWildcard_of_mem_takers (List.mem_of_mem_take hmem)
    rw [(List.mem_filter.1 hbad).2] at hnot
    exact Bool.noConfusion hnot
  · -- A keyed parameter takes nothing by its place.
    intro name hname
    rw [← names_append]
    have hplaced := List.append_subset.2 ⟨htaken.subset, hwild.subset⟩
    refine ne_of_mem_names htokens List.filter_sublist.subset hplaced ?_ name (hkeyed.subset hname)
    intro token hmem hbad
    have hiskeyed := (List.mem_filter.1 hmem).2
    rcases List.mem_append.1 hbad with hbad | hbad
    · rw [isKeyed_of_mem_takers (List.mem_of_mem_take hbad)] at hiskeyed
      exact Bool.noConfusion hiskeyed
    · have hiswild := (List.mem_filter.1 hbad).2
      cases token with
      | wildcard name => exact Bool.noConfusion hiskeyed
      | _ => exact Bool.noConfusion hiswild

end

/-! ## The closed form -/

theorem filter_isNone_keyed? (tokens : List Token) (path : String) :
    ((Path.segments path).filter fun segment => (keyed? (keys tokens) segment).isNone) =
      others tokens path := by
  apply List.filter_congr
  intro segment _
  rw [Bool.eq_iff_iff, decide_eq_true_eq, ← isSome_keyed?_iff]
  simp

theorem bindings?_eq_some_iff_ofPairs {tokens : List Token} (htokens : IsWellFormed tokens)
    {path : String} {args : Bindings} :
    bindings? tokens path = some args ↔
      Matches tokens path ∧ args = .ofPairs (pairs tokens path) := by
  rw [bindings?, filter_isNone_keyed?, ← found]
  -- The guard and the two binders fail one by one, each for one part of `Matches`.
  constructor
  · intro h
    rcases Option.bind_eq_some_iff.1 h with ⟨⟨⟩, hguard, h⟩
    rcases Option.bind_eq_some_iff.1 h with ⟨named, hnamed, h⟩
    rcases Option.bind_eq_some_iff.1 h with ⟨placed, hplaced, h⟩
    have honce := (Option.guard_eq_some' _).1 hguard
    rcases bindKeyed_eq_some_iff.1 hnamed with ⟨hgiven, rfl⟩
    rcases (fill_eq_some_iff htokens).1 hplaced with ⟨haligned, rfl⟩
    exact ⟨⟨nodup_found_iff.1 honce, (keys_given_iff honce).1 hgiven, haligned⟩,
      (Option.some.inj h).symm⟩
  · intro h
    rcases h with ⟨hmatch, rfl⟩
    have honce := nodup_found_iff.2 hmatch.keys_once
    have hgiven := (keys_given_iff honce).2 hmatch.keys_given
    refine Option.bind_eq_some_iff.2 ⟨(), (Option.guard_eq_some' _).2 honce, ?_⟩
    refine Option.bind_eq_some_iff.2 ⟨_, bindKeyed_eq_some_iff.2 ⟨hgiven, rfl⟩, ?_⟩
    exact Option.bind_eq_some_iff.2 ⟨_, (fill_eq_some_iff htokens).2 ⟨hmatch.aligned, rfl⟩, rfl⟩

/-- Of the tokens that take one segment, the optional and the required parameters have names. -/
theorem mem_filterMap_placement_iff {tokens : List Token} {segments : List String}
    {name value : String} :
    (name, value) ∈ ((takers tokens segments.length).zip segments).filterMap placement ↔
      ∃ presence, ∃ segment, (Token.positional presence name, segment) ∈
        (takers tokens segments.length).zip segments ∧ Path.decode segment = value := by
  simp only [List.mem_filterMap, placement, Option.map_eq_some_iff, Prod.mk.injEq]
  constructor
  · intro h
    rcases h with ⟨⟨token, segment⟩, hmem, key, hname, rfl, hvalue⟩
    have htaker := (List.of_mem_zip hmem).1
    cases token with
    | positional presence _ =>
      cases hname
      exact ⟨presence, segment, hmem, hvalue⟩
    | literal text => cases hname
    | keyed presence _ => exact Bool.noConfusion (isKeyed_of_mem_takers htaker)
    | wildcard _ => exact Bool.noConfusion (isWildcard_of_mem_takers htaker)
  · intro h
    rcases h with ⟨presence, segment, hmem, hvalue⟩
    exact ⟨_, hmem, name, rfl, rfl, hvalue⟩

theorem mem_surplus_iff {tokens : List Token} {segments : List String} {name value : String} :
    (name, value) ∈ surplus tokens segments ↔
      ∃ given : Option String, Token.wildcard given ∈ tokens ∧ given.getD Token.anonymous = name ∧
        "/".intercalate ((segments.drop (takers tokens segments.length).length).map Path.decode) =
          value := by
  simp only [surplus, List.mem_filterMap, List.mem_filter, Option.map_eq_some_iff, Prod.mk.injEq]
  constructor
  · intro h
    rcases h with ⟨token, ⟨hmem, hwild⟩, key, hname, rfl, hvalue⟩
    cases token with
    | wildcard given =>
      cases hname
      exact ⟨given, hmem, rfl, hvalue⟩
    | _ => exact Bool.noConfusion hwild
  · intro h
    rcases h with ⟨given, hmem, hname, hvalue⟩
    exact ⟨_, ⟨hmem, rfl⟩, name, congrArg some hname, rfl, hvalue⟩

theorem mem_pairs_iff {tokens : List Token} {path : String} (hmatch : Matches tokens path)
    {name value : String} : (name, value) ∈ pairs tokens path ↔ Binds tokens path name value := by
  have honce := nodup_found_iff.2 hmatch.keys_once
  rw [pairs, placements, List.mem_append, List.mem_append, mem_keyedPairs_iff honce,
    mem_filterMap_placement_iff, mem_surplus_iff]
  constructor
  · intro h
    rcases h with ⟨presence, htoken, segment, hsegment, text, hsplits, rfl⟩ |
      ⟨presence, segment, hmem, rfl⟩ | ⟨given, htoken, rfl, rfl⟩
    · exact .keyed htoken hsegment hsplits
    · exact .positional hmem
    · exact .wildcard htoken
  · intro h
    rcases h with ⟨htoken, hsegment, hsplits⟩ | hmem | htoken
    · exact Or.inl ⟨_, htoken, _, hsegment, _, hsplits, rfl⟩
    · exact Or.inr (Or.inl ⟨_, _, hmem, rfl⟩)
    · exact Or.inr (Or.inr ⟨_, htoken, rfl, rfl⟩)

/-- The matcher finds exactly the bindings that a matching path gives. -/
theorem bindings?_eq_some_iff_binds {tokens : List Token} (htokens : IsWellFormed tokens)
    {path : String} {args : Bindings} :
    bindings? tokens path = some args ↔ Matches tokens path ∧
      ∀ name value : String, args[name]? = some value ↔ Binds tokens path name value := by
  have hpairs (hmatch : Matches tokens path) (name value : String) :
      (Bindings.ofPairs (pairs tokens path))[name]? = some value ↔
        Binds tokens path name value := by
    rw [Bindings.getElem?_ofPairs_eq_some_iff (nodup_fst_pairs htokens path), mem_pairs_iff hmatch]
  rw [bindings?_eq_some_iff_ofPairs htokens]
  constructor
  · intro h
    rcases h with ⟨hmatch, rfl⟩
    exact ⟨hmatch, hpairs hmatch⟩
  · intro h
    rcases h with ⟨hmatch, hbinds⟩
    exact ⟨hmatch, Bindings.ext_some fun name value =>
      (hbinds name value).trans (hpairs hmatch name value).symm⟩

theorem matches_of_bindings? {tokens : List Token} (htokens : IsWellFormed tokens) {path : String}
    {args : Bindings} (h : bindings? tokens path = some args) : Matches tokens path :=
  ((bindings?_eq_some_iff_binds htokens).1 h).1

/-- What a matching path binds. -/
theorem getElem?_eq_some_iff_binds {tokens : List Token} (htokens : IsWellFormed tokens)
    {path : String} {args : Bindings} (h : bindings? tokens path = some args)
    {name value : String} : args[name]? = some value ↔ Binds tokens path name value :=
  ((bindings?_eq_some_iff_binds htokens).1 h).2 name value

/-- Only parameters are bound. -/
theorem Binds.mem_names {tokens : List Token} {path name value : String}
    (h : Binds tokens path name value) : name ∈ names tokens := by
  cases h with
  | keyed declared => exact Template.mem_names.2 ⟨_, declared, rfl⟩
  | positional placed =>
    exact Template.mem_names.2 ⟨_, (mem_takers (List.of_mem_zip placed).1).1, rfl⟩
  | wildcard declared => exact Template.mem_names.2 ⟨_, declared, rfl⟩

section
variable {tokens : List Token} (htokens : IsWellFormed tokens) {path value : String}
include htokens

theorem binds_keyed_iff {presence : Presence} {name : String}
    (htoken : Token.keyed presence name ∈ tokens) :
    Binds tokens path name value ↔ ∃ segment ∈ Path.segments path, ∃ text,
      Path.Splits segment name text ∧ Path.decode text = value := by
  constructor
  · intro h
    rcases h with ⟨_, hsegment, hsplits⟩ | hplaced | hdeclared
    · exact ⟨_, hsegment, _, hsplits, rfl⟩
    · have hmem := (mem_takers (List.of_mem_zip hplaced).1).1
      cases htokens.eq_of_name_eq htoken hmem rfl rfl
    · cases htokens.eq_of_name_eq htoken hdeclared rfl rfl
  · intro h
    rcases h with ⟨segment, hsegment, text, hsplits, rfl⟩
    exact .keyed htoken hsegment hsplits

theorem binds_positional_iff {presence : Presence} {name : String}
    (htoken : Token.positional presence name ∈ tokens) :
    Binds tokens path name value ↔ ∃ segment, (Token.positional presence name, segment) ∈
      (takers tokens (others tokens path).length).zip (others tokens path) ∧
        Path.decode segment = value := by
  constructor
  · intro h
    rcases h with ⟨hdeclared, -, -⟩ | hplaced | hdeclared
    · cases htokens.eq_of_name_eq htoken hdeclared rfl rfl
    · have hmem := (mem_takers (List.of_mem_zip hplaced).1).1
      cases htokens.eq_of_name_eq htoken hmem rfl rfl
      exact ⟨_, hplaced, rfl⟩
    · cases htokens.eq_of_name_eq htoken hdeclared rfl rfl
  · intro h
    rcases h with ⟨segment, hplaced, rfl⟩
    exact .positional hplaced

theorem binds_wildcard_iff {name : Option String} (htoken : Token.wildcard name ∈ tokens) :
    Binds tokens path (name.getD Token.anonymous) value ↔
      "/".intercalate (((others tokens path).drop
        (takers tokens (others tokens path).length).length).map Path.decode) = value := by
  constructor
  · generalize hkey : name.getD Token.anonymous = key
    have hname : (Token.wildcard name).name = some key := congrArg some hkey
    intro h
    rcases h with ⟨hdeclared, -, -⟩ | hplaced | hdeclared
    · cases htokens.eq_of_name_eq htoken hdeclared hname rfl
    · have hmem := (mem_takers (List.of_mem_zip hplaced).1).1
      cases htokens.eq_of_name_eq htoken hmem hname rfl
    · rfl
  · rintro rfl
    exact .wildcard htoken

end

theorem isSome_bindings?_iff {tokens : List Token} (htokens : IsWellFormed tokens) {path : String} :
    (bindings? tokens path).isSome ↔ Matches tokens path := by
  rw [Option.isSome_iff_exists]
  constructor
  · intro hsome
    rcases hsome with ⟨args, h⟩
    exact matches_of_bindings? htokens h
  · intro hmatch
    exact ⟨_, (bindings?_eq_some_iff_ofPairs htokens).2 ⟨hmatch, rfl⟩⟩

end Template

/-- A rule takes some values from exactly the paths that its closed form describes, and from each of
them exactly the values that it describes. -/
theorem Rule.bindings?_eq_some_iff (r : Rule) (path : String) :
    ((∃ args, r.bindings? path = some args) ↔ Template.Matches r.tokens path) ∧
    ∀ args : Bindings, r.bindings? path = some args ↔ Template.Matches r.tokens path ∧
      ∀ name value : String,
        args[name]? = some value ↔ Template.Binds r.tokens path name value := by
  have htokens := r.isWellFormed
  have hsome : (∃ args, r.bindings? path = some args) ↔ Template.Matches r.tokens path :=
    Option.isSome_iff_exists.symm.trans (Template.isSome_bindings?_iff htokens)
  exact ⟨hsome, fun _ => Template.bindings?_eq_some_iff_binds htokens⟩

end Routing
