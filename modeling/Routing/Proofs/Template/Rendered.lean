import Mathlib.Data.List.Basic
import Routing.Proofs.Template.Emission
import Routing.Proofs.Template.Matching

namespace Routing

/-! # Matching of rendered paths

What the matcher finds in a path that the same template rendered: under each key the value that was
written there, and the rest of the segments in the order of their tokens. Main statement:
`Rule.isSome_bindings?_render_iff`, when the path matches at all.
-/

namespace Token

/-- What a token writes under a key. -/
def entry (values : Bindings) : Token → Option (String × String)
  | .keyed _ name => values[name]?.map fun value => (name, Path.encode value)
  | _ => none

/-- An optional positional parameter that adds a segment. -/
def isGiven (values : Bindings) : Token → Bool
  | .positional .optional name => (values.filled? name).isSome
  | _ => false

theorem mayTakeSegment_of_isGiven {values : Bindings} {token : Token}
    (h : token.isGiven values = true) : token.mayTakeSegment = true := by
  rcases token with _ | ⟨_ | _, _⟩ | _ | _
  case positional.optional => rfl
  all_goals exact Bool.noConfusion h

/-- A written value stands under no key. -/
theorem not_isKeyed_encode (declared : List String) (value : String) :
    ¬ Template.IsKeyed declared (Path.encode value) := by
  intro h
  rcases h with ⟨key, -, text, hsplits, -⟩
  have hmem : '=' ∈ (Path.encode value).toList := by
    rw [hsplits]
    simp
  exact Path.eq_not_mem_encode value hmem

end Token

namespace Template

/-- A fixed text of the template reads as a segment `key=value` with a declared key. -/
def Shadowed (tokens : List Token) : Prop :=
  ∃ text, Token.literal text ∈ tokens ∧ IsKeyed (keys tokens) text

/-- What the tokens that are not keyed add to a path. -/
def placed (values : Bindings) (tokens : List Token) : List String :=
  emitted values (tokens.filter fun token => !token.isKeyed)

/-- The tokens that add one segment each without a key. -/
def dealt (values : Bindings) (tokens : List Token) : List Token :=
  tokens.filter fun token => token.takesSegment || token.isGiven values

/-- How many optional parameters add a segment. -/
def given (values : Bindings) (tokens : List Token) : Nat :=
  tokens.countP (Token.isGiven values)

theorem placed_cons (values : Bindings) (token : Token) (rest : List Token) :
    placed values (token :: rest) =
      (if token.isKeyed then [] else token.pieces values) ++ placed values rest := by
  cases hkeyed : token.isKeyed <;> simp [placed, hkeyed]

theorem dealt_cons (values : Bindings) (token : Token) (rest : List Token) :
    dealt values (token :: rest) =
      if token.takesSegment || token.isGiven values then token :: dealt values rest
      else dealt values rest :=
  List.filter_cons

theorem filter_isWildcard_eq_nil {tokens : List Token}
    (hnone : ∀ name, Token.wildcard name ∉ tokens) :
    tokens.filter Token.isWildcard = [] := by
  apply List.filter_eq_nil_iff.2
  intro token htoken hwild
  cases token with
  | wildcard name => exact hnone name htoken
  | _ => exact Bool.noConfusion hwild

theorem keyed?_eq_none_iff {declared : List String} {segment : String} :
    keyed? declared segment = none ↔ ¬ IsKeyed declared segment := by
  rw [← isSome_keyed?_iff]
  simp

section
variable {tokens : List Token} {values : Bindings} (htokens : IsWellFormed tokens)
include htokens

/-! ## Segments of one token -/

/-- Unless a fixed text gets in the way, the matcher finds under a key what was written there. -/
theorem keyed?_of_mem_pieces (hclear : ¬ Shadowed tokens) {token : Token} (htoken : token ∈ tokens)
    {piece : String} (hpiece : piece ∈ token.pieces values) :
    keyed? (keys tokens) piece = token.entry values := by
  cases token with
  | literal text =>
    rw [List.mem_singleton.1 hpiece]
    exact keyed?_eq_none_iff.2 fun hkeyed => hclear ⟨text, htoken, hkeyed⟩
  | positional presence name =>
    rcases Token.mem_pieces_positional.1 hpiece with ⟨value, -, rfl⟩
    exact keyed?_eq_none_iff.2 (Token.not_isKeyed_encode _ value)
  | keyed presence name =>
    rcases Token.mem_pieces_keyed.1 hpiece with ⟨value, hvalue, rfl⟩
    have hkey : name ∈ keys tokens := mem_keys.2 ⟨presence, htoken⟩
    have hname : '=' ∉ name.toList := (htokens.formed _ htoken).not_mem rfl
    rw [keyed?_eq_some_iff.2 ⟨hkey, rfl, hname⟩]
    simp [Token.entry, hvalue]
  | wildcard name =>
    rcases List.mem_map.1 hpiece with ⟨value, -, rfl⟩
    exact keyed?_eq_none_iff.2 (Token.not_isKeyed_encode _ value)

theorem filterMap_keyed?_pieces (hclear : ¬ Shadowed tokens) {token : Token}
    (htoken : token ∈ tokens) :
    (token.pieces values).filterMap (keyed? (keys tokens)) = (token.entry values).toList := by
  rw [List.filterMap_congr fun piece hpiece => keyed?_of_mem_pieces htokens hclear htoken hpiece]
  cases token with
  | keyed presence name => cases hvalue : values[name]? <;> simp [Token.pieces, Token.entry, hvalue]
  | _ => simp [Token.entry]

theorem filter_not_isKeyed_pieces (hclear : ¬ Shadowed tokens) {token : Token}
    (htoken : token ∈ tokens) :
    ((token.pieces values).filter fun piece => ¬ IsKeyed (keys tokens) piece) =
      if token.isKeyed then [] else token.pieces values := by
  have hkeyed : ∀ piece ∈ token.pieces values,
      decide (¬ IsKeyed (keys tokens) piece) = (token.entry values).isNone := by
    intro piece hpiece
    rw [← keyed?_of_mem_pieces htokens hclear htoken hpiece, Bool.eq_iff_iff, decide_eq_true_eq,
      ← keyed?_eq_none_iff, Option.isNone_iff_eq_none]
  rw [List.filter_congr hkeyed]
  -- Only a keyed token writes an entry.
  cases token with
  | keyed presence name =>
    cases hvalue : values[name]? <;> simp [Token.pieces, Token.entry, Token.isKeyed, hvalue]
  | _ => simp [Token.entry, Token.isKeyed]

/-! ## Segments of all tokens -/

section
variable {path : String} (hrender : render tokens values = .ok path)
include hrender

theorem found_of_render (hclear : ¬ Shadowed tokens) :
    found tokens path = tokens.filterMap (Token.entry values) := by
  rw [found, segments_of_render htokens.formed hrender, emitted, List.filterMap_flatMap,
    List.filterMap_eq_flatMap_toList]
  exact List.flatMap_congr fun token htoken => filterMap_keyed?_pieces htokens hclear htoken

theorem others_of_render (hclear : ¬ Shadowed tokens) :
    others tokens path = placed values tokens := by
  rw [others, segments_of_render htokens.formed hrender, placed, emitted_filter, emitted,
    List.filter_flatMap]
  apply List.flatMap_congr
  intro token htoken
  rw [filter_not_isKeyed_pieces htokens hclear htoken]
  cases token.isKeyed <;> rfl

/-- A key is written once. -/
theorem nodup_found_of_render (hclear : ¬ Shadowed tokens) :
    ((found tokens path).map Prod.fst).Nodup := by
  have hkey : ∀ (token : Token) (entry : String × String),
      token.entry values = some entry → token.name = some entry.1 := by
    intro token entry hentry
    cases token with
    | keyed presence name =>
      rcases Option.map_eq_some_iff.1 hentry with ⟨value, -, rfl⟩
      rfl
    | _ => cases hentry
  rw [found_of_render htokens hrender hclear]
  exact htokens.nodup_fst_filterMap _ hkey

theorem keys_given_of_render (key : String) (hkey : Token.keyed .required key ∈ tokens) :
    ∃ segment ∈ Path.segments path, ∃ value, Path.Splits segment key value := by
  have hsupplied := (render_eq_ok_iff.1 hrender).1 _ hkey
  rcases Option.ne_none_iff_exists'.1 hsupplied with ⟨value, hvalue⟩
  have hname : '=' ∉ key.toList := (htokens.formed _ hkey).not_mem rfl
  refine ⟨key ++ "=" ++ Path.encode value, ?_, Path.encode value, rfl, hname⟩
  rw [segments_of_render htokens.formed hrender, emitted, List.mem_flatMap]
  exact ⟨_, hkey, by simp [Token.pieces, hvalue]⟩

end

/-! ## Counting -/

/-- The tokens that are dealt one segment each stand before the wildcard. -/
theorem placed_eq :
    placed values tokens = emitted values (dealt values tokens) ++
      emitted values (tokens.filter Token.isWildcard) := by
  induction tokens with
  | nil => rfl
  | cons token rest ih =>
    rw [placed_cons, ih htokens.tail, dealt_cons, List.filter_cons]
    cases token with
    | literal text => simp [Token.isKeyed, Token.takesSegment, Token.isWildcard]
    | positional presence name =>
      cases presence with
      | required => simp [Token.isKeyed, Token.takesSegment, Token.isWildcard]
      | optional =>
        -- Without a value it is not dealt a segment, and adds none.
        cases hvalue : values.filled? name <;>
          simp [Token.isKeyed, Token.takesSegment, Token.isGiven, Token.isWildcard, Token.pieces,
            hvalue]
    | keyed presence name =>
      simp [Token.isKeyed, Token.takesSegment, Token.isGiven, Token.isWildcard]
    | wildcard name =>
      -- The wildcard is the last token, so its segments are the last ones.
      rcases htokens.eq_nil_of_wildcard with rfl
      simp [Token.isKeyed, Token.takesSegment, Token.isGiven, Token.isWildcard, dealt, emitted]

end

theorem length_dealt (values : Bindings) (tokens : List Token) :
    (dealt values tokens).length = mandatory tokens + given values tokens := by
  unfold dealt mandatory given
  rw [← List.countP_eq_length_filter]
  induction tokens with
  | nil => rfl
  | cons token tokens ih =>
    by_cases htakes : token.takesSegment
    · have hgiven : token.isGiven values = false := by
        rw [Bool.eq_false_iff]
        intro hgiven
        have hmay := Token.mayTakeSegment_of_isGiven hgiven
        rw [not_mayTakeSegment_of_takesSegment htakes] at hmay
        exact Bool.noConfusion hmay
      simp [htakes, hgiven] at ih ⊢
      omega
    · simp [List.countP_cons, htakes] at ih ⊢
      omega

theorem given_le_optionals (values : Bindings) (tokens : List Token) :
    given values tokens ≤ optionals tokens :=
  List.countP_mono_left fun _ _ => Token.mayTakeSegment_of_isGiven

section
variable {tokens : List Token} {values : Bindings}
  (hone : ∀ token ∈ tokens, ∃ piece, token.pieces values = [piece])
include hone

theorem length_emitted_of_one : (emitted values tokens).length = tokens.length := by
  induction tokens with
  | nil => rfl
  | cons token rest ih =>
    rcases hone token List.mem_cons_self with ⟨piece, hpiece⟩
    rw [emitted_cons, hpiece, List.length_append, ih fun other hother =>
      hone other (List.mem_cons_of_mem _ hother)]
    simp [Nat.add_comm]

/-- Tokens that add one segment each stand across from what they add. -/
theorem mem_zip_emitted_iff (more : List String) {token : Token} {segment : String} :
    (token, segment) ∈ tokens.zip (emitted values tokens ++ more) ↔
      token ∈ tokens ∧ token.pieces values = [segment] := by
  induction tokens with
  | nil => simp
  | cons first rest ih =>
    rcases hone first List.mem_cons_self with ⟨piece, hpiece⟩
    have hrest := ih fun other hother => hone other (List.mem_cons_of_mem _ hother)
    rw [emitted_cons, hpiece, List.cons_append, List.cons_append, List.nil_append,
      List.zip_cons_cons, List.mem_cons, List.mem_cons, hrest, Prod.mk.injEq, or_and_right]
    refine or_congr (and_congr_right fun heq => ?_) Iff.rfl
    rw [heq, hpiece]
    simp [eq_comm]

end

section
variable {tokens : List Token} {values : Bindings}
  (hsupplied : ∀ token ∈ tokens, token.IsSupplied values)
include hsupplied

/-- The tokens that are dealt a segment add one segment each. -/
theorem exists_pieces_eq {token : Token} (htoken : token ∈ dealt values tokens) :
    ∃ piece, token.pieces values = [piece] := by
  rcases List.mem_filter.1 htoken with ⟨hmem, hdealt⟩
  have hvalue := hsupplied token hmem
  cases token with
  | literal text => exact ⟨text, rfl⟩
  | positional presence name =>
    cases hfilled : values.filled? name with
    | some value => exact ⟨Path.encode value, by simp [Token.pieces, hfilled]⟩
    | none =>
      cases presence with
      | required => exact absurd hfilled hvalue
      | optional => simp [Token.takesSegment, Token.isGiven, hfilled] at hdealt
  | keyed presence name => exact Bool.noConfusion hdealt
  | wildcard name => exact Bool.noConfusion hdealt

theorem length_emitted_dealt :
    (emitted values (dealt values tokens)).length = (dealt values tokens).length :=
  length_emitted_of_one fun _ => exists_pieces_eq hsupplied

end

/-! ## When a rendered path matches -/

section
variable {tokens : List Token} (htokens : IsWellFormed tokens)
include htokens

/-- A fixed text that reads as a keyed segment is never found in its place. -/
theorem not_shadowed_of_matches {path : String} (hmatch : Matches tokens path) :
    ¬ Shadowed tokens := by
  intro h
  rcases h with ⟨text, htext, hkeyed⟩
  have htaker : Token.literal text ∈ takers tokens (others tokens path).length :=
    List.mem_filter.2 ⟨htext, rfl⟩
  rcases exists_mem_zip_takers htokens hmatch.aligned.enough htaker with ⟨segment, hmem⟩
  have hother := (List.mem_filter.1 (List.of_mem_zip hmem).2).2
  rw [hmatch.aligned.fixed text segment hmem] at hother
  exact (of_decide_eq_true hother) hkeyed

theorem not_shadowed_of_bindings? {path : String} {args : Bindings}
    (hback : bindings? tokens path = some args) : ¬ Shadowed tokens :=
  not_shadowed_of_matches htokens (matches_of_bindings? htokens hback)

variable {values : Bindings} {path : String} (hrender : render tokens values = .ok path)
include hrender

theorem length_placed :
    (placed values tokens).length = mandatory tokens + given values tokens +
      (emitted values (tokens.filter Token.isWildcard)).length := by
  have hsupplied := (render_eq_ok_iff.1 hrender).1
  rw [placed_eq htokens, List.length_append, length_emitted_dealt hsupplied, length_dealt]

/-- A rendered path has as many segments as its template may take. -/
theorem length_placed_le :
    (∃ name, Token.wildcard name ∈ tokens) ∨
      (placed values tokens).length ≤ mandatory tokens + optionals tokens := by
  by_cases hwild : ∃ name, Token.wildcard name ∈ tokens
  · exact Or.inl hwild
  · right
    have hnone := filter_isWildcard_eq_nil fun name htoken => hwild ⟨name, htoken⟩
    have hgiven := given_le_optionals values tokens
    rw [length_placed htokens hrender, hnone]
    simpa [emitted] using hgiven

/-- Of all that a path must be like, only the fixed texts can fail a rendered path. -/
theorem matches_iff_of_render :
    Matches tokens path ↔ ¬ Shadowed tokens ∧
      Agree ((takers tokens (placed values tokens).length).zip (placed values tokens)) := by
  constructor
  · intro hmatch
    have hclear := not_shadowed_of_matches htokens hmatch
    have hfixed := hmatch.aligned.fixed
    rw [others_of_render htokens hrender hclear] at hfixed
    exact ⟨hclear, hfixed⟩
  · -- Keys, their values and the number of segments are as they should be in any rendered path.
    intro h
    rcases h with ⟨hclear, hfixed⟩
    have hlength := length_placed htokens hrender
    refine ⟨nodup_found_iff.1 (nodup_found_of_render htokens hrender hclear),
      keys_given_of_render htokens hrender, ?_⟩
    rw [others_of_render htokens hrender hclear]
    exact ⟨by omega, length_placed_le htokens hrender, hfixed⟩

end

end Template

namespace Rule

/-- A rule matches a path that it rendered exactly if no fixed text of its template reads as a keyed
segment, and every fixed text stands across from itself once the segments are counted off. -/
theorem isSome_bindings?_render_iff (r : Rule) (values : Bindings) (path : String)
    (hrender : r.render values = .ok path) :
    (r.bindings? path).isSome ↔ ¬ Template.Shadowed r.tokens ∧
      Template.Agree ((Template.takers r.tokens (Template.placed values r.tokens).length).zip
        (Template.placed values r.tokens)) := by
  have htokens := r.isWellFormed
  rw [bindings?, Template.isSome_bindings?_iff htokens,
    Template.matches_iff_of_render htokens (render_eq_ok_iff.1 hrender)]

/-- A fixed text between two optional parameters. -/
def divided : Rule :=
  ⟨⟨"/:a?/x/:b?", "show"⟩, [.positional .optional "a", .literal "x", .positional .optional "b"],
    by decide +kernel⟩

/-- A fixed text that reads as a value of the keyed parameter. -/
def swallowed : Rule :=
  ⟨⟨"/a=b/a:?", "show"⟩, [.literal "a=b", .keyed .optional "a"], by decide +kernel⟩

theorem isSome_bindings?_render_divided :
    divided.render (.ofPairs [("a", "y")]) = .ok "/y/x" ∧
      ((divided.bindings? "/y/x").isSome ↔ ¬ Template.Shadowed divided.tokens ∧
        Template.Agree ((Template.takers divided.tokens
            (Template.placed (.ofPairs [("a", "y")]) divided.tokens).length).zip
          (Template.placed (.ofPairs [("a", "y")]) divided.tokens))) :=
  have hrender : divided.render (.ofPairs [("a", "y")]) = .ok "/y/x" := by decide +kernel
  ⟨hrender, isSome_bindings?_render_iff _ _ _ hrender⟩

/-- An optional parameter takes the segment of the fixed text after it, and a keyed one takes the
fixed text itself: neither path matches the rule that rendered it. -/
theorem bindings?_render_eq_none :
    (divided.render (.ofPairs [("b", "y")]) = .ok "/x/y" ∧ divided.bindings? "/x/y" = none) ∧
      (swallowed.render (.ofPairs [("a", "1")]) = .ok "/a=b/a=1" ∧
        swallowed.bindings? "/a=b/a=1" = none) := by
  refine ⟨⟨?_, ?_⟩, ?_, ?_⟩ <;> decide +kernel

end Rule

end Routing
