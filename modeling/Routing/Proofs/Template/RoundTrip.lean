import Routing.Proofs.Lists
import Routing.Proofs.Template.Rendered

namespace Routing

/-! # Values there and back

Which values a path gives back exactly. Optional parameters are given back if they are given from
the left, because the matcher gives the segments to the first of them. Main statement:
`Rule.bindings?_render_eq_some_iff`.
-/

namespace Template

/-- Values that lose nothing when they are rendered and matched. -/
structure IsRecoverable (tokens : List Token) (values : Bindings) : Prop where
  /-- Every value is that of a parameter. -/
  known : ∀ name value : String, values[name]? = some value → name ∈ names tokens
  filled : ∀ name, Token.positional .optional name ∈ tokens → values[name]? ≠ some ""
  /-- A wildcard has a value, and all pieces of the value between slashes can be segments. -/
  whole : ∀ name, Token.wildcard name ∈ tokens → ∃ value,
    values[name.getD Token.anonymous]? = some value ∧ (value = "" ∨ [] ∉ value.toList.splitOn '/')
  /-- No optional positional parameter is given after one that is not. -/
  leftmost : tokens.Pairwise fun before after => ∀ name later,
    before = .positional .optional name → after = .positional .optional later →
      values[name]? = none → values[later]? = none
  /-- A wildcard takes nothing while an optional positional parameter is not given. -/
  last : ∀ name rest, Token.positional .optional name ∈ tokens → Token.wildcard rest ∈ tokens →
    values[name]? = none → values.getD (rest.getD Token.anonymous) "" = ""

/-! ## What is found of each parameter -/

section
variable {tokens : List Token} (htokens : IsWellFormed tokens)
include htokens

theorem filter_isWildcard {name : Option String} (htoken : Token.wildcard name ∈ tokens) :
    tokens.filter Token.isWildcard = [.wildcard name] := by
  induction tokens with
  | nil => cases htoken
  | cons token rest ih =>
    rcases List.mem_cons.1 htoken with rfl | hmem
    · rcases htokens.eq_nil_of_wildcard with rfl
      rfl
    · have hhead := (List.pairwise_cons.1 htokens.wildcard_last).1 _ hmem
      rw [List.filter_cons_of_neg (by simp [hhead]), ih htokens.tail hmem]

variable {values : Bindings} {path : String} (hrender : render tokens values = .ok path)
include hrender

/-- What is left for a wildcard are the segments of its value. -/
theorem drop_placed {name : Option String} (htoken : Token.wildcard name ∈ tokens) :
    ((placed values tokens).drop (dealt values tokens).length).map Path.decode =
      Path.segments (values.getD (name.getD Token.anonymous) "") := by
  have hsupplied := (render_eq_ok_iff.1 hrender).1
  rw [placed_eq htokens, List.drop_left' (length_emitted_dealt hsupplied),
    filter_isWildcard htokens htoken]
  simp only [emitted, Token.pieces, List.flatMap_cons, List.flatMap_nil, List.append_nil]
  exact Path.map_decode_map_encode _

/-- Positional parameters stand across from their values. -/
theorem mem_zip_dealt_iff {presence : Presence} {name segment : String} :
    (Token.positional presence name, segment) ∈ (dealt values tokens).zip (placed values tokens) ↔
      Token.positional presence name ∈ tokens ∧
        ∃ value, values.filled? name = some value ∧ Path.encode value = segment := by
  have hsupplied := (render_eq_ok_iff.1 hrender).1
  rw [placed_eq htokens, mem_zip_emitted_iff (fun _ => exists_pieces_eq hsupplied)]
  cases hvalue : values.filled? name with
  | none => simp [Token.pieces, hvalue]
  | some value =>
    have hdealt : Token.positional presence name ∈ dealt values tokens ↔
        Token.positional presence name ∈ tokens := by
      unfold dealt
      rw [List.mem_filter, and_iff_left_iff_imp]
      intro _
      cases presence <;> simp [Token.takesSegment, Token.isGiven, hvalue]
    simp [Token.pieces, hvalue, hdealt]

/-- A keyed parameter is found under its key with the value that was written. -/
theorem splits_of_render_iff (hclear : ¬ Shadowed tokens) {presence : Presence} {name text : String}
    (htoken : Token.keyed presence name ∈ tokens) :
    (∃ segment ∈ Path.segments path, Path.Splits segment name text) ↔
      ∃ value, values[name]? = some value ∧ text = Path.encode value := by
  have hkey : name ∈ keys tokens := mem_keys.2 ⟨presence, htoken⟩
  have hfound : (∃ segment ∈ Path.segments path, Path.Splits segment name text) ↔
      (name, text) ∈ found tokens path := by
    simp only [found, List.mem_filterMap, keyed?_eq_some_iff, hkey, true_and]
  rw [hfound, found_of_render htokens hrender hclear, List.mem_filterMap]
  constructor
  · intro h
    rcases h with ⟨token, hmem, hentry⟩
    cases token with
    | keyed _ key =>
      rcases Option.map_eq_some_iff.1 hentry with ⟨value, hvalue, heq⟩
      cases heq
      exact ⟨value, hvalue, rfl⟩
    | _ => cases hentry
  · intro h
    rcases h with ⟨value, hvalue, rfl⟩
    exact ⟨_, htoken, by simp [Token.entry, hvalue]⟩

end

/-! ## The parameters that take a segment are those that were given one -/

/-- An optional parameter adds a segment if it has a value, which must not be empty. -/
theorem isGiven_iff {values : Bindings} {name : String} (hfilled : values[name]? ≠ some "") :
    (Token.positional .optional name).isGiven values = true ↔ values[name]? ≠ none := by
  unfold Token.isGiven
  rw [← Option.isSome_iff_ne_none, Option.isSome_iff_exists, Option.isSome_iff_exists]
  apply exists_congr
  intro value
  rw [Bindings.filled?_eq_some_iff, and_iff_left_iff_imp]
  rintro hvalue rfl
  exact hfilled hvalue

section
variable {tokens : List Token} {values : Bindings} (hvalues : IsRecoverable tokens values)
include hvalues

theorem IsRecoverable.pairwise_given :
    (tokens.filter Token.mayTakeSegment).Pairwise fun one other =>
      other.isGiven values = true → one.isGiven values = true := by
  rw [List.pairwise_filter]
  apply hvalues.leftmost.imp_of_mem
  intro one other hone hother hleft hmay hmay'
  rcases Token.eq_optional_of_mayTakeSegment hmay with ⟨name, rfl⟩
  rcases Token.eq_optional_of_mayTakeSegment hmay' with ⟨later, rfl⟩
  rw [isGiven_iff (hvalues.filled name hone), isGiven_iff (hvalues.filled later hother)]
  exact mt (hleft name later rfl rfl)

/-- Either all optional parameters are given, or there is nothing left for a wildcard. -/
theorem IsRecoverable.given_eq_or :
    given values tokens = optionals tokens ∨
      emitted values (tokens.filter Token.isWildcard) = [] := by
  -- Either all optional parameters are given, or one is not, and then the wildcard has nothing.
  by_cases hall : ∀ name, Token.positional .optional name ∈ tokens → values[name]? ≠ none
  · left
    apply List.countP_congr
    intro token htoken
    constructor
    · exact Token.mayTakeSegment_of_isGiven
    · intro hmay
      rcases Token.eq_optional_of_mayTakeSegment hmay with ⟨name, rfl⟩
      exact (isGiven_iff (hvalues.filled name htoken)).2 (hall name htoken)
  · right
    push Not at hall
    rcases hall with ⟨name, hname, hnone⟩
    apply List.flatMap_eq_nil_iff.2
    intro token htoken
    rcases List.mem_filter.1 htoken with ⟨hmem, hwild⟩
    cases token with
    | wildcard rest =>
      rw [Token.pieces, hvalues.last name rest hname hmem hnone, Path.segments_empty]
      rfl
    | _ => exact Bool.noConfusion hwild

/-- Given from the left, the optional parameters that have a value are those that take a segment. -/
theorem takers_eq_dealt (htokens : IsWellFormed tokens) {path : String}
    (hrender : render tokens values = .ok path) :
    takers tokens (placed values tokens).length = dealt values tokens := by
  have hspare : spare tokens (placed values tokens).length = given values tokens := by
    have hlength := length_placed htokens hrender
    have hle := given_le_optionals values tokens
    unfold spare
    rcases hvalues.given_eq_or with hall | hnone
    · omega
    · rw [hnone, List.length_nil] at hlength
      omega
  -- The given ones stand first among the optional parameters, so they are a prefix of them.
  have hfirst := filter_eq_take_countP hvalues.pairwise_given
  have hcount : (tokens.filter Token.mayTakeSegment).countP (Token.isGiven values) =
      given values tokens := by
    exact countP_filter_of_imp fun _ _ => Token.mayTakeSegment_of_isGiven
  rw [hcount] at hfirst
  unfold takers standing dealt
  rw [hspare, ← hfirst]
  apply List.filter_congr
  intro token htoken
  have hmay : token.isGiven values = true ∧ token.mayTakeSegment = true ↔
      token.isGiven values = true := and_iff_left_of_imp Token.mayTakeSegment_of_isGiven
  rw [Bool.eq_iff_iff]
  simp [htoken, hmay]

/-- A rendered path gives recoverable values back. -/
theorem matches_of_isRecoverable (htokens : IsWellFormed tokens) (hclear : ¬ Shadowed tokens)
    {path : String} (hrender : render tokens values = .ok path) : Matches tokens path := by
  have hsupplied := (render_eq_ok_iff.1 hrender).1
  refine (matches_iff_of_render htokens hrender).2 ⟨hclear, ?_⟩
  rw [takers_eq_dealt hvalues htokens hrender, placed_eq htokens]
  intro text segment hmem
  have hpieces := ((mem_zip_emitted_iff (fun _ => exists_pieces_eq hsupplied) _).1 hmem).2
  exact (List.singleton_inj.1 hpieces).symm

end

/-! ## Exactly the values that were rendered -/

/-- A keyed parameter is bound to the value that was written under its key. -/
theorem binds_keyed_iff_of_render {tokens : List Token} {values : Bindings}
    (htokens : IsWellFormed tokens) (hclear : ¬ Shadowed tokens) {path : String}
    (hrender : render tokens values = .ok path) {presence : Presence} {name value : String}
    (htoken : Token.keyed presence name ∈ tokens) :
    Binds tokens path name value ↔ values[name]? = some value := by
  rw [binds_keyed_iff htokens htoken]
  constructor
  · intro h
    rcases h with ⟨segment, hsegment, text, hsplits, rfl⟩
    rcases (splits_of_render_iff htokens hrender hclear htoken).1 ⟨segment, hsegment, hsplits⟩ with
      ⟨given, hgiven, rfl⟩
    rw [Path.decode_encode, hgiven]
  · intro hvalue
    rcases (splits_of_render_iff htokens hrender hclear htoken).2 ⟨value, hvalue, rfl⟩ with
      ⟨segment, hsegment, hsplits⟩
    exact ⟨segment, hsegment, _, hsplits, Path.decode_encode value⟩

/-- What a rendered path binds if its values are recoverable. -/
theorem binds_iff_of_isRecoverable {tokens : List Token} {values : Bindings}
    (hvalues : IsRecoverable tokens values) (htokens : IsWellFormed tokens)
    (hclear : ¬ Shadowed tokens) {path : String} (hrender : render tokens values = .ok path)
    {name value : String} : Binds tokens path name value ↔ values[name]? = some value := by
  by_cases hname : name ∈ names tokens
  swap
  · exact ⟨fun hbinds => absurd hbinds.mem_names hname,
      fun hvalue => absurd (hvalues.known name value hvalue) hname⟩
  -- The name belongs to one token, whose kind says where its value stands in the path.
  rcases mem_names.1 hname with ⟨token, htoken, hkey⟩
  have hsupplied := (render_eq_ok_iff.1 hrender).1 token htoken
  have hothers := others_of_render htokens hrender hclear
  have htakers := takers_eq_dealt hvalues htokens hrender
  cases token with
  | literal text => cases hkey
  | positional presence name =>
    cases hkey
    rw [binds_positional_iff htokens htoken, hothers, htakers]
    simp only [mem_zip_dealt_iff htokens hrender, htoken, true_and]
    have hfilled : values[name]? = some value ↔ values.filled? name = some value := by
      rw [Bindings.filled?_eq_some_iff, iff_self_and]
      rintro hvalue rfl
      cases presence with
      | required => exact hsupplied (by simp [Bindings.filled?, hvalue])
      | optional => exact hvalues.filled name htoken hvalue
    rw [hfilled]
    constructor
    · intro h
      rcases h with ⟨_, ⟨given, hgiven, rfl⟩, rfl⟩
      rw [Path.decode_encode, hgiven]
    · intro hvalue
      exact ⟨_, ⟨value, hvalue, rfl⟩, Path.decode_encode value⟩
  | keyed presence name =>
    cases hkey
    exact binds_keyed_iff_of_render htokens hclear hrender htoken
  | wildcard rest =>
    cases hkey
    rcases hvalues.whole rest htoken with ⟨given, hgiven, hwhole⟩
    have hvalue : values.getD (rest.getD Token.anonymous) "" = given := by
      rw [Std.ExtTreeMap.getD_eq_getD_getElem?, hgiven]
      rfl
    rw [binds_wildcard_iff htokens htoken, hothers, htakers, drop_placed htokens hrender htoken,
      hvalue, Path.intercalate_segments_eq_iff.2 hwhole, hgiven, Option.some.injEq]

/-- Recoverable values come back from the path that they render. -/
theorem bindings?_of_isRecoverable {tokens : List Token} (htokens : IsWellFormed tokens)
    {values : Bindings} (hvalues : IsRecoverable tokens values) (hclear : ¬ Shadowed tokens)
    {path : String} (hrender : render tokens values = .ok path) :
    bindings? tokens path = some values := by
  have hmatch := matches_of_isRecoverable hvalues htokens hclear hrender
  refine (bindings?_eq_some_iff_binds htokens).2 ⟨hmatch, fun name value => ?_⟩
  exact (binds_iff_of_isRecoverable hvalues htokens hclear hrender).symm

/-! ## Values that were matched -/

section
variable {tokens : List Token} {args : Bindings} {path : String} (htokens : IsWellFormed tokens)
  (hback : bindings? tokens path = some args)
include htokens hback

/-- A segment never gives an empty value. -/
theorem ne_empty_of_bindings? {presence : Presence} {name : String}
    (hname : Token.positional presence name ∈ tokens) : args[name]? ≠ some "" := by
  intro hvalue
  have hbinds := (getElem?_eq_some_iff_binds htokens hback).1 hvalue
  rcases (binds_positional_iff htokens hname).1 hbinds with ⟨segment, hplaced, hempty⟩
  have hsegment := (List.mem_filter.1 (List.of_mem_zip hplaced).2).1
  exact Path.decode_ne_empty (Path.isSegment_of_mem_segments hsegment).1 hempty

/-- What a segment gives to a parameter is a value that can be written. -/
theorem filled?_of_mem_zip_takers {presence : Presence} {name segment : String}
    (hplaced : (Token.positional presence name, segment) ∈
      (takers tokens (others tokens path).length).zip (others tokens path)) :
    args.filled? name = some (Path.decode segment) := by
  have hmem := (mem_takers (List.of_mem_zip hplaced).1).1
  have hvalue := (getElem?_eq_some_iff_binds htokens hback).2 (.positional hplaced)
  refine Bindings.filled?_eq_some_iff.2 ⟨hvalue, fun hempty => ?_⟩
  rw [hempty] at hvalue
  exact ne_empty_of_bindings? htokens hback hmem hvalue

/-- The tokens that take a segment are those that would be dealt one for the values found. -/
theorem takers_eq_dealt_of_bindings? :
    takers tokens (others tokens path).length = dealt args tokens := by
  have hmatch := matches_of_bindings? htokens hback
  have hoptional : ∀ name, Token.positional .optional name ∈ tokens →
      (Token.positional .optional name ∈ takers tokens (others tokens path).length ↔
        (Token.positional .optional name).isGiven args = true) := by
    intro name htoken
    rw [isGiven_iff (ne_empty_of_bindings? htokens hback htoken), Option.ne_none_iff_exists']
    simp only [getElem?_eq_some_iff_binds htokens hback, binds_positional_iff htokens htoken]
    constructor
    · intro htaker
      rcases exists_mem_zip_takers htokens hmatch.aligned.enough htaker with ⟨segment, hplaced⟩
      exact ⟨_, segment, hplaced, rfl⟩
    · intro h
      rcases h with ⟨value, segment, hplaced, -⟩
      exact (List.of_mem_zip hplaced).1
  -- Both sides keep every mandatory token, and no token that takes no segment.
  unfold takers standing dealt at *
  apply List.filter_congr
  intro token htoken
  rw [Bool.eq_iff_iff]
  by_cases hmay : token.mayTakeSegment
  · rcases Token.eq_optional_of_mayTakeSegment hmay with ⟨name, rfl⟩
    simpa [htoken, Token.takesSegment] using hoptional name htoken
  · have hnot : token ∉ (tokens.filter Token.mayTakeSegment).take
        (spare tokens (others tokens path).length) :=
      fun hmem => hmay (List.mem_filter.1 (List.mem_of_mem_take hmem)).2
    simpa [hnot] using fun hgiven => absurd (Token.mayTakeSegment_of_isGiven hgiven) hmay

theorem spare_eq_given_of_bindings? :
    spare tokens (others tokens path).length = given args tokens := by
  have hmatch := matches_of_bindings? htokens hback
  have hcount := length_takers htokens hmatch.aligned.enough
  rw [takers_eq_dealt_of_bindings? htokens hback, length_dealt] at hcount
  omega

theorem isGiven_iff_mem_take {token : Token} (htoken : token ∈ tokens.filter Token.mayTakeSegment) :
    token.isGiven args = true ↔
      token ∈ (tokens.filter Token.mayTakeSegment).take (given args tokens) := by
  rcases List.mem_filter.1 htoken with ⟨hmem, hmay⟩
  have hdealt : token ∈ takers tokens (others tokens path).length ↔ token ∈ dealt args tokens := by
    rw [takers_eq_dealt_of_bindings? htokens hback]
  unfold takers standing dealt at hdealt
  rw [spare_eq_given_of_bindings? htokens hback, List.mem_filter, List.mem_filter] at hdealt
  have htakes := not_takesSegment_of_mayTakeSegment hmay
  simpa [hmem, htakes] using hdealt.symm

/-- The optional parameters that have a value stand first. -/
theorem leftmost_of_bindings? : tokens.Pairwise fun before after => ∀ name later,
    before = .positional .optional name → after = .positional .optional later →
      args[name]? = none → args[later]? = none := by
  have hleft := pairwise_of_mem_take htokens.nodup_filter_mayTakeSegment fun token htoken =>
    isGiven_iff_mem_take htokens hback htoken
  rw [List.pairwise_filter] at hleft
  apply hleft.imp_of_mem
  rintro _ _ hone hother hgiven name later rfl rfl hnone
  have hgiven := hgiven rfl rfl
  rw [isGiven_iff (ne_empty_of_bindings? htokens hback hone),
    isGiven_iff (ne_empty_of_bindings? htokens hback hother)] at hgiven
  by_contra hlater
  exact hgiven hlater hnone

/-- The value of a wildcard is the join of what the segments left for it stand for. -/
theorem getElem?_wildcard_of_bindings? {name : Option String}
    (htoken : Token.wildcard name ∈ tokens) :
    args[name.getD Token.anonymous]? = some ("/".intercalate
      (((others tokens path).drop (dealt args tokens).length).map Path.decode)) := by
  rw [getElem?_eq_some_iff_binds htokens hback, binds_wildcard_iff htokens htoken,
    takers_eq_dealt_of_bindings? htokens hback]

/-- If an optional parameter is not given, no segment is left for a wildcard. -/
theorem drop_others_eq_nil {name : String} (hname : Token.positional .optional name ∈ tokens)
    (hnone : args[name]? = none) : (others tokens path).drop (dealt args tokens).length = [] := by
  have hoptional : Token.positional .optional name ∈ tokens.filter Token.mayTakeSegment :=
    List.mem_filter.2 ⟨hname, rfl⟩
  have hgiven : ¬ (Token.positional .optional name).isGiven args = true := by
    rw [isGiven_iff (ne_empty_of_bindings? htokens hback hname)]
    exact not_not_intro hnone
  rw [isGiven_iff_mem_take htokens hback hoptional] at hgiven
  -- If all were given, this one would be among them.
  have hless : given args tokens < optionals tokens := by
    by_contra hall
    apply hgiven
    unfold optionals at hall
    rw [List.countP_eq_length_filter] at hall
    rw [List.take_of_length_le (by omega)]
    exact hoptional
  have hspare := spare_eq_given_of_bindings? htokens hback
  have hlength := length_dealt args tokens
  unfold spare at hspare
  rw [List.drop_eq_nil_iff]
  omega

theorem getD_wildcard_eq_empty {name : String} {rest : Option String}
    (hname : Token.positional .optional name ∈ tokens) (hrest : Token.wildcard rest ∈ tokens)
    (hnone : args[name]? = none) : args.getD (rest.getD Token.anonymous) "" = "" := by
  rw [Std.ExtTreeMap.getD_eq_getD_getElem?, getElem?_wildcard_of_bindings? htokens hback hrest,
    drop_others_eq_nil htokens hback hname hnone]
  rfl

end

/-! ## Values that come back -/

section
variable {tokens : List Token} {values : Bindings} {path : String} (htokens : IsWellFormed tokens)
  (hrender : render tokens values = .ok path) (hback : bindings? tokens path = some values)
include htokens hrender hback

/-- The value of a wildcard is the join of its own segments. -/
theorem wildcard_of_bindings? {name : Option String} (htoken : Token.wildcard name ∈ tokens) :
    ∃ value, values[name.getD Token.anonymous]? = some value ∧
      "/".intercalate (Path.segments value) = value := by
  have hclear := not_shadowed_of_bindings? htokens hback
  have hvalue := getElem?_wildcard_of_bindings? htokens hback htoken
  rw [others_of_render htokens hrender hclear, drop_placed htokens hrender htoken] at hvalue
  have hsame : values.getD (name.getD Token.anonymous) "" =
      "/".intercalate (Path.segments (values.getD (name.getD Token.anonymous) "")) := by
    conv_lhs => rw [Std.ExtTreeMap.getD_eq_getD_getElem?, hvalue, Option.getD_some]
  exact ⟨_, hvalue.trans (congrArg some hsame.symm), hsame.symm⟩

/-- Values that come back are recoverable. -/
theorem isRecoverable_of_bindings? : IsRecoverable tokens values := by
  constructor
  · intro name value hvalue
    exact ((getElem?_eq_some_iff_binds htokens hback).1 hvalue).mem_names
  · exact fun name => ne_empty_of_bindings? htokens hback
  · intro name htoken
    rcases wildcard_of_bindings? htokens hrender hback htoken with ⟨value, hvalue, hjoin⟩
    exact ⟨value, hvalue, Path.intercalate_segments_eq_iff.1 hjoin⟩
  · exact leftmost_of_bindings? htokens hback
  · exact fun name rest => getD_wildcard_eq_empty htokens hback

end

end Template

/-- The values for a rule come back from their path exactly if they are recoverable, and no fixed
text of the template reads as a keyed segment. -/
theorem Rule.bindings?_render_eq_some_iff (r : Rule) (values : Bindings) (path : String)
    (hrender : r.render values = .ok path) :
    r.bindings? path = some values ↔
      ¬ Template.Shadowed r.tokens ∧ Template.IsRecoverable r.tokens values := by
  have htokens := r.isWellFormed
  have hrender := render_eq_ok_iff.1 hrender
  constructor
  · intro hback
    exact ⟨Template.not_shadowed_of_bindings? htokens hback,
      Template.isRecoverable_of_bindings? htokens hrender hback⟩
  · intro h
    rcases h with ⟨hclear, hvalues⟩
    exact Template.bindings?_of_isRecoverable htokens hvalues hclear hrender

theorem Rule.bindings?_render_eq_some_iff_of_every_kind :
    let r : Rule := ⟨⟨"/files/:user/page:?/:dir?/*", "show"⟩, [.literal "files",
      .positional .required "user", .keyed .optional "page", .positional .optional "dir",
      .wildcard none], by decide +kernel⟩
    let values : Bindings := .ofPairs [("user", "a b"), ("page", "2"), ("dir", "x"), ("*", "y/z")]
    r.render values = .ok "/files/a%20b/page=2/x/y/z" ∧
      (r.bindings? "/files/a%20b/page=2/x/y/z" = some values ↔
        ¬ Template.Shadowed r.tokens ∧ Template.IsRecoverable r.tokens values) :=
  have hrender := by decide +kernel
  ⟨hrender, bindings?_render_eq_some_iff _ _ _ hrender⟩

end Routing
