import Routing.Proofs.Path.Codec
import Routing.Proofs.Template.WellFormed

namespace Routing

/-! # What rendering writes

A rendered path is the segments of its tokens, each after a slash, and at most one slash more.
Main statements: `Template.render_eq_ok_iff`, when a template renders and to what;
`Template.segments_of_render`, the segments that are found in the path.
-/

namespace Token

/-- A required parameter has a value that can be written. -/
def IsSupplied (values : Bindings) : Token → Prop
  | .positional .required name => values.filled? name ≠ none
  | .keyed .required name => values[name]? ≠ none
  | _ => True

/-- The segments that a token adds to a path. -/
def pieces (values : Bindings) : Token → List String
  | .literal text => [text]
  | .positional _ name => ((values.filled? name).map Path.encode).toList
  | .keyed _ name => (values[name]?.map fun value => name ++ "=" ++ Path.encode value).toList
  | .wildcard name => (Path.segments (values.getD (name.getD anonymous) "")).map Path.encode

theorem mem_pieces_positional {values : Bindings} {presence : Presence} {name piece : String} :
    piece ∈ (Token.positional presence name).pieces values ↔
      ∃ value, values.filled? name = some value ∧ Path.encode value = piece := by
  simp [pieces]

theorem mem_pieces_keyed {values : Bindings} {presence : Presence} {name piece : String} :
    piece ∈ (Token.keyed presence name).pieces values ↔
      ∃ value, values[name]? = some value ∧ name ++ "=" ++ Path.encode value = piece := by
  simp [pieces]

/-- A keyed parameter adds one segment at most. -/
theorem exists_pieces_of_isKeyed {token : Token} (h : token.isKeyed = true)
    (values : Bindings) : ∃ written : Option String, token.pieces values = written.toList := by
  cases token with
  | keyed presence name => exact ⟨_, rfl⟩
  | _ => exact Bool.noConfusion h

theorem isSegment_of_mem_pieces {values : Bindings} {token : Token} (htoken : token.IsFormed)
    {piece : String} (hpiece : piece ∈ token.pieces values) : Path.IsSegment piece := by
  cases token with
  | literal text =>
    rw [List.mem_singleton.1 hpiece]
    exact htoken.1
  | positional presence name =>
    rcases mem_pieces_positional.1 hpiece with ⟨value, hvalue, rfl⟩
    exact Path.isSegment_encode (Bindings.filled?_eq_some_iff.1 hvalue).2
  | keyed presence name =>
    rcases mem_pieces_keyed.1 hpiece with ⟨value, -, rfl⟩
    constructor
    · intro hempty
      have hnil := congrArg String.toList hempty
      simp at hnil
    · have hname := htoken.not_mem (c := '/') rfl
      simp [hname, Path.slash_not_mem_encode]
  | wildcard name => exact Path.isSegment_of_mem_map_encode hpiece

end Token

namespace Template

/-- What the tokens of a template add to a path, segment by segment. -/
def emitted (values : Bindings) (tokens : List Token) : List String :=
  tokens.flatMap (Token.pieces values)

@[simp]
theorem emitted_cons (values : Bindings) (token : Token) (tokens : List Token) :
    emitted values (token :: tokens) = token.pieces values ++ emitted values tokens := rfl

@[simp]
theorem emitted_append (values : Bindings) (before after : List Token) :
    emitted values (before ++ after) = emitted values before ++ emitted values after := by
  simp [emitted]

theorem emitted_filter (values : Bindings) (keep : Token → Bool) (tokens : List Token) :
    emitted values (tokens.filter keep) =
      tokens.flatMap fun token => if keep token then token.pieces values else [] := by
  induction tokens with
  | nil => rfl
  | cons token tokens ih => cases hkeep : keep token <;> simp [hkeep, ih]

/-- The pieces of a wildcard, if there are any, stand after one slash. -/
theorem written_encodePieces (value : String) :
    (if Path.encodePieces value = "" then "" else "/" ++ Path.encodePieces value) =
      Path.written ((Path.segments value).map Path.encode) := by
  by_cases hnone : (Path.segments value).map Path.encode = []
  · simp [Path.encodePieces, hnone]
  · -- Encoded pieces are segments, so their join cannot vanish.
    have hne : Path.encodePieces value ≠ "" := by
      intro hempty
      have hback := Path.segments_encodePieces value
      rw [hempty, Path.segments_empty] at hback
      exact hnone hback.symm
    rw [if_neg hne, Path.written_eq_slash_intercalate hnone, Path.encodePieces]

theorem emit_eq_ok_iff {values : Bindings} {token : Token} {text : String} :
    emit values token = .ok text ↔
      token.IsSupplied values ∧ text = Path.written (token.pieces values) := by
  cases token with
  | literal fixed => simp [emit, Token.IsSupplied, Token.pieces, eq_comm]
  | positional presence name =>
    cases hvalue : values.filled? name with
    | some value => cases presence <;> simp [emit, Token.IsSupplied, Token.pieces, hvalue, eq_comm]
    | none =>
      cases presence <;> simp [emit, leaveOut, Token.IsSupplied, Token.pieces, hvalue, eq_comm]
  | keyed presence name =>
    cases hvalue : values[name]? with
    | some value =>
      cases presence <;>
        simp [emit, Token.IsSupplied, Token.pieces, hvalue, eq_comm, String.append_assoc]
    | none =>
      cases presence <;> simp [emit, leaveOut, Token.IsSupplied, Token.pieces, hvalue, eq_comm]
  | wildcard name =>
    have hemit : emit values (.wildcard name) =
        .ok (Path.written ((Token.wildcard name).pieces values)) :=
      congrArg Except.ok (written_encodePieces _)
    rw [hemit, Except.ok.injEq]
    exact ⟨fun h => ⟨trivial, h.symm⟩, fun h => h.2.symm⟩

theorem emitAll_cons (values : Bindings) (token : Token) (tokens : List Token) :
    emitAll values (token :: tokens) = do
      return (← emit values token) ++ (← emitAll values tokens) := by
  simp only [emitAll, List.mapM_cons, bind, Except.bind, pure, Except.pure]
  cases emit values token with
  | error name => rfl
  | ok text => cases List.mapM (emit values) tokens <;> simp

theorem emitAll_eq_ok_iff {values : Bindings} {tokens : List Token} {text : String} :
    emitAll values tokens = .ok text ↔
      (∀ token ∈ tokens, token.IsSupplied values) ∧
        text = Path.written (emitted values tokens) := by
  induction tokens generalizing text with
  | nil => simp [emitAll, emitted, pure, Except.pure, bind, Except.bind, eq_comm]
  | cons token tokens ih =>
    rw [emitAll_cons, List.forall_mem_cons, emitted_cons, Path.written_append]
    constructor
    · intro h
      cases hhead : emit values token with
      | error name => simp [hhead, bind, Except.bind] at h
      | ok first =>
        cases htail : emitAll values tokens with
        | error name => simp [hhead, htail, bind, Except.bind] at h
        | ok rest =>
          rcases emit_eq_ok_iff.1 hhead with ⟨hfirst, rfl⟩
          rcases ih.1 htail with ⟨hrest, rfl⟩
          simp [hhead, htail, bind, Except.bind, pure, Except.pure] at h
          exact ⟨⟨hfirst, hrest⟩, h.symm⟩
    · intro hcase
      rcases hcase with ⟨⟨hfirst, hrest⟩, rfl⟩
      rw [emit_eq_ok_iff.2 ⟨hfirst, rfl⟩, ih.2 ⟨hrest, rfl⟩]
      rfl

/-- Whether a slash is put at the end can be told from the texts or from their segments. -/
theorem finish_written (lead body : List String) (rest : List Token) :
    (if Path.written body = "" ∧ (rest ≠ [] ∨ Path.written lead = "") then Path.written lead ++ "/"
      else Path.written lead ++ Path.written body) =
      Path.written (lead ++ body) ++
        if body = [] ∧ (rest ≠ [] ∨ lead ++ body = []) then "/" else "" := by
  by_cases hbody : body = []
  · subst hbody
    by_cases hlead : lead = [] <;> by_cases hnone : rest = [] <;>
      simp [Path.written_eq_empty_iff, hlead, hnone]
  · simp [Path.written_eq_empty_iff, hbody]

/-- A template renders exactly if every required parameter has a value. The path is what the tokens
add, with a slash at the end if nothing stands after the leading fixed texts although there are
other tokens, or if nothing stands at all. -/
theorem render_eq_ok_iff {values : Bindings} {tokens : List Token} {path : String} :
    render tokens values = .ok path ↔
      (∀ token ∈ tokens, token.IsSupplied values) ∧
        path = Path.written (emitted values tokens) ++
          if emitted values (tokens.dropWhile Token.isLiteral) = [] ∧
            (tokens.dropWhile Token.isLiteral ≠ [] ∨ emitted values tokens = [])
          then "/" else "" := by
  have hsplit := tokens.takeWhile_append_dropWhile (p := Token.isLiteral)
  rw [render]
  -- Only that the two parts make up the template matters from here on.
  generalize tokens.takeWhile Token.isLiteral = fixed at hsplit ⊢
  generalize tokens.dropWhile Token.isLiteral = rest at hsplit ⊢
  rw [← hsplit, emitted_append]
  constructor
  · intro h
    cases hlead : emitAll values fixed with
    | error name => simp [hlead, bind, Except.bind] at h
    | ok lead =>
      cases hbody : emitAll values rest with
      | error name => simp [hlead, hbody, bind, Except.bind] at h
      | ok body =>
        rcases emitAll_eq_ok_iff.1 hlead with ⟨hfirst, rfl⟩
        rcases emitAll_eq_ok_iff.1 hbody with ⟨hsecond, rfl⟩
        simp only [hlead, hbody, bind, Except.bind, pure, Except.pure, Except.ok.injEq] at h
        exact ⟨List.forall_mem_append.2 ⟨hfirst, hsecond⟩, by rw [← h, finish_written]⟩
  · intro hcase
    rcases hcase with ⟨hsupplied, rfl⟩
    rw [List.forall_mem_append] at hsupplied
    rw [emitAll_eq_ok_iff.2 ⟨hsupplied.1, rfl⟩, emitAll_eq_ok_iff.2 ⟨hsupplied.2, rfl⟩,
      ← finish_written]
    rfl

theorem isSegment_of_mem_emitted {values : Bindings} {tokens : List Token}
    (htokens : ∀ token ∈ tokens, token.IsFormed) {piece : String}
    (hpiece : piece ∈ emitted values tokens) : Path.IsSegment piece := by
  rcases List.mem_flatMap.1 hpiece with ⟨token, htoken, hmem⟩
  exact Token.isSegment_of_mem_pieces (htokens token htoken) hmem

/-- The segments of a rendered path are what the tokens add. -/
theorem segments_of_render {values : Bindings} {tokens : List Token} {path : String}
    (htokens : ∀ token ∈ tokens, token.IsFormed) (h : render tokens values = .ok path) :
    Path.segments path = emitted values tokens := by
  have hemitted : ∀ piece ∈ emitted values tokens, Path.IsSegment piece :=
    fun _ => isSegment_of_mem_emitted htokens
  rcases render_eq_ok_iff.1 h with ⟨-, rfl⟩
  split
  · rw [Path.segments_concat_slash, Path.segments_written hemitted]
  · rw [String.append_empty, Path.segments_written hemitted]

end Template

theorem Rule.render_eq_ok_iff {r : Rule} {values : Bindings} {path : String} :
    r.render values = .ok path ↔ Template.render r.tokens values = .ok path := by
  unfold render
  cases Template.render r.tokens values <;> simp [Except.mapError]

end Routing
