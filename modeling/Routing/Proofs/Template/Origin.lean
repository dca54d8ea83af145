import Routing.Proofs.Template.Rerender

namespace Routing

/-! # Where keys come from

Whatever the values are, a segment `key=value` of a rendered path was written under that key, or is
a fixed text. No other template can read one in the value of a positional parameter or of a
wildcard, and no value reaches the key of another. Main statement: `Rule.keyed_segments_of_render`.
-/

/-- The tokens that may write a segment `key=text`: a parameter with this key and the value that the
text stands for, and a fixed text with a `=` in it. -/
inductive Token.WritesUnder (values : Bindings) (key text : String) : Token → Prop
  | keyed {presence : Presence} {value : String} (bound : values[key]? = some value)
      (encoded : text = Path.encode value) : WritesUnder values key text (.keyed presence key)
  | literal {fixed : String} (splits : Path.Splits fixed key text) :
      WritesUnder values key text (.literal fixed)

/-- A token has a segment `key=text` in a path if and only if it may write one. -/
theorem Token.writesUnder_iff {values : Bindings} {token : Token} (htoken : token.IsFormed)
    {key text : String} :
    token.WritesUnder values key text ↔
      ∃ segment ∈ token.pieces values, Path.Splits segment key text := by
  constructor
  · intro hwrites
    cases hwrites with
    | keyed hbound hencoded =>
      have hname : '=' ∉ key.toList := htoken.not_mem rfl
      refine ⟨key ++ "=" ++ text, ?_, rfl, hname⟩
      simp [Token.pieces, hbound, hencoded]
    | literal hsplits => exact ⟨_, List.mem_singleton_self _, hsplits⟩
  · intro hsegment
    rcases hsegment with ⟨segment, hmem, hsplits⟩
    -- A segment of a value holds no `=`, whatever the value is.
    have hnot : ∀ value, segment ≠ Path.encode value := by
      rintro value rfl
      exact Token.not_isKeyed_encode [key] value ⟨key, by simp, text, hsplits⟩
    cases token with
    | literal fixed =>
      rw [List.mem_singleton.1 hmem] at hsplits
      exact .literal hsplits
    | positional presence name =>
      rcases Token.mem_pieces_positional.1 hmem with ⟨value, -, hvalue⟩
      exact absurd hvalue.symm (hnot value)
    | keyed presence name =>
      rcases Token.mem_pieces_keyed.1 hmem with ⟨value, hbound, rfl⟩
      -- The name holds no `=` either, so the segment is cut right after it.
      have hname : '=' ∉ name.toList := htoken.not_mem rfl
      rcases hsplits.unique ⟨rfl, hname⟩ with ⟨rfl, htext⟩
      exact .keyed hbound htext
    | wildcard name =>
      rcases List.mem_map.1 hmem with ⟨value, -, hvalue⟩
      exact absurd hvalue.symm (hnot value)

/-- No value forges or alters what a path has under a key. A rule that matches its own path finds
under each of its keys the value given for it, and nothing if there was none. The segments of the
path are those that the tokens add, one token after the other, and in none of them does any rule
find a key that the token did not write there. -/
theorem Rule.keyed_segments_of_render (r : Rule) (values : Bindings) (path : String)
    (hrender : r.render values = .ok path) :
    (∀ args, r.bindings? path = some args →
      ∀ presence name, Token.keyed presence name ∈ r.tokens → args[name]? = values[name]?) ∧
    Path.segments path = r.tokens.flatMap (Token.pieces values) ∧
    (∀ token ∈ r.tokens,
      Template.emit values token = .ok (Path.written (token.pieces values))) ∧
    ∀ other : Rule, ∀ token ∈ r.tokens, ∀ segment ∈ token.pieces values, ∀ key text,
      Template.keyed? (Template.keys other.tokens) segment = some (key, text) →
        token.WritesUnder values key text := by
  have htokens := r.isWellFormed
  have hrender := render_eq_ok_iff.1 hrender
  refine ⟨?_, Template.segments_of_render htokens.formed hrender, ?_, ?_⟩
  · intro args hback presence name htoken
    exact Template.getElem?_keyed_of_bindings? htokens hrender hback htoken
  · intro token htoken
    have hsupplied := (Template.render_eq_ok_iff.1 hrender).1 token htoken
    exact Template.emit_eq_ok_iff.2 ⟨hsupplied, rfl⟩
  · intro other token htoken segment hsegment key text hkeyed
    have hsplits := (Template.keyed?_eq_some_iff.1 hkeyed).2
    exact (Token.writesUnder_iff (htokens.formed token htoken)).2 ⟨segment, hsegment, hsplits⟩

/-- Values that read like other segments, under a rule with a token of every kind. The values move
from one parameter to the next, but none of them gets under a key. -/
theorem Rule.keyed_segments_of_render_shifted :
    ∃ (r : Rule) (values args : Bindings) (path : String),
      r.toDeclaration = ⟨"/b=c/:a?/:id?/page:?/sort:/rest:*", "show"⟩ ∧
      values = .ofPairs [("id", "page=9"), ("sort", "a/b=%20é"), ("rest", "x/page=7/b=8")] ∧
      args = .ofPairs [("a", "page=9"), ("id", "x"), ("sort", "a/b=%20é"),
        ("rest", "page=7/b=8")] ∧
      path = "/b=c/page%3D9/sort=a%2Fb%3D%2520%C3%A9/x/page%3D7/b%3D8" ∧
      r.render values = .ok path ∧ r.bindings? path = some args ∧
      (∀ presence name, Token.keyed presence name ∈ r.tokens → args[name]? = values[name]?) ∧
      ∀ other : Rule, ∀ token ∈ r.tokens, ∀ segment ∈ token.pieces values, ∀ key text,
        Template.keyed? (Template.keys other.tokens) segment = some (key, text) →
          token.WritesUnder values key text := by
  let r : Rule := ⟨⟨"/b=c/:a?/:id?/page:?/sort:/rest:*", "show"⟩, [.literal "b=c",
    .positional .optional "a", .positional .optional "id", .keyed .optional "page",
    .keyed .required "sort", .wildcard (some "rest")], by decide +kernel⟩
  let values : Bindings := .ofPairs [("id", "page=9"), ("sort", "a/b=%20é"),
    ("rest", "x/page=7/b=8")]
  let args : Bindings := .ofPairs [("a", "page=9"), ("id", "x"), ("sort", "a/b=%20é"),
    ("rest", "page=7/b=8")]
  let path := "/b=c/page%3D9/sort=a%2Fb%3D%2520%C3%A9/x/page%3D7/b%3D8"
  have hrender : r.render values = .ok path := by decide +kernel
  have hback : r.bindings? path = some args := by decide +kernel
  rcases r.keyed_segments_of_render values path hrender with ⟨hkeyed, -, -, horigin⟩
  exact ⟨r, values, args, path, rfl, rfl, rfl, rfl, hrender, hback, hkeyed args hback, horigin⟩

end Routing
