import Routing.Proofs.Lists
import Routing.Proofs.Template.FixedPoint

namespace Routing

/-! # Segments written again

In a rendered path, an optional parameter may find the segment of a later one, or that of a fixed
text. Still every segment that a parameter finds is one that some value is written as, so it comes
out the same when it is written again. Main statement: `Template.placed_of_bindings?`.
-/

namespace Path

/-- The segment is how the value that it stands for is written. -/
def isEncoded (segment : String) : Bool := encode (decode segment) == segment

theorem isEncoded_iff {segment : String} :
    isEncoded segment = true ↔ encode (decode segment) = segment := by
  rw [isEncoded, beq_iff_eq]

theorem isEncoded_encode (value : String) : isEncoded (encode value) = true := by
  rw [isEncoded_iff, decode_encode]

end Path

/-- A fixed text that no value is written as. -/
def Token.isUnencoded : Token → Bool
  | .literal text => !Path.isEncoded text
  | _ => false

theorem Token.takesSegment_of_isUnencoded {token : Token} (h : token.isUnencoded = true) :
    token.takesSegment = true := by
  cases token with
  | literal text => rfl
  | _ => exact Bool.noConfusion h

namespace Template

/-! ## Counting what is not encoded -/

/-- The only segments of a path that no value is written as are fixed texts. -/
theorem countP_placed (values : Bindings) (tokens : List Token) :
    (placed values tokens).countP (!Path.isEncoded ·) =
      tokens.countP Token.isUnencoded := by
  induction tokens with
  | nil => rfl
  | cons token rest ih =>
    -- Values are written encoded, so only a fixed text can count.
    have hhead : (if token.isKeyed then [] else token.pieces values).countP
          (!Path.isEncoded ·) =
        if token.isUnencoded then 1 else 0 := by
      cases token with
      | literal text => simp [Token.isKeyed, Token.pieces, Token.isUnencoded, List.countP_cons]
      | positional presence name =>
        cases hvalue : values.filled? name <;>
          simp [Token.isKeyed, Token.pieces, Token.isUnencoded, hvalue, Path.isEncoded_encode]
      | keyed presence name => simp [Token.isKeyed, Token.isUnencoded]
      | wildcard name =>
        have hnone : ∀ piece ∈ (Token.wildcard name).pieces values,
            Path.isEncoded piece = true := by
          intro piece hpiece
          rcases List.mem_map.1 hpiece with ⟨value, -, rfl⟩
          exact Path.isEncoded_encode value
        simpa [Token.isKeyed, Token.isUnencoded, List.countP_eq_zero] using hnone
    rw [placed_cons, List.countP_append, List.countP_cons, hhead, ih]
    omega

/-- Every fixed text takes a segment, so none is missing among the tokens that do. -/
theorem countP_takers (tokens : List Token) (n : Nat) :
    (takers tokens n).countP Token.isUnencoded = tokens.countP Token.isUnencoded := by
  unfold takers standing
  apply countP_filter_of_imp
  intro token _ h
  rw [Token.takesSegment_of_isUnencoded h, Bool.true_or]

/-! ## Tokens and the segments across from them -/

section
variable {taken : List Token} {segments : List String} (hlength : taken.length ≤ segments.length)
include hlength

/-- Fixed texts are across from themselves. If they are as many as the segments that no value is
written as, then these are all taken, and a parameter is across from another segment. -/
theorem isEncoded_of_mem_zip (hagree : Agree (taken.zip segments))
    (hcount : segments.countP (!Path.isEncoded ·) ≤ taken.countP Token.isUnencoded)
    {token : Token} {segment : String} (hmem : (token, segment) ∈ taken.zip segments)
    (htoken : token.isLiteral = false) : Path.isEncoded segment = true := by
  have himp : ∀ pair ∈ taken.zip segments, pair.1.isUnencoded = true →
      (!Path.isEncoded pair.2) = true := by
    rintro ⟨taker, found⟩ hpair htaker
    cases taker with
    | literal text =>
      have hsame := hagree text found hpair
      subst hsame
      exact htaker
    | _ => exact Bool.noConfusion htaker
  have hback := of_mem_zip_of_countP_le (p := Token.isUnencoded) (q := (!Path.isEncoded ·)) hlength
    himp hcount (token, segment) hmem
  by_contra hnot
  have hunencoded := hback (by simpa using hnot)
  cases token with
  | literal text => exact Bool.noConfusion htoken
  | _ => exact Bool.noConfusion hunencoded

/-- Tokens that add just the segments across from them add those segments. -/
theorem emitted_eq_take {values : Bindings}
    (hpieces : ∀ pair ∈ taken.zip segments, pair.1.pieces values = [pair.2]) :
    emitted values taken = segments.take taken.length := by
  conv_lhs => rw [← List.map_fst_zip hlength]
  rw [emitted, List.flatMap_map, List.flatMap_congr hpieces, ← map_snd_zip_eq_take hlength,
    List.map_eq_flatMap]

end

/-! ## Segments of a rendered path -/

section
variable {tokens : List Token} {values args : Bindings} {path : String}
  (htokens : IsWellFormed tokens) (hrender : render tokens values = .ok path)
  (hback : bindings? tokens path = some args)
include htokens hrender hback

theorem others_of_bindings? : others tokens path = placed values tokens :=
  others_of_render htokens hrender (not_shadowed_of_bindings? htokens hback)

/-- The tokens that take a segment are as many as those that were dealt one, or more. -/
theorem length_dealt_le :
    (dealt values tokens).length ≤ (dealt args tokens).length ∧
      (dealt args tokens).length ≤ (placed values tokens).length := by
  have hspare := spare_eq_given_of_bindings? htokens hback
  have hlength := length_placed htokens hrender
  have hgiven := given_le_optionals values tokens
  rw [others_of_bindings? htokens hrender hback, spare] at hspare
  rw [length_dealt, length_dealt]
  omega

/-- What takes a segment is written again as that segment. -/
theorem emitted_dealt_of_bindings? : emitted args (dealt args tokens) =
    (placed values tokens).take (dealt args tokens).length := by
  have hothers := others_of_bindings? htokens hrender hback
  have htakers := takers_eq_dealt_of_bindings? htokens hback
  have hlength := (length_dealt_le htokens hrender hback).2
  have hagree := (matches_of_bindings? htokens hback).aligned.fixed
  rw [htakers, hothers] at hagree
  -- Fixed texts use up all segments that no value is written as, so parameters have the others.
  have hcount : (dealt args tokens).countP Token.isUnencoded = tokens.countP Token.isUnencoded := by
    rw [← htakers, countP_takers]
  apply emitted_eq_take hlength
  rintro ⟨token, segment⟩ hmem
  have hencoded := isEncoded_of_mem_zip hlength hagree
    (Nat.le_of_eq ((countP_placed values tokens).trans hcount.symm)) hmem
  have hdealt := (List.mem_filter.1 (List.of_mem_zip hmem).1).2
  cases token with
  | literal text => exact congrArg (fun found => [found]) (hagree text segment hmem).symm
  | positional presence name =>
    have hfilled := filled?_of_mem_zip_takers htokens hback (by rw [htakers, hothers]; exact hmem)
    simpa [Token.pieces, hfilled] using Path.isEncoded_iff.1 (hencoded rfl)
  | keyed presence name => exact Bool.noConfusion hdealt
  | wildcard name => exact Bool.noConfusion hdealt

/-- A wildcard finds segments of its own only, and writes them again. -/
theorem emitted_wildcard_of_bindings? : emitted args (tokens.filter Token.isWildcard) =
    (placed values tokens).drop (dealt args tokens).length := by
  have hothers := others_of_bindings? htokens hrender hback
  rcases length_dealt_le htokens hrender hback with ⟨hle, hlength⟩
  by_cases hwild : ∃ name, Token.wildcard name ∈ tokens
  · rcases hwild with ⟨name, htoken⟩
    have hsupplied := (render_eq_ok_iff.1 hrender).1
    -- What is left over is the end of what the wildcard wrote.
    obtain ⟨rest, hrest, hsegments⟩ : ∃ rest : List String,
        (placed values tokens).drop (dealt args tokens).length = rest.map Path.encode ∧
          ∀ piece ∈ rest, Path.IsSegment piece := by
      refine ⟨(Path.segments (values.getD (name.getD Token.anonymous) "")).drop
        ((dealt args tokens).length - (dealt values tokens).length), ?_, ?_⟩
      · rw [placed_eq htokens, List.drop_append, filter_isWildcard htokens htoken,
          length_emitted_dealt hsupplied, List.drop_eq_nil_of_le]
        · simp [emitted, Token.pieces, List.map_drop]
        · rw [length_emitted_dealt hsupplied]
          exact hle
      · intro piece hpiece
        exact Path.isSegment_of_mem_segments (List.mem_of_mem_drop hpiece)
    have hvalue := getElem?_wildcard_of_bindings? htokens hback htoken
    rw [hothers, hrest, Path.map_decode_map_encode] at hvalue
    rw [filter_isWildcard htokens htoken, hrest]
    simp [emitted, Token.pieces, Std.ExtTreeMap.getD_eq_getD_getElem?, hvalue,
      Path.segments_intercalate hsegments]
  · -- Without a wildcard, no segment is left over.
    have hnone := filter_isWildcard_eq_nil fun name htoken => hwild ⟨name, htoken⟩
    have hfew := (matches_of_bindings? htokens hback).aligned.few.resolve_left hwild
    have hspare := spare_eq_given_of_bindings? htokens hback
    have hdealt := length_dealt args tokens
    rw [hothers] at hfew hspare
    rw [hnone, List.drop_eq_nil_of_le]
    · rfl
    · unfold spare at hspare
      omega

/-- The segments without a key come back in their order, whatever tokens find them. -/
theorem placed_of_bindings? : placed args tokens = placed values tokens := by
  rw [placed_eq htokens, emitted_dealt_of_bindings? htokens hrender hback,
    emitted_wildcard_of_bindings? htokens hrender hback, List.take_append_drop]

end

end Template

end Routing
