import Mathlib.Data.List.Basic
import Routing.Proofs.Template.WellFormed

namespace Routing

/-! # Written forms of tokens

A token that can stand in a template is read back from its written form, and what a segment is read
as has this segment for its written form. So no segment has two readings and no token two written
forms, and a template is told by its segments. Main statements: `Token.read?_eq_some_iff`, for one
segment, and `Template.spelling`.
-/

namespace Token

/-! ## From segments to tokens -/

theorem text_of_readPositional? {after : List Char} {token : Token}
    (h : readPositional? after = some token) : token.text.toList = ':' :: after := by
  unfold readPositional? at h
  split at h
  · rename_i hlast
    rcases Option.map_eq_some_iff.1 h with ⟨name, hname, rfl⟩
    have hchars := (readName?_eq_some_iff.1 hname).1
    have hback := List.dropLast_append_getLast? '?' hlast
    simp [text, hchars, hback]
  · rcases Option.map_eq_some_iff.1 h with ⟨name, hname, rfl⟩
    have hchars := (readName?_eq_some_iff.1 hname).1
    simp [text, hchars]

/-- A token that is read from the name before a colon is written as the whole segment, if it writes
after the name what stands there. -/
theorem text_of_map_readName? {segment : String} {before after : List Char} {token : Token}
    {make : String → Token} (hcut : Text.cut? ':' segment.toList = some (before, after))
    (h : (readName? before).map make = some token)
    (hmake : ∀ name, (make name).text.toList = name.toList ++ ':' :: after) :
    token.text = segment := by
  rcases Option.map_eq_some_iff.1 h with ⟨name, hname, rfl⟩
  have hchars := (readName?_eq_some_iff.1 hname).1
  rw [← String.toList_inj, hmake, hchars, (Text.cut?_eq_some_iff.1 hcut).1]

/-- What a segment is read as is written as this segment. -/
theorem text_of_read? {segment : String} {token : Token} (h : read? segment = some token) :
    token.text = segment := by
  unfold read? at h
  split at h
  · rename_i hstar
    cases h
    exact hstar.symm
  · split at h
    · cases h
      rfl
    · rename_i after hcut
      rw [← String.toList_inj, text_of_readPositional? h, (Text.cut?_eq_some_iff.1 hcut).1,
        List.nil_append]
    · rename_i hcut
      exact text_of_map_readName? hcut h fun name => by simp [text]
    · rename_i hcut
      exact text_of_map_readName? hcut h fun name => by simp [text]
    · rename_i hcut
      exact text_of_map_readName? hcut h fun name => by simp [text]
    · cases h

/-! ## From tokens to segments -/

theorem IsName.toList_ne_nil {name : String} (hname : IsName name) : name.toList ≠ [] := by
  simpa using hname.1

theorem readName?_toList {name : String} (hname : IsName name) :
    readName? name.toList = some name :=
  readName?_eq_some_iff.2 ⟨rfl, hname.toList_ne_nil, hname.2⟩

/-- A segment with a colon is cut at the first one. -/
theorem cut?_of_colon {segment : String} {before after : List Char}
    (hsegment : segment.toList = before ++ ':' :: after) (hfree : ':' ∉ before) :
    segment ≠ "*" ∧ Text.cut? ':' segment.toList = some (before, after) := by
  refine ⟨?_, Text.cut?_eq_some_iff.2 ⟨hsegment, hfree⟩⟩
  rintro rfl
  have hmem : ':' ∈ "*".toList := by
    rw [hsegment]
    exact List.mem_append_right before List.mem_cons_self
  exact absurd hmem (by decide)

theorem read?_of_colon_first {segment : String} (after : List Char)
    (hsegment : segment.toList = [] ++ ':' :: after) : read? segment = readPositional? after := by
  rcases cut?_of_colon hsegment List.not_mem_nil with ⟨hstar, hcut⟩
  rw [read?, if_neg hstar, hcut]

/-- The parameter of a name, by the mark after its colon. -/
def marked? (name : String) : List Char → Option Token
  | [] => some (keyed .required name)
  | ['?'] => some (keyed .optional name)
  | ['*'] => some (wildcard (some name))
  | _ => none

theorem read?_of_name_first {segment name : String} (hname : IsName name) (after : List Char)
    (hsegment : segment.toList = name.toList ++ ':' :: after) :
    read? segment = marked? name after := by
  rcases cut?_of_colon hsegment (hname.not_mem rfl) with ⟨hstar, hcut⟩
  have hread := readName?_toList hname
  rw [read?, if_neg hstar, hcut]
  -- The name is not empty, so this is no positional parameter.
  obtain ⟨c, cs, hchars⟩ := List.exists_cons_of_ne_nil hname.toList_ne_nil
  rw [hchars] at hread ⊢
  fun_cases marked? name after <;> simp_all

/-- A name does not end in the mark of an optional parameter. -/
theorem readPositional?_toList {name : String} (hname : IsName name) :
    readPositional? name.toList = some (positional .required name) := by
  have hlast : name.toList.getLast? ≠ some '?' := by
    intro hmark
    exact hname.not_mem rfl (List.mem_of_getLast? hmark)
  rw [readPositional?, if_neg hlast, readName?_toList hname, Option.map_some]

theorem readPositional?_toList_mark {name : String} (hname : IsName name) :
    readPositional? (name.toList ++ ['?']) = some (positional .optional name) := by
  rw [readPositional?, if_pos List.getLast?_concat, List.dropLast_concat, readName?_toList hname,
    Option.map_some]

/-- A token is read back from its written form. -/
theorem read?_text {token : Token} (htoken : token.IsFormed) : read? token.text = some token := by
  cases token with
  | literal text =>
    rcases htoken with ⟨-, hcolon, hstar⟩
    have hstar' : text ≠ "*" := hstar
    have hcut := Text.cut?_eq_none_iff.2 hcolon
    simp only [Token.text, read?, if_neg hstar', hcut]
  | positional presence name =>
    cases presence with
    | required =>
      rw [read?_of_colon_first name.toList (by simp [text])]
      exact readPositional?_toList htoken
    | optional =>
      rw [read?_of_colon_first (name.toList ++ ['?']) (by simp [text])]
      exact readPositional?_toList_mark htoken
  | keyed presence name =>
    cases presence with
    | required => exact read?_of_name_first htoken [] (by simp [text])
    | optional => exact read?_of_name_first htoken ['?'] (by simp [text])
  | wildcard name =>
    cases name with
    | none => rfl
    | some name => exact read?_of_name_first htoken ['*'] (by simp [text])

/-- A segment is read as the token whose written form it is, and as no other. -/
theorem read?_eq_some_iff {segment : String} (hsegment : Path.IsSegment segment) {token : Token} :
    read? segment = some token ↔ token.IsFormed ∧ token.text = segment := by
  constructor
  · intro h
    exact ⟨isFormed_of_read? hsegment h, text_of_read? h⟩
  · intro h
    rcases h with ⟨hformed, rfl⟩
    exact read?_text hformed

end Token

/-! ## Whole templates -/

namespace Template

/-- The template that tokens are written as. -/
def text (tokens : List Token) : String := "/" ++ "/".intercalate (tokens.map Token.text)

theorem map_text_of_map_read? {segments : List String} {tokens : List Token}
    (h : segments.map Token.read? = tokens.map some) : tokens.map Token.text = segments := by
  induction segments generalizing tokens with
  | nil =>
    have hnil : tokens = [] := by simpa using h.symm
    rw [hnil, List.map_nil]
  | cons segment segments ih =>
    cases tokens with
    | nil => simp at h
    | cons token tokens =>
      rw [List.map_cons, List.map_cons, List.cons.injEq] at h
      rw [List.map_cons, Token.text_of_read? h.1, ih h.2]

/-- The segments of a template are the written forms of its tokens. -/
theorem map_text_of_read {segments : List String} {tokens : List Token}
    (h : read segments = .ok tokens) : tokens.map Token.text = segments :=
  map_text_of_map_read? (read_eq_ok_iff.1 h).read

theorem segments_text_of_read {route : String} {tokens : List Token}
    (h : read (Path.segments route) = .ok tokens) :
    Path.segments (text tokens) = Path.segments route := by
  have hsegments : ∀ segment ∈ Path.segments route, Path.IsSegment segment :=
    fun _ => Path.isSegment_of_mem_segments
  rw [text, map_text_of_read h, Path.segments_slash_intercalate hsegments]

/-- A segment is read as the token that is written like it, and every token is read back from its
written form, so two segments that are read alike are one. A template that is written anew from its
tokens has the same tokens, and two templates have the same tokens exactly if they have the same
segments. -/
theorem spelling :
    (∀ segment token, Path.IsSegment segment → Token.read? segment = some token →
      token.IsFormed ∧ token.text = segment) ∧
    (∀ token : Token, token.IsFormed → Token.read? token.text = some token) ∧
    (∀ one other token, Token.read? one = some token → Token.read? other = some token →
      one = other) ∧
    (∀ route tokens, read (Path.segments route) = .ok tokens →
      read (Path.segments (text tokens)) = .ok tokens) ∧
    ∀ one other tokens tokens', read (Path.segments one) = .ok tokens →
      read (Path.segments other) = .ok tokens' →
        (tokens = tokens' ↔ Path.segments one = Path.segments other) := by
  refine ⟨?_, ?_, ?_, ?_, ?_⟩
  · intro segment token hsegment hread
    exact (Token.read?_eq_some_iff hsegment).1 hread
  · intro token htoken
    exact Token.read?_text htoken
  · intro one other token hone hother
    rw [← Token.text_of_read? hone, Token.text_of_read? hother]
  · intro route tokens hread
    rw [segments_text_of_read hread, hread]
  · intro one other tokens tokens' hone hother
    constructor
    · rintro rfl
      rw [← map_text_of_read hone, map_text_of_read hother]
    · intro hsame
      rw [hsame, hother] at hone
      cases hone
      rfl

/-- Marks in the wrong places are fixed texts or no tokens at all, and slashes say nothing. -/
theorem spelling_of_overlapping_marks :
    let tokens : List Token := [.positional .optional "a", .literal "?", .keyed .optional "b",
      .wildcard (some "r")]
    Path.IsSegment "b:?" ∧ Token.read? "b:?" = some (.keyed .optional "b") ∧
      (Token.keyed .optional "b").IsFormed ∧
      Token.read? ":a??" = none ∧ Token.read? ":?:" = none ∧ Token.read? "*:" = none ∧
      read (Path.segments "//:a?/?/b:?//r:*/") = .ok tokens ∧
      text tokens = "/:a?/?/b:?/r:*" ∧ read (Path.segments (text tokens)) = .ok tokens ∧
      Path.segments "//:a?/?/b:?//r:*/" = Path.segments (text tokens) := by
  intro tokens
  rcases spelling with ⟨hformed, -, -, hagain, hsame⟩
  have hsegment : Path.IsSegment "b:?" := ⟨by decide, by decide⟩
  have hread : Token.read? "b:?" = some (.keyed .optional "b") := by decide
  have htokens : read (Path.segments "//:a?/?/b:?//r:*/") = .ok tokens := by decide +kernel
  have hwritten := hagain _ _ htokens
  exact ⟨hsegment, hread, (hformed _ _ hsegment hread).1, by decide, by decide, by decide, htokens,
    by decide +kernel, hwritten, (hsame _ _ _ _ htokens hwritten).1 rfl⟩

end Template

end Routing
