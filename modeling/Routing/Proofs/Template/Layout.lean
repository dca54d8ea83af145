import Mathlib.Data.List.TakeWhile
import Routing.Proofs.Template.Emission

namespace Routing

/-! # How a rendered path is laid out

A template renders unless a required value is missing, and then the first one that is missing is
named. The path is the join of what the tokens add, between slashes that depend on these segments
and on the fixed texts that the template begins with. Main statement: `Rule.render_layout`.
-/

namespace Template

/-! ## The first missing value -/

theorem emit_eq_error_iff {values : Bindings} {token : Token} {name : String} :
    emit values token = .error name ↔ ¬ token.IsSupplied values ∧ token.name = some name := by
  cases token with
  | literal text => simp [emit, Token.IsSupplied]
  | positional presence key =>
    cases hvalue : values.filled? key <;> cases presence <;>
      simp [emit, leaveOut, Token.IsSupplied, Token.name, hvalue]
  | keyed presence key =>
    cases hvalue : values[key]? <;> cases presence <;>
      simp [emit, leaveOut, Token.IsSupplied, Token.name, hvalue]
  | wildcard key => simp [emit, Token.IsSupplied]

/-- The name of the first token, in the order of the template, that lacks a value that it needs. -/
def Lacks (values : Bindings) (tokens : List Token) (name : String) : Prop :=
  ∃ before token after, tokens = before ++ token :: after ∧
    (∀ other ∈ before, other.IsSupplied values) ∧
    ¬ token.IsSupplied values ∧ token.name = some name

section
variable {values : Bindings} {name : String}

theorem lacks_cons_iff {token : Token} {rest : List Token} :
    Lacks values (token :: rest) name ↔
      (¬ token.IsSupplied values ∧ token.name = some name) ∨
        (token.IsSupplied values ∧ Lacks values rest name) := by
  constructor
  · intro h
    rcases h with ⟨before, first, after, heq, hbefore, hfirst⟩
    cases before with
    | nil =>
      cases heq
      exact Or.inl hfirst
    | cons other before =>
      cases heq
      rw [List.forall_mem_cons] at hbefore
      exact Or.inr ⟨hbefore.1, before, first, after, rfl, hbefore.2, hfirst⟩
  · intro h
    rcases h with hfirst | ⟨hsupplied, before, first, after, rfl, hbefore, hfirst⟩
    · exact ⟨[], token, rest, rfl, by simp, hfirst⟩
    · have hall := List.forall_mem_cons.2 ⟨hsupplied, hbefore⟩
      exact ⟨token :: before, first, after, rfl, hall, hfirst⟩

/-- Tokens that lack nothing may stand before the first that does. -/
theorem lacks_append_iff {before rest : List Token}
    (hbefore : ∀ token ∈ before, token.IsSupplied values) :
    Lacks values (before ++ rest) name ↔ Lacks values rest name := by
  induction before with
  | nil => rfl
  | cons token before ih =>
    rw [List.forall_mem_cons] at hbefore
    rw [List.cons_append, lacks_cons_iff, ih hbefore.2]
    simp [hbefore.1]

theorem emitAll_eq_error_iff {tokens : List Token} :
    emitAll values tokens = .error name ↔ Lacks values tokens name := by
  induction tokens with
  | nil => simp [emitAll, Lacks, pure, Except.pure, bind, Except.bind]
  | cons token rest ih =>
    rw [emitAll_cons, lacks_cons_iff, ← ih, ← emit_eq_error_iff]
    cases hhead : emit values token with
    | error missing =>
      have hnot : ¬ token.IsSupplied values := (emit_eq_error_iff.1 hhead).1
      simp [hnot, bind, Except.bind]
    | ok text =>
      have hsupplied := (emit_eq_ok_iff.1 hhead).1
      cases emitAll values rest <;> simp [hsupplied, bind, Except.bind, pure, Except.pure]

theorem isSupplied_of_mem_takeWhile {tokens : List Token} {token : Token}
    (h : token ∈ tokens.takeWhile Token.isLiteral) : token.IsSupplied values := by
  have hliteral := List.mem_takeWhile_imp h
  cases token with
  | literal text => trivial
  | _ => exact Bool.noConfusion hliteral

theorem render_eq_error_iff {tokens : List Token} :
    render tokens values = .error name ↔ Lacks values tokens name := by
  have hfixed : ∀ token ∈ tokens.takeWhile Token.isLiteral, token.IsSupplied values :=
    fun _ => isSupplied_of_mem_takeWhile
  -- The fixed texts are always written, so what is missing is missing after them.
  have hlead := emitAll_eq_ok_iff.2 ⟨hfixed, rfl⟩
  have hlacks : Lacks values (tokens.takeWhile Token.isLiteral ++ tokens.dropWhile Token.isLiteral)
      name ↔ Lacks values (tokens.dropWhile Token.isLiteral) name := lacks_append_iff hfixed
  rw [List.takeWhile_append_dropWhile] at hlacks
  rw [hlacks, ← emitAll_eq_error_iff, render, hlead]
  cases emitAll values (tokens.dropWhile Token.isLiteral) <;>
    simp [bind, Except.bind, pure, Except.pure]

end

/-! ## The slashes -/

/-- The fixed texts that a template begins with. -/
def leading (tokens : List Token) : List String := (tokens.takeWhile Token.isLiteral).map Token.text

/-- The path of the segments that the tokens add: between slashes, with a slash at the end if they
are just the leading fixed texts of a template that has parameters. -/
def layout (tokens : List Token) (pieces : List String) : String :=
  if pieces = [] then "/"
  else if pieces = leading tokens ∧ ∃ token ∈ tokens, token.isLiteral = false then
    "/" ++ "/".intercalate pieces ++ "/"
  else "/" ++ "/".intercalate pieces

theorem emitted_takeWhile (values : Bindings) (tokens : List Token) :
    emitted values (tokens.takeWhile Token.isLiteral) = leading tokens := by
  induction tokens with
  | nil => rfl
  | cons token rest ih =>
    unfold leading at ih ⊢
    cases token with
    | literal text =>
      rw [List.takeWhile_cons_of_pos (by rfl), emitted_cons, ih]
      rfl
    | _ => rfl

theorem finish_eq_layout (values : Bindings) (tokens : List Token) :
    (Path.written (emitted values tokens) ++
      if emitted values (tokens.dropWhile Token.isLiteral) = [] ∧
        (tokens.dropWhile Token.isLiteral ≠ [] ∨ emitted values tokens = []) then "/" else "") =
      layout tokens (emitted values tokens) := by
  have hsplit : emitted values tokens =
      leading tokens ++ emitted values (tokens.dropWhile Token.isLiteral) := by
    rw [← emitted_takeWhile values, ← emitted_append, List.takeWhile_append_dropWhile]
  have hparameter : tokens.dropWhile Token.isLiteral ≠ [] ↔
      ∃ token ∈ tokens, token.isLiteral = false := by
    rw [Ne, List.dropWhile_eq_nil_iff]
    simp
  have hjust : emitted values tokens = leading tokens ↔
      emitted values (tokens.dropWhile Token.isLiteral) = [] := by
    rw [hsplit]
    simp
  by_cases hnone : emitted values tokens = []
  · have hbody := (List.append_eq_nil_iff.1 (hsplit.symm.trans hnone)).2
    simp [layout, hnone, hbody]
  · rw [Path.written_eq_slash_intercalate hnone, layout, if_neg hnone]
    -- Both ask whether anything stands after the fixed texts, and whether anything could.
    have hend : (emitted values (tokens.dropWhile Token.isLiteral) = [] ∧
        (tokens.dropWhile Token.isLiteral ≠ [] ∨ emitted values tokens = [])) ↔
        (emitted values tokens = leading tokens ∧ ∃ token ∈ tokens, token.isLiteral = false) := by
      rw [hjust, hparameter]
      simp [hnone]
    by_cases h : emitted values tokens = leading tokens ∧ ∃ token ∈ tokens, token.isLiteral = false
    · rw [if_pos (hend.2 h), if_pos h]
    · rw [if_neg (mt hend.1 h), if_neg h, String.append_empty]

theorem render_eq_ok_iff_layout {values : Bindings} {tokens : List Token} {path : String} :
    render tokens values = .ok path ↔ (∀ token ∈ tokens, token.IsSupplied values) ∧
      path = layout tokens (emitted values tokens) := by
  rw [render_eq_ok_iff, finish_eq_layout]

theorem not_hasDoubledSlash_of_render {values : Bindings} {tokens : List Token} {path : String}
    (htokens : ∀ token ∈ tokens, token.IsFormed) (h : render tokens values = .ok path) :
    ¬ Path.HasDoubledSlash path.toList := by
  have hemitted : ∀ piece ∈ emitted values tokens, Path.IsSegment piece :=
    fun _ => isSegment_of_mem_emitted htokens
  have hfree := Path.not_hasDoubledSlash_written hemitted
  rw [(render_eq_ok_iff.1 h).2]
  split
  · exact hfree
  · intro hdoubled
    rw [String.append_empty] at hdoubled
    rw [String.toList_append] at hfree
    exact hfree (hdoubled.trans (List.prefix_append _ _).isInfix)

theorem exists_eq_slash_append_of_render {values : Bindings} {tokens : List Token} {path : String}
    (h : render tokens values = .ok path) : ∃ rest, path = "/" ++ rest := by
  rw [(render_eq_ok_iff_layout.1 h).2, layout]
  split
  · exact ⟨"", rfl⟩
  · split
    · exact ⟨_, String.append_assoc⟩
    · exact ⟨_, rfl⟩

end Template

/-! ## The values that are looked at -/

/-- Two bindings say the same to a token: the same value under its name, where an empty one is none
to a positional parameter, and empty pieces are nothing to a wildcard. -/
def Token.SameFor (values other : Bindings) : Token → Prop
  | .literal _ => True
  | .positional _ name => values.filled? name = other.filled? name
  | .keyed _ name => values[name]? = other[name]?
  | .wildcard name => Path.segments (values.getD (name.getD anonymous) "") =
      Path.segments (other.getD (name.getD anonymous) "")

instance (values other : Bindings) : DecidablePred (Token.SameFor values other)
  | .literal _ => inferInstanceAs (Decidable True)
  | .positional _ name => inferInstanceAs (Decidable (values.filled? name = other.filled? name))
  | .keyed _ name => inferInstanceAs (Decidable (values[name]? = other[name]?))
  | .wildcard name => inferInstanceAs (Decidable
      (Path.segments (values.getD (name.getD Token.anonymous) "") =
        Path.segments (other.getD (name.getD Token.anonymous) "")))

namespace Template

theorem emit_congr {values other : Bindings} {token : Token} (h : token.SameFor values other) :
    emit values token = emit other token := by
  cases token with
  | literal text => rfl
  | positional presence name =>
    have hsame : values.filled? name = other.filled? name := h
    simp only [emit, hsame]
  | keyed presence name =>
    have hsame : values[name]? = other[name]? := h
    simp only [emit, hsame]
  | wildcard name =>
    have hsame : Path.segments (values.getD (name.getD Token.anonymous) "") =
        Path.segments (other.getD (name.getD Token.anonymous) "") := h
    have hpieces : Path.encodePieces (values.getD (name.getD Token.anonymous) "") =
        Path.encodePieces (other.getD (name.getD Token.anonymous) "") := by
      rw [Path.encodePieces, Path.encodePieces, hsame]
    simp only [emit]
    rw [hpieces]

theorem emitAll_congr {values other : Bindings} {tokens : List Token}
    (h : ∀ token ∈ tokens, token.SameFor values other) :
    emitAll values tokens = emitAll other tokens := by
  induction tokens with
  | nil => rfl
  | cons token rest ih =>
    rw [List.forall_mem_cons] at h
    rw [emitAll_cons, emitAll_cons, emit_congr h.1, ih h.2]

theorem render_congr {values other : Bindings} {tokens : List Token}
    (h : ∀ token ∈ tokens, token.SameFor values other) :
    render tokens values = render tokens other := by
  have hlead := emitAll_congr fun token htoken =>
    h token ((List.takeWhile_prefix Token.isLiteral).subset htoken)
  have hbody := emitAll_congr fun token htoken =>
    h token ((List.dropWhile_suffix Token.isLiteral).subset htoken)
  simp only [render, hlead, hbody]

end Template

namespace Rule

theorem render_eq_error_iff {r : Rule} {values : Bindings} {e : Error} :
    r.render values = .error e ↔
      ∃ name, e = .noValue r.route name ∧ Template.Lacks values r.tokens name := by
  simp only [← Template.render_eq_error_iff, render]
  cases Template.render r.tokens values <;> simp [Except.mapError, eq_comm]

/-- A rule fails to render exactly if a required value is missing, and names the first one in the
order of the template. Else the path is laid out from the segments that the tokens add: it begins
with a slash, no slash follows another, and these are the segments found in it. What it is depends
only on what the values say to the tokens of the rule. -/
theorem render_layout (r : Rule) (values : Bindings) :
    ((∃ e, r.render values = .error e) ↔ ∃ token ∈ r.tokens, ¬ token.IsSupplied values) ∧
    (∀ e, r.render values = .error e ↔
      ∃ name, e = .noValue r.route name ∧ Template.Lacks values r.tokens name) ∧
    (∀ path, r.render values = .ok path ↔ (∀ token ∈ r.tokens, token.IsSupplied values) ∧
      path = Template.layout r.tokens (Template.emitted values r.tokens)) ∧
    (∀ path, r.render values = .ok path → (∃ rest, path = "/" ++ rest) ∧
      ¬ Path.HasDoubledSlash path.toList ∧
      Path.segments path = Template.emitted values r.tokens) ∧
    ∀ other, (∀ token ∈ r.tokens, token.SameFor values other) →
      r.render values = r.render other := by
  have htokens := r.isWellFormed
  refine ⟨?_, fun e => render_eq_error_iff, ?_, ?_, ?_⟩
  · cases hrender : r.render values with
    | ok path =>
      have hsupplied := (Template.render_eq_ok_iff.1 (render_eq_ok_iff.1 hrender)).1
      simpa using hsupplied
    | error e =>
      rcases render_eq_error_iff.1 hrender with ⟨name, -, before, token, after, hsplit, -, hlacks⟩
      have htoken : token ∈ r.tokens := by
        rw [hsplit]
        exact List.mem_append_right before List.mem_cons_self
      exact ⟨fun _ => ⟨token, htoken, hlacks.1⟩, fun _ => ⟨e, rfl⟩⟩
  · intro path
    rw [render_eq_ok_iff, Template.render_eq_ok_iff_layout]
  · intro path hrender
    have hpath := render_eq_ok_iff.1 hrender
    exact ⟨Template.exists_eq_slash_append_of_render hpath,
      Template.not_hasDoubledSlash_of_render htokens.formed hpath,
      Template.segments_of_render htokens.formed hpath⟩
  · intro other hsame
    rw [render, render, Template.render_congr hsame]

/-- An empty positional value and a wildcard with nothing but slashes are like no values at all, and
an empty keyed value is none of these: with it the rule renders, without it it does not. -/
theorem render_layout_of_empty_values :
    let r : Rule := ⟨⟨"/notes/:id?/sort:/*", "show"⟩, [.literal "notes",
      .positional .optional "id", .keyed .required "sort", .wildcard none], by decide +kernel⟩
    let values : Bindings := .ofPairs [("id", ""), ("sort", ""), ("*", "//")]
    let other : Bindings := .ofPairs [("sort", ""), ("x", "y")]
    (∀ token ∈ r.tokens, token.SameFor values other) ∧
      r.render values = .ok "/notes/sort=" ∧ r.render other = .ok "/notes/sort=" ∧
      ¬ Path.HasDoubledSlash "/notes/sort=".toList ∧
      Path.segments "/notes/sort=" = Template.emitted values r.tokens ∧
      Template.Lacks (.ofPairs [("id", "7")]) r.tokens "sort" := by
  intro r values other
  rcases r.render_layout values with ⟨-, -, -, hpath, hsame⟩
  rcases r.render_layout (.ofPairs [("id", "7")]) with ⟨-, hmissing, -, -, -⟩
  have halike : ∀ token ∈ r.tokens, token.SameFor values other := by decide +kernel
  have hrender : r.render values = .ok "/notes/sort=" := by decide +kernel
  have hother : r.render other = .ok "/notes/sort=" := (hsame other halike).symm.trans hrender
  rcases hpath _ hrender with ⟨-, hfree, hsegments⟩
  have hfailed : r.render (.ofPairs [("id", "7")]) = .error (.noValue r.route "sort") := by
    decide +kernel
  rcases (hmissing _).1 hfailed with ⟨name, hname, hlacks⟩
  cases hname
  exact ⟨halike, hrender, hother, hfree, hsegments, hlacks⟩

end Rule

end Routing
