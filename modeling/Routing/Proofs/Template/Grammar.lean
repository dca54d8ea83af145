import Mathlib.Data.List.Induction
import Routing.Proofs.Lists
import Routing.Rule

namespace Routing

/-! # The grammar in closed form

Which segments make a template, said of all of them at once, and what is wrong with the first one
that cannot follow those before it. What one more segment comes to is said by `Template.Follows` and
`Template.Violates`; the rest follows by induction on the segments. Main statement:
`Rule.ofDeclaration_grammar`.
-/

namespace Template

/-! ## Templates and flaws -/

/-- What the grammar asks of tokens in a row: distinct names, no required positional parameter after
an optional one, and nothing after a wildcard. -/
structure IsOrdered (tokens : List Token) : Prop where
  names_nodup : (names tokens).Nodup
  required_first : tokens.Pairwise fun before after =>
    before.mayTakeSegment = true → ∀ name, after ≠ .positional .required name
  wildcard_last : tokens.Pairwise fun before _ => before.isWildcard = false

/-- The segments are the written forms of these tokens, and the tokens can stand in a row. -/
structure Spells (segments : List String) (tokens : List Token) : Prop where
  read : segments.map Token.read? = tokens.map some
  ordered : IsOrdered tokens

/-- The segments are those of a template. -/
def IsTemplate (segments : List String) : Prop := ∃ tokens, Spells segments tokens

/-- The token can stand after these tokens. -/
structure Follows (seen : List Token) (token : Token) : Prop where
  tame : ∀ other ∈ seen, other.isWildcard = false
  new : ∀ name, token.name = some name → name ∉ names seen
  timely : ∀ name, token = .positional .required name →
    ∀ other ∈ seen, other.mayTakeSegment = false

/-- The flaw of a segment that cannot stand after these tokens. A wildcard before it comes first,
then the form of the segment, its name, and its place. -/
inductive Violates (seen : List Token) (segment : String) : Flaw → Prop
  | afterWildcard (wild : ∃ other ∈ seen, other.isWildcard = true) :
      Violates seen segment (.afterWildcard segment)
  | illFormed (tame : ∀ other ∈ seen, other.isWildcard = false)
      (unread : Token.read? segment = none) : Violates seen segment (.illFormed segment)
  | repeatedName {token : Token} {name : String} (tame : ∀ other ∈ seen, other.isWildcard = false)
      (read : Token.read? segment = some token) (named : token.name = some name)
      (used : name ∈ names seen) : Violates seen segment (.repeatedName name)
  | requiredTooLate {name : String} (tame : ∀ other ∈ seen, other.isWildcard = false)
      (read : Token.read? segment = some (.positional .required name)) (new : name ∉ names seen)
      (late : ∃ other ∈ seen, other.mayTakeSegment = true) :
      Violates seen segment (.requiredTooLate name)

@[simp]
theorem names_append (before after : List Token) :
    names (before ++ after) = names before ++ names after := by
  simp [names]

theorem mem_names {tokens : List Token} {name : String} :
    name ∈ names tokens ↔ ∃ token ∈ tokens, token.name = some name := by
  simp [names]

/-! ## One more segment -/

theorem takesSegment_of_name {token : Token} {name : String} (hname : token.name = some name) :
    token.takesSegment = true ↔ token = .positional .required name := by
  rcases token with _ | ⟨_ | _, _⟩ | _ | _ <;> simp_all [Token.name, Token.takesSegment]

theorem any_isWildcard_eq_false {seen : List Token}
    (htame : ∀ other ∈ seen, other.isWildcard = false) : seen.any Token.isWildcard = false := by
  rw [List.any_eq_false]
  intro other hother
  rw [htame other hother]
  exact Bool.false_ne_true

/-- A segment whose token can follow is read as this token. -/
theorem readNext_of_follows {seen : List Token} {segment : String} {token : Token}
    (hread : Token.read? segment = some token) (hfollows : Follows seen token) :
    readNext seen segment = .ok (seen ++ [token]) := by
  have htame := any_isWildcard_eq_false hfollows.tame
  simp only [readNext, htame, hread, Bool.false_eq_true, if_false]
  cases hname : token.name with
  | none => simp only [extend, hname]
  | some name =>
    have htimely : ¬ (token.takesSegment = true ∧ seen.any Token.mayTakeSegment = true) := by
      intro hlate
      rcases hlate with ⟨htakes, hany⟩
      rcases List.any_eq_true.1 hany with ⟨other, hother, hmay⟩
      rw [hfollows.timely name ((takesSegment_of_name hname).1 htakes) other hother] at hmay
      exact Bool.noConfusion hmay
    simp only [extend, hname, if_neg (hfollows.new name hname), if_neg htimely]

/-- A segment that cannot follow has its flaw reported. -/
theorem readNext_of_violates {seen : List Token} {segment : String} {flaw : Flaw}
    (h : Violates seen segment flaw) : readNext seen segment = .error flaw := by
  cases h with
  | afterWildcard wild => simp only [readNext, List.any_eq_true.2 wild, if_true]
  | illFormed tame unread =>
    simp only [readNext, any_isWildcard_eq_false tame, unread, Bool.false_eq_true, if_false]
  | repeatedName tame read named used =>
    simp only [readNext, any_isWildcard_eq_false tame, read, extend, named, used,
      Bool.false_eq_true, if_false, if_true]
  | requiredTooLate tame read new late =>
    simp only [readNext, any_isWildcard_eq_false tame, read, extend, Token.name, new,
      Token.takesSegment, List.any_eq_true.2 late, Bool.false_eq_true, if_false, and_self, if_true]

/-- A segment can follow or has a flaw. -/
theorem follows_or_violates (seen : List Token) (segment : String) :
    (∃ token, Token.read? segment = some token ∧ Follows seen token) ∨
      ∃ flaw, Violates seen segment flaw := by
  -- The questions are asked in the order in which the flaws take precedence.
  by_cases hwild : ∃ other ∈ seen, other.isWildcard = true
  · exact .inr ⟨_, .afterWildcard hwild⟩
  have htame : ∀ other ∈ seen, other.isWildcard = false := by
    intro other hother
    exact Bool.eq_false_iff.2 fun hbad => hwild ⟨other, hother, hbad⟩
  cases hread : Token.read? segment with
  | none => exact .inr ⟨_, .illFormed htame hread⟩
  | some token =>
    by_cases hused : ∃ name, token.name = some name ∧ name ∈ names seen
    · rcases hused with ⟨name, hname, hmem⟩
      exact .inr ⟨_, .repeatedName htame hread hname hmem⟩
    have hnew : ∀ name, token.name = some name → name ∉ names seen := by
      intro name hname hmem
      exact hused ⟨name, hname, hmem⟩
    by_cases hlate : ∃ name, token = .positional .required name ∧
        ∃ other ∈ seen, other.mayTakeSegment = true
    · rcases hlate with ⟨name, rfl, hother⟩
      exact .inr ⟨_, .requiredTooLate htame hread (hnew name rfl) hother⟩
    · refine .inl ⟨token, rfl, htame, hnew, fun name heq other hother => ?_⟩
      exact Bool.eq_false_iff.2 fun hbad => hlate ⟨name, heq, other, hother, hbad⟩

theorem readNext_eq_ok_iff {seen tokens : List Token} {segment : String} :
    readNext seen segment = .ok tokens ↔
      ∃ token, Token.read? segment = some token ∧ Follows seen token ∧
        tokens = seen ++ [token] := by
  constructor
  · intro h
    rcases follows_or_violates seen segment with ⟨token, hread, hfollows⟩ | ⟨flaw, hflaw⟩
    · rw [readNext_of_follows hread hfollows] at h
      cases h
      exact ⟨token, hread, hfollows, rfl⟩
    · rw [readNext_of_violates hflaw] at h
      cases h
  · intro h
    rcases h with ⟨token, hread, hfollows, rfl⟩
    exact readNext_of_follows hread hfollows

theorem readNext_eq_error_iff {seen : List Token} {segment : String} {flaw : Flaw} :
    readNext seen segment = .error flaw ↔ Violates seen segment flaw := by
  refine eq_error_iff_of_cases (fun _ => readNext_of_violates) ?_
  refine (follows_or_violates seen segment).imp_left ?_
  rintro ⟨token, hread, hfollows⟩
  exact ⟨_, readNext_of_follows hread hfollows⟩

/-! ## Tokens in a row -/

theorem IsOrdered.sublist {tokens part : List Token} (h : IsOrdered tokens)
    (hpart : part.Sublist tokens) : IsOrdered part where
  names_nodup := h.names_nodup.sublist (hpart.filterMap _)
  required_first := h.required_first.sublist hpart
  wildcard_last := h.wildcard_last.sublist hpart

/-- Tokens in a row stay so exactly if the next one can follow. -/
theorem isOrdered_concat_iff {seen : List Token} {token : Token} :
    IsOrdered (seen ++ [token]) ↔ IsOrdered seen ∧ Follows seen token := by
  constructor
  · intro h
    refine ⟨h.sublist (List.sublist_append_left _ _), ?_, ?_, ?_⟩
    · intro other hother
      exact (List.pairwise_append.1 h.wildcard_last).2.2 other hother token
        (List.mem_singleton_self _)
    · intro name hname hused
      have hnodup := h.names_nodup
      rw [names_append] at hnodup
      have hlast : name ∈ names [token] := mem_names.2 ⟨token, List.mem_singleton_self _, hname⟩
      exact (List.nodup_append.1 hnodup).2.2 name hused name hlast rfl
    · intro name heq other hother
      have hcross := (List.pairwise_append.1 h.required_first).2.2 other hother token
        (List.mem_singleton_self _)
      exact Bool.eq_false_iff.2 fun hmay => hcross hmay name heq
  · intro hcase
    rcases hcase with ⟨hseen, hfollows⟩
    refine ⟨?_, List.pairwise_append.2 ⟨hseen.required_first, List.pairwise_singleton _ _, ?_⟩,
      List.pairwise_append.2 ⟨hseen.wildcard_last, List.pairwise_singleton _ _, ?_⟩⟩
    · rw [names_append]
      refine List.nodup_append.2 ⟨hseen.names_nodup, ?_, ?_⟩
      · cases hname : token.name <;> simp [names, hname]
      · rintro name hused other hlast rfl
        rcases mem_names.1 hlast with ⟨last, hmem, hname⟩
        rw [List.mem_singleton.1 hmem] at hname
        exact hfollows.new name hname hused
    · intro other hother last hlast hmay name heq
      rw [List.mem_singleton.1 hlast] at heq
      rw [hfollows.timely name heq other hother] at hmay
      exact Bool.noConfusion hmay
    · intro other hother _ _
      exact hfollows.tame other hother

/-! ## All segments -/

theorem spells_nil : Spells [] [] := ⟨rfl, List.nodup_nil, .nil, .nil⟩

/-- A last segment is spelled after the others. -/
theorem spells_concat_iff {segments : List String} {segment : String} {tokens : List Token} :
    Spells (segments ++ [segment]) tokens ↔
      ∃ seen token, Spells segments seen ∧ Token.read? segment = some token ∧
        Follows seen token ∧ tokens = seen ++ [token] := by
  constructor
  · intro h
    have hread := h.read
    rw [List.map_append, eq_comm, List.map_eq_append_iff] at hread
    rcases hread with ⟨seen, last, rfl, hseen, hlast⟩
    rcases List.map_eq_singleton_iff.1 hlast with ⟨token, rfl, htoken⟩
    rcases isOrdered_concat_iff.1 h.ordered with ⟨hordered, hfollows⟩
    exact ⟨seen, token, ⟨hseen.symm, hordered⟩, htoken.symm, hfollows, rfl⟩
  · intro h
    rcases h with ⟨seen, token, hseen, hread, hfollows, rfl⟩
    refine ⟨?_, isOrdered_concat_iff.2 ⟨hseen.ordered, hfollows⟩⟩
    rw [List.map_append, List.map_append, hseen.read, List.map_singleton, List.map_singleton, hread]

/-- The segments before any segment of a template are a template. -/
theorem IsTemplate.of_append {before after : List String} (h : IsTemplate (before ++ after)) :
    IsTemplate before := by
  rcases h with ⟨tokens, hread, hordered⟩
  rw [List.map_append, eq_comm, List.map_eq_append_iff] at hread
  rcases hread with ⟨seen, rest, rfl, hseen, -⟩
  exact ⟨seen, hseen.symm, hordered.sublist (List.sublist_append_left _ _)⟩

/-- Reading succeeds exactly on templates, and gives the tokens that they spell. -/
theorem read_eq_ok_iff {segments : List String} {tokens : List Token} :
    read segments = .ok tokens ↔ Spells segments tokens := by
  induction segments using List.reverseRecOn generalizing tokens with
  | nil =>
    constructor
    · intro h
      cases h
      exact spells_nil
    · intro h
      have hnil : tokens = [] := by simpa using h.read.symm
      rw [hnil, read_nil]
  | append_singleton rest segment ih =>
    rw [read_concat, spells_concat_iff]
    constructor
    · intro h
      cases hrest : read rest with
      | error flaw =>
        rw [hrest] at h
        cases h
      | ok seen =>
        rw [hrest] at h
        rcases readNext_eq_ok_iff.1 h with ⟨token, hread, hfollows, heq⟩
        exact ⟨seen, token, ih.1 hrest, hread, hfollows, heq⟩
    · intro h
      rcases h with ⟨seen, token, hseen, hread, hfollows, rfl⟩
      rw [ih.2 hseen]
      exact readNext_of_follows hread hfollows

/-- Reading fails exactly at a segment that cannot follow a template before it. -/
theorem read_eq_error_iff {segments : List String} {flaw : Flaw} :
    read segments = .error flaw ↔ ∃ before segment after seen,
      segments = before ++ segment :: after ∧ Spells before seen ∧ Violates seen segment flaw := by
  unfold read
  rw [foldlM_eq_error_iff]
  constructor
  · intro h
    rcases h with ⟨before, segment, after, seen, hsplit, hseen, hflaw⟩
    exact ⟨before, segment, after, seen, hsplit, read_eq_ok_iff.1 hseen,
      readNext_eq_error_iff.1 hflaw⟩
  · intro h
    rcases h with ⟨before, segment, after, seen, hsplit, hseen, hflaw⟩
    exact ⟨before, segment, after, seen, hsplit, read_eq_ok_iff.2 hseen,
      readNext_eq_error_iff.2 hflaw⟩

/-- What is wrong with the first segments is wrong with all of them. -/
theorem read_append_of_error {before : List String} {flaw : Flaw} (h : read before = .error flaw)
    (after : List String) : read (before ++ after) = .error flaw := by
  rcases read_eq_error_iff.1 h with ⟨first, segment, rest, seen, rfl, hseen, hflaw⟩
  exact read_eq_error_iff.2 ⟨first, segment, rest ++ after, seen, by simp, hseen, hflaw⟩

theorem isTemplate_iff {segments : List String} :
    IsTemplate segments ↔ ∀ flaw, read segments ≠ .error flaw := by
  constructor
  · intro h flaw hflaw
    rcases h with ⟨tokens, htokens⟩
    rw [read_eq_ok_iff.2 htokens] at hflaw
    cases hflaw
  · intro h
    cases hread : read segments with
    | error flaw => exact absurd hread (h flaw)
    | ok tokens => exact ⟨tokens, read_eq_ok_iff.1 hread⟩

/-- The flaw is that of the first segment up to which the segments are no template. -/
theorem read_eq_error_iff_isLeast {segments : List String} {flaw : Flaw} :
    read segments = .error flaw ↔ ∃ i segment seen,
      IsLeast {i | ¬ IsTemplate (segments.take (i + 1))} i ∧ segments[i]? = some segment ∧
        Spells (segments.take i) seen ∧ Violates seen segment flaw := by
  constructor
  · intro h
    rcases read_eq_error_iff.1 h with ⟨before, segment, after, seen, rfl, hseen, hflaw⟩
    have hread : read (before ++ [segment]) = .error flaw :=
      read_eq_error_iff.2 ⟨before, segment, [], seen, rfl, hseen, hflaw⟩
    have hbad : ¬ IsTemplate (before ++ [segment]) := fun h => isTemplate_iff.1 h flaw hread
    exact ⟨before.length, segment, seen, isLeast_length IsTemplate.of_append ⟨seen, hseen⟩ hbad,
      by simp, by simpa using hseen, hflaw⟩
  · intro h
    rcases h with ⟨i, segment, seen, -, hsegment, hseen, hflaw⟩
    rcases List.getElem?_eq_some_iff.1 hsegment with ⟨hlt, hget⟩
    have hsplit : segments = segments.take i ++ segment :: segments.drop (i + 1) := by
      rw [← hget, ← List.drop_eq_getElem_cons hlt, List.take_append_drop]
    exact read_eq_error_iff.2 ⟨_, _, _, _, hsplit, hseen, hflaw⟩

end Template

/-! ## Routes -/

namespace Rule

theorem ofDeclaration_of_read_eq_error {d : Declaration} {flaw : Template.Flaw}
    (h : Template.read (Path.segments d.route) = .error flaw) :
    ofDeclaration d = .error (.malformed d.route flaw) := by
  unfold ofDeclaration
  split <;> simp_all

/-- The tokens of a declaration are those of its route, and so is its flaw. -/
theorem map_tokens_ofDeclaration (d : Declaration) :
    (ofDeclaration d).map tokens =
      (Template.read (Path.segments d.route)).mapError (.malformed d.route) := by
  cases hread : Template.read (Path.segments d.route) with
  | error flaw =>
    rw [ofDeclaration_of_read_eq_error hread]
    rfl
  | ok tokens =>
    have hrule : ofDeclaration d = .ok ⟨d, tokens, hread⟩ := ofDeclaration_eq_ok_iff.2 rfl
    rw [hrule]
    rfl

theorem ofDeclaration_eq_error_iff {d : Declaration} {e : Error} :
    ofDeclaration d = .error e ↔ ∃ flaw,
      Template.read (Path.segments d.route) = .error flaw ∧ e = .malformed d.route flaw := by
  constructor
  · intro h
    have htokens := map_tokens_ofDeclaration d
    cases hread : Template.read (Path.segments d.route) with
    | error flaw =>
      rw [ofDeclaration_of_read_eq_error hread] at h
      cases h
      exact ⟨flaw, rfl, rfl⟩
    | ok tokens =>
      rw [h, hread] at htokens
      cases htokens
  · intro h
    rcases h with ⟨flaw, hread, rfl⟩
    exact ofDeclaration_of_read_eq_error hread

/-- A route gives a rule exactly if its segments spell the tokens of a template, and these are the
tokens of the rule. Otherwise the first segment up to which they spell none decides the flaw, and
the segments after it say nothing. -/
theorem ofDeclaration_grammar (route method : String) :
    (∀ tokens, (ofDeclaration ⟨route, method⟩).map Rule.tokens = .ok tokens ↔
        Template.Spells (Path.segments route) tokens) ∧
      (∀ e, ofDeclaration ⟨route, method⟩ = .error e ↔ ∃ i segment seen flaw,
        IsLeast {i | ¬ Template.IsTemplate ((Path.segments route).take (i + 1))} i ∧
          (Path.segments route)[i]? = some segment ∧
          Template.Spells ((Path.segments route).take i) seen ∧
          Template.Violates seen segment flaw ∧ e = .malformed route flaw) ∧
      ∀ i other method', ¬ Template.IsTemplate ((Path.segments route).take (i + 1)) →
        (Path.segments other).take (i + 1) = (Path.segments route).take (i + 1) →
          ∃ flaw, ofDeclaration ⟨route, method⟩ = .error (.malformed route flaw) ∧
            ofDeclaration ⟨other, method'⟩ = .error (.malformed other flaw) := by
  refine ⟨?_, ?_, ?_⟩
  · intro tokens
    rw [map_tokens_ofDeclaration, ← Template.read_eq_ok_iff]
    cases Template.read (Path.segments route) <;> simp [Except.mapError]
  · intro e
    rw [ofDeclaration_eq_error_iff]
    constructor
    · intro h
      rcases h with ⟨flaw, hread, rfl⟩
      rcases Template.read_eq_error_iff_isLeast.1 hread with
        ⟨i, segment, seen, hi, hat, hseen, hflaw⟩
      exact ⟨i, segment, seen, flaw, hi, hat, hseen, hflaw, rfl⟩
    · intro h
      rcases h with ⟨i, segment, seen, flaw, hi, hat, hseen, hflaw, rfl⟩
      exact ⟨flaw, Template.read_eq_error_iff_isLeast.2 ⟨i, segment, seen, hi, hat, hseen, hflaw⟩,
        rfl⟩
  · intro i other method' hbad hsame
    rw [Template.isTemplate_iff] at hbad
    -- The first segments fail alone already, whatever comes after them.
    push Not at hbad
    rcases hbad with ⟨flaw, hflaw⟩
    have hroute := Template.read_append_of_error hflaw ((Path.segments route).drop (i + 1))
    rw [List.take_append_drop] at hroute
    rw [← hsame] at hflaw
    have hother := Template.read_append_of_error hflaw ((Path.segments other).drop (i + 1))
    rw [List.take_append_drop] at hother
    exact ⟨flaw, ofDeclaration_of_read_eq_error hroute, ofDeclaration_of_read_eq_error hother⟩

end Rule

end Routing
