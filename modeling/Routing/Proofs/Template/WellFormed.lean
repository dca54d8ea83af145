import Routing.Proofs.Path.Pieces
import Routing.Proofs.Template.Grammar

namespace Routing

/-! # Well-formed templates

What the grammar guarantees of the tokens that it lets through. Main statement:
`Rule.isWellFormed`, the tokens of every rule are well formed.
-/

/-- A text that can name a parameter. -/
def Token.IsName (name : String) : Prop :=
  name ≠ "" ∧ ∀ c ∈ name.toList, Token.isReserved c = false

/-- A parameter has a proper name; a fixed text is a segment that reads as no parameter. -/
def Token.IsFormed : Token → Prop
  | .literal text => Path.IsSegment text ∧ ':' ∉ text.toList ∧ text ≠ anonymous
  | .positional _ name => IsName name
  | .keyed _ name => IsName name
  | .wildcard none => True
  | .wildcard (some name) => IsName name

namespace Token

theorem IsName.not_mem {name : String} (hname : IsName name) {c : Char} (hc : isReserved c = true) :
    c ∉ name.toList := by
  intro hmem
  rw [hname.2 c hmem] at hc
  exact Bool.noConfusion hc

theorem isName_of_readName? {text : List Char} {name : String} (h : readName? text = some name) :
    IsName name := by
  rcases readName?_eq_some_iff.1 h with ⟨rfl, hne, hfree⟩
  exact ⟨by simpa using hne, hfree⟩

/-- A token of a name that is read is formed, if that is all that it takes. -/
theorem isFormed_of_map_readName? {text : List Char} {token : Token} {make : String → Token}
    (h : (readName? text).map make = some token)
    (hmake : ∀ name, IsName name → (make name).IsFormed) : token.IsFormed := by
  rcases Option.map_eq_some_iff.1 h with ⟨name, hname, rfl⟩
  exact hmake name (isName_of_readName? hname)

theorem isFormed_of_readPositional? {text : List Char} {token : Token}
    (h : readPositional? text = some token) : token.IsFormed := by
  unfold readPositional? at h
  split at h
  · exact isFormed_of_map_readName? h fun _ hname => hname
  · exact isFormed_of_map_readName? h fun _ hname => hname

/-- A segment of a template is read as a well-formed token. -/
theorem isFormed_of_read? {segment : String} {token : Token} (hsegment : Path.IsSegment segment)
    (h : read? segment = some token) : token.IsFormed := by
  unfold read? at h
  split at h
  · cases h
    trivial
  · rename_i hstar
    split at h
    · rename_i hcut
      cases h
      exact ⟨hsegment, Text.cut?_eq_none_iff.1 hcut, hstar⟩
    · exact isFormed_of_readPositional? h
    · exact isFormed_of_map_readName? h fun _ hname => hname
    · exact isFormed_of_map_readName? h fun _ hname => hname
    · exact isFormed_of_map_readName? h fun _ hname => hname
    · cases h

theorem eq_optional_of_mayTakeSegment {token : Token} (h : token.mayTakeSegment = true) :
    ∃ name, token = .positional .optional name := by
  rcases token with _ | ⟨_ | _, name⟩ | _ | _
  case positional.optional => exact ⟨name, rfl⟩
  all_goals exact Bool.noConfusion h

end Token

namespace Template

/-- The tokens of a template: each is formed, and they can stand in a row. -/
structure IsWellFormed (tokens : List Token) : Prop extends IsOrdered tokens where
  formed : ∀ token ∈ tokens, token.IsFormed

/-- The grammar lets only well-formed templates through. -/
theorem isWellFormed_of_read {segments : List String} {tokens : List Token}
    (hsegments : ∀ segment ∈ segments, Path.IsSegment segment) (h : read segments = .ok tokens) :
    IsWellFormed tokens := by
  rcases read_eq_ok_iff.1 h with ⟨hread, hordered⟩
  refine ⟨hordered, ?_⟩
  intro token htoken
  have hmem : some token ∈ segments.map Token.read? := by
    rw [hread]
    exact List.mem_map_of_mem htoken
  rcases List.mem_map.1 hmem with ⟨segment, hsegment, hform⟩
  exact Token.isFormed_of_read? (hsegments segment hsegment) hform

/-! ## Consequences -/

/-- Some of the tokens, in their order, are a template too. -/
theorem IsWellFormed.sublist {tokens part : List Token} (h : IsWellFormed tokens)
    (hpart : part.Sublist tokens) : IsWellFormed part where
  toIsOrdered := h.toIsOrdered.sublist hpart
  formed := fun token htoken => h.formed token (hpart.subset htoken)

theorem IsWellFormed.tail {token : Token} {rest : List Token} (h : IsWellFormed (token :: rest)) :
    IsWellFormed rest :=
  h.sublist (List.sublist_cons_self token rest)

/-- A parameter does not occur twice. -/
theorem IsWellFormed.not_mem_rest {token : Token} {rest : List Token} {name : String}
    (h : IsWellFormed (token :: rest)) (hname : token.name = some name) : token ∉ rest := by
  intro hmem
  have hnodup := h.names_nodup
  rw [names, List.filterMap_cons_some hname, List.nodup_cons] at hnodup
  exact hnodup.1 (mem_names.2 ⟨token, hmem, hname⟩)

theorem IsWellFormed.nodup_filter_mayTakeSegment {tokens : List Token} (h : IsWellFormed tokens) :
    (tokens.filter Token.mayTakeSegment).Nodup := by
  rw [List.Nodup, List.pairwise_filter]
  refine (List.pairwise_filterMap.1 h.names_nodup).imp ?_
  rintro one other hdistinct hmay - rfl
  rcases Token.eq_optional_of_mayTakeSegment hmay with ⟨name, rfl⟩
  exact hdistinct name rfl name rfl rfl

/-- What tokens give under their own names, each once at most, is under different names. -/
theorem IsWellFormed.nodup_fst_filterMap {α : Type} {tokens : List Token} (h : IsWellFormed tokens)
    (give : Token → Option (String × α))
    (hgive : ∀ token pair, give token = some pair → token.name = some pair.1) :
    ((tokens.filterMap give).map Prod.fst).Nodup := by
  rw [List.Nodup, List.pairwise_map, List.pairwise_filterMap]
  refine (List.pairwise_filterMap.1 h.names_nodup).imp ?_
  intro one other hdistinct pair hpair pair' hpair'
  exact hdistinct _ (hgive _ _ hpair) _ (hgive _ _ hpair')

theorem IsWellFormed.eq_nil_of_wildcard {name : Option String} {rest : List Token}
    (h : IsWellFormed (.wildcard name :: rest)) : rest = [] := by
  cases rest with
  | nil => rfl
  | cons next rest =>
    have hbad := (List.pairwise_cons.1 h.wildcard_last).1 next List.mem_cons_self
    exact Bool.noConfusion hbad

/-- What a template binds has a proper name, but for an unnamed wildcard. -/
theorem IsWellFormed.isName_or_eq_anonymous {tokens : List Token} (h : IsWellFormed tokens)
    {name : String} (hmem : name ∈ names tokens) : Token.IsName name ∨ name = Token.anonymous := by
  rcases mem_names.1 hmem with ⟨token, htoken, hname⟩
  have hformed := h.formed token htoken
  rcases token with _ | ⟨_, key⟩ | ⟨_, key⟩ | _ | key
  · cases hname
  · cases hname
    exact .inl hformed
  · cases hname
    exact .inl hformed
  · cases hname
    exact .inr rfl
  · cases hname
    exact .inl hformed

/-- A name belongs to one token. -/
theorem IsWellFormed.eq_of_name_eq {tokens : List Token} (h : IsWellFormed tokens)
    {one other : Token} {name : String} (hone : one ∈ tokens) (hother : other ∈ tokens)
    (hname : one.name = some name) (hname' : other.name = some name) : one = other := by
  by_contra hne
  have hdistinct := List.pairwise_filterMap.1 h.names_nodup
  have hsymm : Std.Symm fun one other : Token =>
      ∀ n, one.name = some n → ∀ m, other.name = some m → n ≠ m :=
    ⟨fun _ _ hpair n hn m hm => (hpair m hm n hn).symm⟩
  exact hdistinct.forall hone hother hne name hname name hname' rfl

end Template

theorem Rule.isWellFormed (r : Rule) : Template.IsWellFormed r.tokens :=
  Template.isWellFormed_of_read (fun _ => Path.isSegment_of_mem_segments) r.read_route

end Routing
