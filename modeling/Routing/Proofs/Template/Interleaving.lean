import Routing.Proofs.Template.Matching

namespace Routing

/-! # Keyed segments in any place

A path gives the same values wherever its segments `key=value` stand and in whatever order, and
slashes that bound no segment change nothing. Main statement: `Rule.bindings?_eq_of_perm`.
-/

namespace Template

/-- The segments of a path that stand under declared keys. -/
def keyedSegments (tokens : List Token) (path : String) : List String :=
  (Path.segments path).filter fun segment => IsKeyed (keys tokens) segment

/-- The segments of a path are those under declared keys and the others, but for their order. -/
theorem perm_segments (tokens : List Token) (path : String) :
    (keyedSegments tokens path ++ others tokens path).Perm (Path.segments path) := by
  have hperm := List.filter_append_perm (fun segment => decide (IsKeyed (keys tokens) segment))
    (Path.segments path)
  simpa [keyedSegments, others] using hperm

theorem perm_segments_of_perm_keyedSegments {tokens : List Token} {p q : String}
    (hothers : others tokens p = others tokens q)
    (hkeyed : (keyedSegments tokens p).Perm (keyedSegments tokens q)) :
    (Path.segments p).Perm (Path.segments q) := by
  have hp := (perm_segments tokens p).symm
  have hq := perm_segments tokens q
  rw [← hothers] at hq
  exact hp.trans ((hkeyed.append_right _).trans hq)

/-! ## What the matcher sees of the order -/

section
variable {tokens : List Token} {p q : String} (hothers : others tokens p = others tokens q)
  (hperm : (Path.segments p).Perm (Path.segments q))
include hothers hperm

/-- Whether a key is given twice, and whether a required one is given, has nothing to do with the
order of the segments. -/
theorem Matches.of_perm (hmatch : Matches tokens p) : Matches tokens q := by
  refine ⟨?_, ?_, hothers ▸ hmatch.aligned⟩
  · -- Two segments under one key are at odds whichever stands first.
    refine (hperm.pairwise_iff ?_).1 hmatch.keys_once
    intro one other honce key hkey value value' hone hother
    exact honce key hkey value' value hother hone
  · intro key hkey
    rcases hmatch.keys_given key hkey with ⟨segment, hsegment, hsplits⟩
    exact ⟨segment, hperm.mem_iff.1 hsegment, hsplits⟩

theorem Binds.of_perm {name value : String} (hbinds : Binds tokens p name value) :
    Binds tokens q name value := by
  rcases hbinds with ⟨hdeclared, hsegment, hsplits⟩ | hplaced | hdeclared
  · exact .keyed hdeclared (hperm.mem_iff.1 hsegment) hsplits
  · rw [hothers] at hplaced
    exact .positional hplaced
  · rw [hothers]
    exact .wildcard hdeclared

end

end Template

/-- A path gives what any other path gives that has its segments in another order, as long as those
that take their places among the tokens keep theirs. -/
theorem Template.bindings?_eq_some_of_perm {tokens : List Token} (htokens : IsWellFormed tokens)
    {p q : String} (hothers : others tokens p = others tokens q)
    (hperm : (Path.segments p).Perm (Path.segments q)) {args : Bindings}
    (h : bindings? tokens p = some args) : bindings? tokens q = some args := by
  rcases (bindings?_eq_some_iff_binds htokens).1 h with ⟨hmatch, hbinds⟩
  refine (bindings?_eq_some_iff_binds htokens).2 ⟨hmatch.of_perm hothers hperm, ?_⟩
  intro name value
  rw [hbinds]
  constructor
  · intro hbind
    exact hbind.of_perm hothers hperm
  · intro hbind
    exact hbind.of_perm hothers.symm hperm.symm

namespace Rule

open Template (others keyedSegments)

/-- Nothing but the segments of a path is looked at. -/
theorem bindings?_of_segments_eq (r : Rule) {p q : String}
    (h : Path.segments p = Path.segments q) : r.bindings? p = r.bindings? q := by
  unfold bindings? Template.bindings?
  rw [h]

/-- Paths with the same segments under declared keys, in any order, and the same other segments, in
one order, match alike and give the same values. In particular a slash at either end and a doubled
slash say nothing. -/
theorem bindings?_eq_of_perm (r : Rule) :
    (∀ p q, others r.tokens p = others r.tokens q →
      (keyedSegments r.tokens p).Perm (keyedSegments r.tokens q) → r.bindings? p = r.bindings? q) ∧
    ∀ p q, r.bindings? ("/" ++ p) = r.bindings? p ∧ r.bindings? (p ++ "/") = r.bindings? p ∧
      r.bindings? (p ++ "//" ++ q) = r.bindings? (p ++ "/" ++ q) := by
  refine ⟨?_, ?_⟩
  · intro p q hothers hkeyed
    have hperm := Template.perm_segments_of_perm_keyedSegments hothers hkeyed
    -- Each of the two paths gives what the other gives, so they also fail together.
    apply Option.ext
    intro args
    constructor
    · exact Template.bindings?_eq_some_of_perm r.isWellFormed hothers hperm
    · exact Template.bindings?_eq_some_of_perm r.isWellFormed hothers.symm hperm.symm
  · intro p q
    refine ⟨?_, ?_, ?_⟩
    · have hcut := Path.segments_append_slash "" p
      rw [String.empty_append, Path.segments_empty, List.nil_append] at hcut
      exact r.bindings?_of_segments_eq hcut
    · exact r.bindings?_of_segments_eq (Path.segments_concat_slash p)
    · -- The second slash cuts off an empty piece.
      have hdouble : p ++ "//" ++ q = p ++ "/" ++ "/" ++ q := by
        have hslashes : "//" = "/" ++ "/" := by decide
        rw [hslashes, ← String.append_assoc]
      apply r.bindings?_of_segments_eq
      rw [hdouble, Path.segments_append_slash, Path.segments_concat_slash,
        Path.segments_append_slash]

/-- Keyed segments in the range of a wildcard, before the fixed text and behind one another. -/
theorem bindings?_eq_of_perm_scattered :
    ∃ (r : Rule) (args : Bindings) (p q : String),
      r.toDeclaration = ⟨"/files/:dir?/page:/sort:?/*", "show"⟩ ∧
      args = .ofPairs [("dir", "a"), ("page", "2"), ("sort", "up"), ("*", "b/x=1")] ∧
      p = "/files/a/page=2/sort=up/b/x=1" ∧ q = "sort=up//files/a/b/page=2/x=1/" ∧
      others r.tokens p = others r.tokens q ∧
      (keyedSegments r.tokens p).Perm (keyedSegments r.tokens q) ∧
      r.bindings? p = some args ∧ r.bindings? q = some args := by
  let r : Rule := ⟨⟨"/files/:dir?/page:/sort:?/*", "show"⟩, [.literal "files",
    .positional .optional "dir", .keyed .required "page", .keyed .optional "sort", .wildcard none],
    by decide +kernel⟩
  let p := "/files/a/page=2/sort=up/b/x=1"
  let q := "sort=up//files/a/b/page=2/x=1/"
  have hothers : others r.tokens p = others r.tokens q := by decide +kernel
  have hkeyed : (keyedSegments r.tokens p).Perm (keyedSegments r.tokens q) := by decide +kernel
  have hp : r.bindings? p =
      some (.ofPairs [("dir", "a"), ("page", "2"), ("sort", "up"), ("*", "b/x=1")]) := by
    decide +kernel
  have hq := r.bindings?_eq_of_perm.1 p q hothers hkeyed
  exact ⟨r, _, p, q, rfl, rfl, rfl, rfl, hothers, hkeyed, hp, hq.symm.trans hp⟩

end Rule

end Routing
