import Routing.Proofs.Lists
import Routing.Proofs.Path.Codec
import Routing.Proofs.Template.WellFormed
import Routing.Template.Match

namespace Routing

/-! # Keyed segments in closed form

The segments `key=value` of a path whose keys a template declares, and what they give to its keyed
parameters. Main statements: `Template.bindKeyed_eq_some_iff` and `Template.mem_keyedPairs_iff`.
-/

/-- The segment is `key=value`, cut at its first `=`. -/
def Path.Splits (segment key value : String) : Prop :=
  segment = key ++ "=" ++ value ∧ '=' ∉ key.toList

theorem Path.splits_iff {segment key value : String} :
    Splits segment key value ↔ Text.cut? '=' segment.toList = some (key.toList, value.toList) := by
  unfold Splits
  rw [Text.cut?_eq_some_iff, ← String.toList_inj]
  simp

/-- A segment is cut in one way only. -/
theorem Path.Splits.unique {segment key value key' value' : String}
    (h : Splits segment key value) (h' : Splits segment key' value') :
    key = key' ∧ value = value' := by
  rw [splits_iff] at h h'
  rw [h, Option.some.injEq, Prod.mk.injEq, String.toList_inj, String.toList_inj] at h'
  exact h'

namespace Template

/-- A segment `key=value` with a declared key. -/
def IsKeyed (declared : List String) (segment : String) : Prop :=
  ∃ key ∈ declared, ∃ value, Path.Splits segment key value

theorem keyed?_eq_some_iff {declared : List String} {segment key value : String} :
    keyed? declared segment = some (key, value) ↔
      key ∈ declared ∧ Path.Splits segment key value := by
  unfold keyed?
  rw [Path.splits_iff]
  cases Text.cut? '=' segment.toList with
  | none => simp
  | some parts =>
    rcases parts with ⟨before, after⟩
    by_cases hmem : String.ofList before ∈ declared
    · simp only [hmem, if_true, Option.some.injEq, Prod.mk.injEq]
      constructor
      · intro h
        rcases h with ⟨rfl, rfl⟩
        exact ⟨hmem, by simp⟩
      · intro h
        rcases h with ⟨-, rfl, rfl⟩
        simp
    · simp only [hmem, if_false, reduceCtorEq, false_iff]
      intro h
      rcases h with ⟨hkey, heq⟩
      simp only [Option.some.injEq, Prod.mk.injEq] at heq
      rw [heq.1, String.ofList_toList] at hmem
      exact hmem hkey

theorem isSome_keyed?_iff {declared : List String} {segment : String} :
    (keyed? declared segment).isSome ↔ IsKeyed declared segment := by
  rw [Option.isSome_iff_exists]
  constructor
  · intro h
    rcases h with ⟨⟨key, value⟩, hkeyed⟩
    rcases keyed?_eq_some_iff.1 hkeyed with ⟨hkey, hsplits⟩
    exact ⟨key, hkey, value, hsplits⟩
  · intro h
    rcases h with ⟨key, hkey, value, hsplits⟩
    exact ⟨(key, value), keyed?_eq_some_iff.2 ⟨hkey, hsplits⟩⟩

instance (declared : List String) : DecidablePred (IsKeyed declared) := fun _ =>
  decidable_of_iff _ isSome_keyed?_iff

/-- The declared keys that segments of a path are under, with the texts after them. -/
def found (tokens : List Token) (path : String) : List (String × String) :=
  (Path.segments path).filterMap (keyed? (keys tokens))

/-! ## Look-up under a key -/

theorem nodup_found_iff {tokens : List Token} {path : String} :
    ((found tokens path).map Prod.fst).Nodup ↔
      (Path.segments path).Pairwise fun one other => ∀ key ∈ keys tokens, ∀ value value',
        Path.Splits one key value → ¬ Path.Splits other key value' := by
  unfold found
  rw [List.Nodup, List.pairwise_map, List.pairwise_filterMap]
  apply List.Pairwise.iff
  intro one other
  constructor
  · intro h key hkey value value' hone hother
    exact h _ (keyed?_eq_some_iff.2 ⟨hkey, hone⟩) _ (keyed?_eq_some_iff.2 ⟨hkey, hother⟩) rfl
  · rintro h ⟨key, value⟩ hone ⟨key', value'⟩ hother heq
    rcases keyed?_eq_some_iff.1 hone with ⟨hkey, hone⟩
    rcases keyed?_eq_some_iff.1 hother with ⟨-, hother⟩
    cases (heq : key = key')
    exact h key hkey value value' hone hother

/-- The text that a path has under a key. -/
theorem lookup_found_eq_some_iff {tokens : List Token} {path : String}
    (honce : ((found tokens path).map Prod.fst).Nodup) {key value : String} :
    (found tokens path).lookup key = some value ↔
      key ∈ keys tokens ∧ ∃ segment ∈ Path.segments path, Path.Splits segment key value := by
  rw [lookup_eq_some_iff_mem honce, found, List.mem_filterMap]
  constructor
  · intro h
    rcases h with ⟨segment, hsegment, hkeyed⟩
    rcases keyed?_eq_some_iff.1 hkeyed with ⟨hkey, hsplits⟩
    exact ⟨hkey, segment, hsegment, hsplits⟩
  · intro h
    rcases h with ⟨hkey, segment, hsegment, hsplits⟩
    exact ⟨segment, hsegment, keyed?_eq_some_iff.2 ⟨hkey, hsplits⟩⟩

/-- What the segments found under keys give to keyed parameters. -/
def keyedPairs (found : List (String × String)) (tokens : List Token) : List (String × String) :=
  (keys tokens).filterMap fun name =>
    (found.lookup name).map fun value => (name, Path.decode value)

theorem keys_cons_keyed (presence : Presence) (name : String) (rest : List Token) :
    keys (.keyed presence name :: rest) = name :: keys rest := rfl

theorem keys_cons_of_not {token : Token} (h : token.isKeyed = false) (rest : List Token) :
    keys (token :: rest) = keys rest := by
  simp [keys, h]

theorem mem_keys {tokens : List Token} {name : String} :
    name ∈ keys tokens ↔ ∃ presence, Token.keyed presence name ∈ tokens := by
  simp only [keys, List.mem_filterMap, List.mem_filter]
  constructor
  · intro h
    rcases h with ⟨token, ⟨htoken, hkeyed⟩, hname⟩
    cases token with
    | keyed presence _ =>
      cases hname
      exact ⟨presence, htoken⟩
    | _ => exact Bool.noConfusion hkeyed
  · intro h
    rcases h with ⟨presence, htoken⟩
    exact ⟨_, ⟨htoken, rfl⟩, rfl⟩

/-- Keyed parameters are bound exactly if every required one has its segment. -/
theorem bindKeyed_eq_some_iff {found : List (String × String)} {tokens : List Token}
    {named : List (String × String)} :
    bindKeyed found tokens = some named ↔
      (∀ name, Token.keyed .required name ∈ tokens → (found.lookup name).isSome) ∧
        named = keyedPairs found tokens := by
  fun_induction bindKeyed found tokens generalizing named with
  | case1 =>
    constructor
    · intro hnamed
      cases hnamed
      exact ⟨by simp, rfl⟩
    · intro hnamed
      rw [hnamed.2]
      rfl
  | case2 presence name rest value hvalue ih =>
    -- The head has its segment, so only the rest can lack one.
    have hpairs : keyedPairs found (.keyed presence name :: rest) =
        (name, Path.decode value) :: keyedPairs found rest := by
      simp [keyedPairs, keys_cons_keyed, hvalue]
    have hrequired : (∀ key, Token.keyed .required key ∈ Token.keyed presence name :: rest →
          (found.lookup key).isSome) ↔
        ∀ key, Token.keyed .required key ∈ rest → (found.lookup key).isSome := by
      refine ⟨fun h key hmem => h key (List.mem_cons_of_mem _ hmem), fun h key hmem => ?_⟩
      rcases List.mem_cons.1 hmem with heq | hmem
      · cases heq
        rw [hvalue]
        rfl
      · exact h key hmem
    rw [map_cons_eq_some_iff fun _ => ih, hpairs, hrequired]
  | case3 name rest hvalue ih =>
    have hpairs : keyedPairs found (.keyed .optional name :: rest) = keyedPairs found rest := by
      simp [keyedPairs, keys_cons_keyed, hvalue]
    rw [ih, hpairs]
    simp
  | case4 name rest hvalue =>
    -- The head is required and has no segment.
    simp only [reduceCtorEq, false_iff]
    intro hnamed
    have hbad := hnamed.1 name List.mem_cons_self
    rw [hvalue] at hbad
    exact Bool.noConfusion hbad
  | case5 token rest hkeyed ih =>
    have hnot : token.isKeyed = false := by
      cases token with
      | keyed presence name => exact absurd rfl (hkeyed presence name)
      | _ => rfl
    have hpairs : keyedPairs found (token :: rest) = keyedPairs found rest := by
      simp [keyedPairs, keys_cons_of_not hnot]
    have hne : ∀ name, Token.keyed .required name ≠ token := fun name heq =>
      hkeyed .required name heq.symm
    rw [ih, hpairs]
    simp [hne]

/-- If no key is given twice, the required ones are given if a look-up finds them. -/
theorem keys_given_iff {tokens : List Token} {path : String}
    (honce : ((found tokens path).map Prod.fst).Nodup) :
    (∀ name, Token.keyed .required name ∈ tokens → ((found tokens path).lookup name).isSome) ↔
      ∀ key, Token.keyed .required key ∈ tokens →
        ∃ segment ∈ Path.segments path, ∃ value, Path.Splits segment key value := by
  apply forall₂_congr
  intro name hname
  rw [Option.isSome_iff_exists]
  constructor
  · intro h
    rcases h with ⟨value, hvalue⟩
    rcases (lookup_found_eq_some_iff honce).1 hvalue with ⟨-, segment, hsegment, hsplits⟩
    exact ⟨segment, hsegment, value, hsplits⟩
  · intro h
    rcases h with ⟨segment, hsegment, value, hsplits⟩
    have hkey : name ∈ keys tokens := mem_keys.2 ⟨_, hname⟩
    exact ⟨value, (lookup_found_eq_some_iff honce).2 ⟨hkey, segment, hsegment, hsplits⟩⟩

/-! ## What keyed parameters are bound to -/

theorem sublist_fst_keyedPairs (found : List (String × String)) (tokens : List Token) :
    ((keyedPairs found tokens).map Prod.fst).Sublist (keys tokens) := by
  unfold keyedPairs
  rw [List.map_filterMap]
  induction keys tokens with
  | nil => exact .slnil
  | cons name rest ih =>
    cases hvalue : found.lookup name with
    | none => simpa [hvalue] using ih.cons name
    | some value => simpa [hvalue] using ih.cons_cons name

theorem mem_keyedPairs_iff {tokens : List Token} {path : String}
    (honce : ((found tokens path).map Prod.fst).Nodup) {name value : String} :
    (name, value) ∈ keyedPairs (found tokens path) tokens ↔
      ∃ presence, Token.keyed presence name ∈ tokens ∧ ∃ segment ∈ Path.segments path,
        ∃ text, Path.Splits segment name text ∧ Path.decode text = value := by
  simp only [keyedPairs, List.mem_filterMap, Option.map_eq_some_iff, Prod.mk.injEq]
  constructor
  · intro h
    rcases h with ⟨key, hkey, text, hlookup, rfl, hvalue⟩
    rcases mem_keys.1 hkey with ⟨presence, htoken⟩
    rcases (lookup_found_eq_some_iff honce).1 hlookup with ⟨-, segment, hsegment, hsplits⟩
    exact ⟨presence, htoken, segment, hsegment, text, hsplits, hvalue⟩
  · intro h
    rcases h with ⟨presence, htoken, segment, hsegment, text, hsplits, hvalue⟩
    have hkey : name ∈ keys tokens := mem_keys.2 ⟨presence, htoken⟩
    have hlookup := (lookup_found_eq_some_iff honce).2 ⟨hkey, segment, hsegment, hsplits⟩
    exact ⟨name, hkey, text, hlookup, rfl, hvalue⟩

end Template

end Routing
