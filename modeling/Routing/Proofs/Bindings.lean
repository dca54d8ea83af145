import Mathlib.Data.List.Induction
import Routing.Bindings

namespace Routing.Bindings

/-! # Look-up in bindings

Pairs under distinct names are bound as they stand, in whatever order they are bound. Main
statement: `getElem?_ofPairs_eq_some_iff`.
-/

theorem getElem?_insert (bound : Bindings) (key value name : String) :
    (bound.insert key value)[name]? = if key = name then some value else bound[name]? := by
  rw [Std.ExtTreeMap.getElem?_insert]
  simp only [Std.LawfulEqCmp.compare_eq_iff_eq]

theorem getElem?_ofPairs_eq_some_iff {pairs : List (String × String)}
    (hnodup : (pairs.map Prod.fst).Nodup) {name value : String} :
    (ofPairs pairs)[name]? = some value ↔ (name, value) ∈ pairs := by
  induction pairs using List.reverseRecOn with
  | nil => simp
  | append_singleton pairs pair ih =>
    rw [List.map_append, List.nodup_append] at hnodup
    rcases hnodup with ⟨hpairs, -, hnew⟩
    rw [ofPairs_concat, getElem?_insert, List.mem_append, List.mem_singleton]
    split
    · rename_i heq
      have hnot : (name, value) ∉ pairs := fun hmem =>
        hnew name (List.mem_map_of_mem hmem) pair.1 (by simp) heq.symm
      rw [Option.some.injEq, Prod.ext_iff]
      simp [hnot, heq, eq_comm]
    · rename_i hne
      rw [ih hpairs, Prod.ext_iff]
      simp [Ne.symm hne]

/-- Bindings are equal if they bind the same names to the same values. -/
theorem ext_some {one other : Bindings}
    (h : ∀ name value : String, one[name]? = some value ↔ other[name]? = some value) :
    one = other :=
  Std.ExtTreeMap.ext_getElem? fun name => Option.ext (h name)

/-- Bindings are made of their pairs, in any order. -/
theorem ofPairs_of_perm {pairs : List (String × String)} {bound : Bindings}
    (hperm : pairs.Perm bound.toList) : ofPairs pairs = bound := by
  have hnodup : (pairs.map Prod.fst).Nodup := by
    rw [(hperm.map Prod.fst).nodup_iff, Std.ExtTreeMap.map_fst_toList_eq_keys]
    exact Std.ExtTreeMap.nodup_keys
  apply ext_some
  intro name value
  rw [getElem?_ofPairs_eq_some_iff hnodup, hperm.mem_iff,
    Std.ExtTreeMap.mem_toList_iff_getElem?_eq_some]

end Routing.Bindings
