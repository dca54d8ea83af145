import Routing.Router

namespace Routing

/-! # The rule that answers a path

What it means that a rule is the first one to match a path, apart from how it is looked for. Main
statements: `RuleTable.firstMatch?_eq_some_iff` and `RuleTable.firstMatch?_eq_none_iff`.
-/

/-- None of the rules matches a path. -/
def Misses (rules : List Rule) (path : String) : Prop :=
  ∀ rule ∈ rules, rule.bindings? path = none

instance (rules : List Rule) : DecidablePred (Misses rules) := fun path =>
  inferInstanceAs (Decidable (∀ rule ∈ rules, rule.bindings? path = none))

/-- The rule of a visit is the first one to match a path, and takes from it what the visit holds. -/
structure Leads (rules : List Rule) (path : String) (visit : Visit) : Prop where
  taken : visit.rule.bindings? path = some visit.args
  first : ∃ before after, rules = before ++ visit.rule :: after ∧ Misses before path

/-- A rule that answers a path is one of the rules. -/
theorem Leads.mem {rules : List Rule} {path : String} {visit : Visit}
    (h : Leads rules path visit) : visit.rule ∈ rules := by
  rcases h.first with ⟨before, after, hrules, -⟩
  rw [hrules]
  exact List.mem_append_right before List.mem_cons_self

theorem Leads.not_misses {rules : List Rule} {path : String} {visit : Visit}
    (h : Leads rules path visit) : ¬ Misses rules path := by
  intro hmisses
  have htaken := h.taken
  rw [hmisses visit.rule h.mem] at htaken
  cases htaken

namespace RuleTable

variable {rules : List Rule} {path : String}

theorem firstMatch?_eq_none_iff : firstMatch? rules path = none ↔ Misses rules path := by
  simp [firstMatch?, Misses, List.findSome?_eq_none_iff]

theorem firstMatch?_eq_some_iff {visit : Visit} :
    firstMatch? rules path = some visit ↔ Leads rules path visit := by
  unfold firstMatch?
  rw [List.findSome?_eq_some_iff]
  constructor
  · intro h
    rcases h with ⟨before, rule, after, hrules, hvisit, hbefore⟩
    rcases Option.map_eq_some_iff.1 hvisit with ⟨args, htaken, rfl⟩
    have hmisses : Misses before path := fun other hother => by simpa using hbefore other hother
    exact ⟨htaken, before, after, hrules, hmisses⟩
  · intro h
    rcases h.first with ⟨before, after, hrules, hmisses⟩
    refine ⟨before, visit.rule, after, hrules, ?_, fun other hother => ?_⟩
    · rw [h.taken]
      rfl
    · rw [hmisses other hother]
      rfl

theorem misses_or_leads (rules : List Rule) (path : String) :
    Misses rules path ∨ ∃ visit, Leads rules path visit := by
  cases hmatch : firstMatch? rules path with
  | none => exact .inl (firstMatch?_eq_none_iff.1 hmatch)
  | some visit => exact .inr ⟨visit, firstMatch?_eq_some_iff.1 hmatch⟩

end RuleTable

namespace Router

variable {r : Router} {path : String}

theorem resolve_eq_ok_iff {visit : Visit} :
    r.resolve path = .ok visit ↔ RuleTable.firstMatch? r.table.rules path = some visit := by
  unfold resolve RuleTable.resolve
  cases RuleTable.firstMatch? r.table.rules path <;> simp

theorem resolve_eq_error_iff {e : Error} : r.resolve path = .error e ↔
    e = .unmatched path ∧ RuleTable.firstMatch? r.table.rules path = none := by
  unfold resolve RuleTable.resolve
  cases RuleTable.firstMatch? r.table.rules path <;> simp [eq_comm]

theorem resolve_of_misses (h : Misses r.table.rules path) :
    r.resolve path = .error (.unmatched path) :=
  resolve_eq_error_iff.2 ⟨rfl, RuleTable.firstMatch?_eq_none_iff.2 h⟩

theorem resolve_of_leads {visit : Visit} (h : Leads r.table.rules path visit) :
    r.resolve path = .ok visit :=
  resolve_eq_ok_iff.2 (RuleTable.firstMatch?_eq_some_iff.2 h)

end Router

end Routing
