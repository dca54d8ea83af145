import Routing.Proofs.Lists
import Routing.Proofs.Register
import Routing.Proofs.Resolution

namespace Routing

/-! # Priority and local edits

The first rule of a table that matches a path answers it. So a rule that is added answers only paths
that no rule answered before, and a rule that is removed leaves its own paths to the rules after it,
and all others alone. Main statements: `Router.resolve_by_priority`, and
`Router.resolve_run_of_not_removed`: a path keeps its answer until the rule behind it is removed.
-/

namespace RuleTable

/-! ## First matches in the parts of a table -/

section
variable {before after rules : List Rule} {rule : Rule} {path : String}

theorem firstMatch?_append : firstMatch? (before ++ after) path =
    (firstMatch? before path).or (firstMatch? after path) :=
  List.findSome?_append

theorem firstMatch?_append_cons : firstMatch? (before ++ rule :: after) path =
    (firstMatch? before path).or
      (((rule.bindings? path).map (Visit.mk rule)).or (firstMatch? after path)) := by
  have hsingle : firstMatch? [rule] path = (rule.bindings? path).map (Visit.mk rule) :=
    List.findSome?_singleton
  rw [List.append_cons, firstMatch?_append, firstMatch?_append, Option.or_assoc, hsingle]

/-- Without a rule, the paths that it did not answer have the answer that they had. -/
theorem firstMatch?_erase_of_ne (hnodup : rules.Nodup) (hmem : rule ∈ rules)
    (hother : ∀ visit, firstMatch? rules path = some visit → visit.rule ≠ rule) :
    firstMatch? (rules.erase rule) path = firstMatch? rules path := by
  obtain ⟨before, after, rfl⟩ := List.append_of_mem hmem
  rw [firstMatch?_append_cons] at hother
  rw [erase_append_cons hnodup, firstMatch?_append, firstMatch?_append_cons]
  cases hfirst : firstMatch? before path with
  | some visit => simp
  | none =>
    -- No rule before this one answers, so the path does not match this one either.
    cases htaken : rule.bindings? path with
    | none => simp
    | some args =>
      rw [hfirst, htaken] at hother
      exact absurd rfl (hother ⟨rule, args⟩ rfl)

/-- Without a rule, the paths that it answered go to the rules after it. -/
theorem firstMatch?_erase_of_eq (hnodup : (before ++ rule :: after).Nodup) {args : Bindings}
    (h : firstMatch? (before ++ rule :: after) path = some ⟨rule, args⟩) :
    firstMatch? ((before ++ rule :: after).erase rule) path = firstMatch? after path := by
  rw [firstMatch?_append_cons] at h
  rw [erase_append_cons hnodup, firstMatch?_append]
  cases hfirst : firstMatch? before path with
  | none => simp
  | some visit =>
    -- The rule would stand before itself.
    rw [hfirst, Option.some_or, Option.some.injEq] at h
    have hmem := (firstMatch?_eq_some_iff.1 hfirst).mem
    rw [h] at hmem
    exact absurd hmem (not_mem_before hnodup)

end

end RuleTable

namespace Router
open RuleTable (firstMatch?)

/-- What a rule that is added changes: it answers the paths that no other rule answers. -/
structure Gains (r s : Router) (rule : Rule) : Prop where
  kept : ∀ path visit, r.resolve path = .ok visit → s.resolve path = .ok visit
  gained : ∀ path e args, r.resolve path = .error e → rule.bindings? path = some args →
    s.resolve path = .ok ⟨rule, args⟩
  missed : ∀ path e, r.resolve path = .error e → rule.bindings? path = none →
    s.resolve path = .error e

/-- What a rule that is removed changes: the paths that it answered go to the first rule after it
that matches them. -/
structure Loses (r s : Router) (rule : Rule) : Prop where
  held : rule ∈ r.table.rules
  kept : ∀ path, (∀ visit, r.resolve path = .ok visit → visit.rule ≠ rule) →
    s.resolve path = r.resolve path
  passed : ∀ before after, r.table.rules = before ++ rule :: after →
    ∀ path args, r.resolve path = .ok ⟨rule, args⟩ →
      (∀ visit, s.resolve path = .ok visit ↔ Leads after path visit) ∧
      ∀ e, s.resolve path = .error e ↔ e = .unmatched path ∧ Misses after path

variable {r s : Router} {d : Declaration} {rule : Rule}

/-- Two routers answer a path alike if their tables do. -/
theorem resolve_eq_of_firstMatch?_eq {path : String}
    (h : firstMatch? s.table.rules path = firstMatch? r.table.rules path) :
    s.resolve path = r.resolve path := by
  unfold resolve RuleTable.resolve
  rw [h]

theorem gains_of_rules_eq (h : s.table.rules = r.table.rules ++ [rule]) : r.Gains s rule := by
  -- The new rule is tried after all others.
  have hmatch : ∀ path, firstMatch? s.table.rules path = (firstMatch? r.table.rules path).or
      ((rule.bindings? path).map (Visit.mk rule)) := by
    intro path
    rw [h, RuleTable.firstMatch?_append_cons]
    simp [firstMatch?]
  refine ⟨?_, ?_, ?_⟩
  · intro path visit hbefore
    rw [resolve_eq_ok_iff] at hbefore ⊢
    rw [hmatch, hbefore, Option.some_or]
  · intro path e args hbefore htaken
    rw [resolve_eq_error_iff] at hbefore
    rw [resolve_eq_ok_iff, hmatch, hbefore.2, htaken]
    rfl
  · intro path e hbefore hmiss
    rw [resolve_eq_error_iff] at hbefore ⊢
    refine ⟨hbefore.1, ?_⟩
    rw [hmatch, hbefore.2, hmiss]
    rfl

theorem loses_of_rules_eq (hmem : rule ∈ r.table.rules)
    (h : s.table.rules = r.table.rules.erase rule) : r.Loses s rule := by
  refine ⟨hmem, ?_, ?_⟩
  · intro path hother
    apply resolve_eq_of_firstMatch?_eq
    rw [h]
    apply RuleTable.firstMatch?_erase_of_ne r.table.nodup hmem
    intro visit hvisit
    exact hother visit (resolve_eq_ok_iff.2 hvisit)
  · intro before after hrules path args hanswer
    have hnodup := r.table.nodup
    rw [resolve_eq_ok_iff] at hanswer
    rw [hrules] at h hnodup hanswer
    -- The rules before the removed one did not answer, so those after it are all that is left.
    have hnext : firstMatch? s.table.rules path = firstMatch? after path := by
      rw [h]
      exact RuleTable.firstMatch?_erase_of_eq hnodup hanswer
    refine ⟨?_, ?_⟩
    · intro visit
      rw [resolve_eq_ok_iff, hnext, RuleTable.firstMatch?_eq_some_iff]
    · intro e
      rw [resolve_eq_error_iff, hnext, RuleTable.firstMatch?_eq_none_iff]

/-! ## Edits -/

theorem gains_of_add_eq_ok (h : (r.add d).result = .ok ()) :
    ∃ rule, rule.toDeclaration = d ∧ r.Gains (r.add d).router rule := by
  rcases r.added_of_add_eq_ok h with ⟨rule, hread, -, hrules⟩
  exact ⟨rule, hread, gains_of_rules_eq hrules⟩

theorem loses_of_remove_eq_ok (h : (r.remove d).result = .ok ()) :
    ∃ rule, rule.toDeclaration = d ∧ r.Loses (r.remove d).router rule := by
  cases r.table.removal d with
  | @removed rule table _ read old rules result =>
    rw [r.remove_of_ok result]
    exact ⟨rule, read, loses_of_rules_eq old rules⟩
  | incomplete _ result => simp [r.remove_of_error result] at h
  | missing _ _ result => simp [r.remove_of_error result] at h

/-- An operation that removes another rule, or none, leaves a path its answer. -/
theorem resolve_perform_of_ne {path : String} {visit : Visit} (h : r.resolve path = .ok visit)
    {operation : Operation} (hother : operation ≠ .remove visit.rule.toDeclaration) :
    (r.perform operation).router.resolve path = .ok visit := by
  have hfailed := (Step.isOrderly ⟨r, operation⟩).failed
  by_cases hresult : (r.perform operation).result = .ok ()
  swap
  · -- An operation that fails changes no rule.
    have htable : (r.perform operation).router.table = r.table := hfailed hresult
    rw [resolve, htable]
    exact h
  cases operation with
  | add d =>
    rcases gains_of_add_eq_ok hresult with ⟨rule, -, hgains⟩
    exact hgains.kept path visit h
  | remove d =>
    rcases loses_of_remove_eq_ok hresult with ⟨rule, hread, hloses⟩
    have hkept := hloses.kept path
    rw [h] at hkept
    apply hkept
    rintro _ hvisit rfl
    cases hvisit
    exact hother (congrArg Operation.remove hread.symm)
  | _ =>
    rw [resolve, (r.perform_of_request?_eq_none rfl).1]
    exact h

/-- A path keeps its answer, in any session, until the rule that gives it is removed. -/
theorem resolve_run_of_not_removed {operations : List Operation} {path : String} {visit : Visit}
    (h : r.resolve path = .ok visit)
    (hnever : .remove visit.rule.toDeclaration ∉ operations) :
    (r.run operations).resolve path = .ok visit := by
  induction operations generalizing r with
  | nil => exact h
  | cons operation operations ih =>
    rw [List.mem_cons, not_or] at hnever
    exact ih (resolve_perform_of_ne h (Ne.symm hnever.1)) hnever.2

/-- Only its own removal takes a rule out of the table. -/
theorem mem_perform_of_ne (hmem : rule ∈ r.table.rules) {operation : Operation}
    (hother : operation ≠ .remove rule.toDeclaration) :
    rule ∈ (r.perform operation).router.table.rules := by
  cases operation with
  | add d =>
    cases r.table.addition d with
    | @added new table _ _ _ rules result =>
      rw [perform, r.add_of_ok result]
      exact rules ▸ List.mem_append_left _ hmem
    | incomplete _ result | malformed _ _ result | held _ _ _ result =>
      rw [perform, r.add_of_error result]
      exact hmem
  | remove d =>
    cases r.table.removal d with
    | @removed old table _ read _ rules result =>
      -- The rule that goes is the one that the operation names.
      have hne : rule ≠ old := by
        rintro rfl
        exact hother (congrArg Operation.remove read.symm)
      rw [perform, r.remove_of_ok result]
      exact rules ▸ (List.mem_erase_of_ne hne).2 hmem
    | incomplete _ result | missing _ _ result =>
      rw [perform, r.remove_of_error result]
      exact hmem
  | _ =>
    rw [(r.perform_of_request?_eq_none rfl).1]
    exact hmem

/-- So it stays in any session until then. -/
theorem mem_run_of_not_removed {operations : List Operation} (hmem : rule ∈ r.table.rules)
    (hnever : .remove rule.toDeclaration ∉ operations) :
    rule ∈ (r.run operations).table.rules := by
  induction operations generalizing r with
  | nil => exact hmem
  | cons operation operations ih =>
    rw [List.mem_cons, not_or] at hnever
    exact ih (mem_perform_of_ne hmem (Ne.symm hnever.1)) hnever.2

/-- A path is answered by the first rule that matches it, with the values that this rule takes from
it, and fails exactly if there is none. A rule that is added gains the paths that had no answer, and
changes no other; a rule that is removed loses its own paths to the next rule that matches them, and
changes no other. -/
theorem resolve_by_priority (r : Router) :
    (∀ path visit, r.resolve path = .ok visit ↔ Leads r.table.rules path visit) ∧
    (∀ path e, r.resolve path = .error e ↔ e = .unmatched path ∧ Misses r.table.rules path) ∧
    (∀ d, (r.add d).result = .ok () →
      ∃ rule, rule.toDeclaration = d ∧ r.Gains (r.add d).router rule) ∧
    ∀ d, (r.remove d).result = .ok () →
      ∃ rule, rule.toDeclaration = d ∧ r.Loses (r.remove d).router rule := by
  refine ⟨?_, ?_, ?_, ?_⟩
  · intro path visit
    rw [resolve_eq_ok_iff, RuleTable.firstMatch?_eq_some_iff]
  · intro path e
    rw [resolve_eq_error_iff, RuleTable.firstMatch?_eq_none_iff]
  · intro d h
    exact gains_of_add_eq_ok h
  · intro d h
    exact loses_of_remove_eq_ok h

/-- Two rules share a route. A third one gains the longer paths, and when the first is removed, its
paths go to the second. -/
theorem resolve_by_priority_of_shared_route :
    let first : Rule := ⟨⟨"/notes/:id", "show"⟩, [.literal "notes", .positional .required "id"],
      by decide +kernel⟩
    let second : Rule := ⟨⟨"/notes/:id", "edit"⟩, [.literal "notes", .positional .required "id"],
      by decide +kernel⟩
    let third : Rule := ⟨⟨"/notes/*", "list"⟩, [.literal "notes", .wildcard none],
      by decide +kernel⟩
    let r : Router := Router.new ⟨[first, second], by decide, by decide⟩ "" .addressBar
    let added := r.add third.toDeclaration
    let removed := r.remove first.toDeclaration
    Leads r.table.rules "/notes/7" ⟨first, .ofPairs [("id", "7")]⟩ ∧
      Misses r.table.rules "/notes/7/x" ∧
      added.result = .ok () ∧ r.Gains added.router third ∧
      added.router.resolve "/notes/7/x" = .ok ⟨third, .ofPairs [("*", "7/x")]⟩ ∧
      removed.result = .ok () ∧ r.Loses removed.router first ∧
      removed.router.resolve "/notes/7" = .ok ⟨second, .ofPairs [("id", "7")]⟩ := by
  intro first second third r added removed
  rcases r.resolve_by_priority with ⟨hanswer, hfailure, hadd, hremove⟩
  have hadded : added.result = .ok () := by decide +kernel
  have hremoved : removed.result = .ok () := by decide +kernel
  rcases hadd _ hadded with ⟨rule, hread, hgains⟩
  rcases hremove _ hremoved with ⟨rule', hread', hloses⟩
  rw [Rule.ext_declaration hread] at hgains
  rw [Rule.ext_declaration hread'] at hloses
  have hfirst : r.resolve "/notes/7" = .ok ⟨first, .ofPairs [("id", "7")]⟩ := by decide +kernel
  have hnone : r.resolve "/notes/7/x" = .error (.unmatched "/notes/7/x") := by decide +kernel
  have htaken : third.bindings? "/notes/7/x" = some (.ofPairs [("*", "7/x")]) := by decide +kernel
  -- The second rule is all that stands after the first.
  have hsecond : Leads [second] "/notes/7" ⟨second, .ofPairs [("id", "7")]⟩ :=
    ⟨by decide +kernel, [], [], rfl, by decide⟩
  exact ⟨(hanswer _ _).1 hfirst, ((hfailure _ _).1 hnone).2, hadded, hgains,
    hgains.gained _ _ _ hnone htaken, hremoved, hloses,
    ((hloses.passed [] [second] rfl _ _ hfirst).1 _).2 hsecond⟩

end Router

end Routing
