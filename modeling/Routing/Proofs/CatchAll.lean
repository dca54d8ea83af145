import Routing.Proofs.History
import Routing.Proofs.Priority
import Routing.Proofs.Template.Matching

namespace Routing

/-! # Templates that match every path

A wildcard after nothing but optional parameters takes whatever there is. Every other template has a
path that it does not match, and this path can be written down. In a table such a rule is the last
one that is ever reached. Main statement: `Rule.catch_all`.
-/

namespace Template

/-- A wildcard stands after nothing but optional parameters. -/
def IsCatchAll (tokens : List Token) : Prop :=
  ∃ before name, tokens = before ++ [.wildcard name] ∧
    ∀ token ∈ before, ∃ key, token = .positional .optional key

/-- A path that a template does not match for the sake of one of its tokens, or for want of a
wildcard. -/
inductive Escapes (tokens : List Token) : String → Prop
  /-- No segment is there for a token that takes one. -/
  | short {token : Token} (declared : token ∈ tokens) (takes : token.takesSegment = true) :
      Escapes tokens "/"
  /-- A key is there twice. -/
  | doubled {presence : Presence} {key : String} (declared : Token.keyed presence key ∈ tokens) :
      Escapes tokens (Path.written [key ++ "=", key ++ "="])
  /-- A segment is left, and no wildcard takes it. -/
  | long (closed : ∀ name, Token.wildcard name ∉ tokens) :
      Escapes tokens (Path.written (List.replicate (mandatory tokens + optionals tokens + 1) "x"))

/-! ## Paths that escape -/

/-- Pieces without a `=` all take their places. -/
theorem others_written {tokens : List Token} {pieces : List String}
    (hpieces : ∀ piece ∈ pieces, Path.IsSegment piece ∧ '=' ∉ piece.toList) :
    others tokens (Path.written pieces) = pieces := by
  unfold others
  rw [Path.segments_written fun piece hpiece => (hpieces piece hpiece).1]
  apply List.filter_eq_self.2
  intro piece hpiece
  rw [decide_eq_true_eq]
  rintro ⟨key, -, value, hsplits⟩
  apply (hpieces piece hpiece).2
  rw [hsplits.1]
  simp

theorem Escapes.not_matches {tokens : List Token} (htokens : IsWellFormed tokens) {path : String}
    (h : Escapes tokens path) : ¬ Matches tokens path := by
  intro hmatch
  cases h with
  | @short token declared takes =>
    -- The path has no segment, and the token needs one.
    have hnone : others tokens "/" = [] := by
      have hsegments : Path.segments "/" = [] := by decide
      rw [others, hsegments, List.filter_nil]
    have henough := hmatch.aligned.enough
    rw [hnone] at henough
    have hneeds : 0 < mandatory tokens := List.countP_pos_iff.2 ⟨token, declared, takes⟩
    exact absurd henough (Nat.not_le.2 hneeds)
  | @doubled presence key declared =>
    -- The key stands before a `=` in both segments.
    have hname := htokens.formed _ declared
    have hslash : '/' ∉ key.toList := hname.not_mem rfl
    have hsplits : Path.Splits (key ++ "=") key "" := ⟨by simp, hname.not_mem rfl⟩
    have hsegment : Path.IsSegment (key ++ "=") :=
      ⟨by simp [String.append_eq_empty_iff], by simp [hslash]⟩
    have honce := hmatch.keys_once
    rw [Path.segments_written (by simp [hsegment]), List.pairwise_pair] at honce
    exact honce key (mem_keys.2 ⟨presence, declared⟩) "" "" hsplits hsplits
  | long closed =>
    -- The path has one segment more than there are tokens to take one.
    rcases hmatch.aligned.few with ⟨name, hname⟩ | hfew
    · exact closed name hname
    · have hpieces : ∀ piece ∈ List.replicate (mandatory tokens + optionals tokens + 1) "x",
          Path.IsSegment piece ∧ '=' ∉ piece.toList := by
        intro piece hpiece
        rw [List.eq_of_mem_replicate hpiece]
        exact ⟨⟨by decide, by decide⟩, by decide⟩
      rw [others_written hpieces, List.length_replicate] at hfew
      omega

/-- A template that no path escapes is a catch-all. -/
theorem isCatchAll_or_escapes {tokens : List Token} (htokens : IsWellFormed tokens) :
    IsCatchAll tokens ∨ ∃ path, Escapes tokens path := by
  by_cases hwild : ∃ name, Token.wildcard name ∈ tokens
  swap
  · exact .inr ⟨_, .long fun name hname => hwild ⟨name, hname⟩⟩
  by_cases htakes : ∃ token ∈ tokens, token.takesSegment = true
  · rcases htakes with ⟨token, htoken, htakes⟩
    exact .inr ⟨_, .short htoken htakes⟩
  by_cases hkeyed : ∃ presence key, Token.keyed presence key ∈ tokens
  · rcases hkeyed with ⟨presence, key, htoken⟩
    exact .inr ⟨_, .doubled htoken⟩
  rcases hwild with ⟨name, hname⟩
  obtain ⟨before, after, rfl⟩ := List.append_of_mem hname
  -- Nothing stands after the wildcard.
  have hlast := (htokens.sublist (List.sublist_append_right _ _)).eq_nil_of_wildcard
  subst hlast
  refine .inl ⟨before, name, rfl, ?_⟩
  intro token htoken
  have hmem : token ∈ before ++ [.wildcard name] := List.mem_append_left _ htoken
  have htame := (List.pairwise_append.1 htokens.wildcard_last).2.2 token htoken _
    (List.mem_singleton_self _)
  rcases token with text | ⟨_ | _, key⟩ | ⟨presence, key⟩ | other
  · exact absurd ⟨_, hmem, rfl⟩ htakes
  · exact absurd ⟨_, hmem, rfl⟩ htakes
  · exact ⟨key, rfl⟩
  · exact absurd ⟨presence, key, hmem⟩ hkeyed
  · exact Bool.noConfusion htame

/-! ## No path escapes a catch-all -/

theorem IsCatchAll.takesSegment_eq_false {tokens : List Token} (h : IsCatchAll tokens)
    {token : Token} (htoken : token ∈ tokens) : token.takesSegment = false := by
  rcases h with ⟨before, name, rfl, hoptional⟩
  rcases List.mem_append.1 htoken with hmem | hmem
  · rcases hoptional token hmem with ⟨key, rfl⟩
    rfl
  · rw [List.mem_singleton.1 hmem]
    rfl

theorem IsCatchAll.keys_eq_nil {tokens : List Token} (h : IsCatchAll tokens) :
    keys tokens = [] := by
  rcases h with ⟨before, name, rfl, hoptional⟩
  rw [List.eq_nil_iff_forall_not_mem]
  intro key hkey
  rcases mem_keys.1 hkey with ⟨presence, htoken⟩
  rcases List.mem_append.1 htoken with hmem | hmem
  · rcases hoptional _ hmem with ⟨other, heq⟩
    cases heq
  · cases List.mem_singleton.1 hmem

theorem IsCatchAll.matches {tokens : List Token} (h : IsCatchAll tokens) (path : String) :
    Matches tokens path where
  keys_once := by
    rw [h.keys_eq_nil]
    exact List.pairwise_of_forall fun _ _ _ hkey => absurd hkey List.not_mem_nil
  keys_given key htoken := by
    have hkey : key ∈ keys tokens := mem_keys.2 ⟨_, htoken⟩
    rw [h.keys_eq_nil] at hkey
    exact absurd hkey List.not_mem_nil
  aligned := by
    -- No token needs a segment, and whatever is there is left for the wildcard.
    refine ⟨?_, .inl ?_, ?_⟩
    · have hnone : mandatory tokens = 0 := by
        rw [mandatory, List.countP_eq_zero]
        intro token htoken
        rw [h.takesSegment_eq_false htoken]
        exact Bool.false_ne_true
      omega
    · rcases h with ⟨before, name, rfl, -⟩
      exact ⟨name, List.mem_append_right _ (List.mem_singleton_self _)⟩
    · intro text segment hmem
      have htoken := (mem_takers (List.of_mem_zip hmem).1).1
      exact Bool.noConfusion (h.takesSegment_eq_false htoken)

theorem forall_matches_iff {tokens : List Token} (htokens : IsWellFormed tokens) :
    (∀ path, Matches tokens path) ↔ IsCatchAll tokens := by
  constructor
  · intro hall
    rcases isCatchAll_or_escapes htokens with h | ⟨path, hescapes⟩
    · exact h
    · exact absurd (hall path) (hescapes.not_matches htokens)
  · intro h path
    exact h.matches path

end Template

/-! ## Tables with such a rule -/

namespace RuleTable

/-- A rule that matches a path leaves it to none of the rules after it. -/
theorem exists_firstMatch?_of_isSome {rule : Rule} {path : String}
    (hsome : (rule.bindings? path).isSome) (before after : List Rule) :
    ∃ visit, firstMatch? (before ++ rule :: after) path = some visit ∧
      visit.rule ∈ before ++ [rule] := by
  rcases Option.isSome_iff_exists.1 hsome with ⟨args, htaken⟩
  rw [firstMatch?_append_cons, htaken]
  cases hfirst : firstMatch? before path with
  | some visit =>
    exact ⟨visit, rfl, List.mem_append_left _ (firstMatch?_eq_some_iff.1 hfirst).mem⟩
  | none => exact ⟨⟨rule, args⟩, rfl, List.mem_append_right _ (List.mem_singleton_self _)⟩

end RuleTable

namespace Router

variable {r : Router}

theorem resolve_of_isSome {before after : List Rule} {rule : Rule} {path : String}
    (hrules : r.table.rules = before ++ rule :: after) (hsome : (rule.bindings? path).isSome) :
    ∃ visit, r.resolve path = .ok visit ∧ visit.rule ∉ after := by
  rcases RuleTable.exists_firstMatch?_of_isSome hsome before after with ⟨visit, hfirst, hmem⟩
  refine ⟨visit, resolve_eq_ok_iff.2 (hrules ▸ hfirst), ?_⟩
  have hnodup := r.table.nodup
  rw [hrules, List.append_cons] at hnodup
  intro hafter
  exact (List.nodup_append.1 hnodup).2.2 visit.rule hmem visit.rule hafter rfl

/-! ## Operations on routers -/

/-- Once a rule is found, a failure is that of the handler or the want of one. -/
theorem result_dispatch_ne_unmatched (r : Router) (visit : Visit) (path : String) :
    (r.dispatch visit).result ≠ .error (.unmatched path) := by
  intro h
  cases hhandler : r.handlers[visit.rule.method]? with
  | none =>
    rw [r.dispatch_of_not_registered hhandler] at h
    cases h
  | some handler =>
    cases hfailure : (handler ⟨visit, r.last⟩).failure with
    | some causes =>
      rw [(r.dispatch_of_failure hhandler hfailure).2] at h
      cases h
    | none =>
      rw [(r.dispatch_of_success hhandler hfailure).2] at h
      cases h

theorem result_handle_ne_unmatched {visit : Visit} (h : r.resolve r.path = .ok visit)
    (path : String) : r.handle.result ≠ .error (.unmatched path) := by
  rw [handle_of_resolve_eq_ok h]
  exact r.result_dispatch_ne_unmatched (r.adjust visit) path

/-- No location of this library answers that a path is unmatched when it is written. -/
theorem exists_host_of_write_eq_unmatched {path p : String}
    (h : (r.write path).2 = .error (.unmatched p)) : ∃ host, r.location = .hosted host ∧
      (host.write (r.lead ++ path) r.addressBar).2 = .error (.unmatched p) := by
  unfold write at h
  split at h
  · cases h
  · cases h
  · cases h
  · rename_i host hlocation
    exact ⟨host, hlocation, h⟩

theorem write_eq_unmatched_of_go {path p : String}
    (hall : ∀ other, ∃ visit, r.resolve other = .ok visit)
    (h : (r.go path).result = .error (.unmatched p)) :
    (r.write path).2 = .error (.unmatched p) := by
  rcases r.write_eq path with ⟨location, addressBar, result, hwrite⟩
  cases result with
  | error e =>
    rw [go_of_write_eq_error hwrite] at h
    rw [hwrite]
    exact h
  | ok =>
    -- Whatever path is read back, some rule matches it.
    rcases hall { r with location, addressBar }.path with ⟨visit, hvisit⟩
    rw [← r.resolve_moved location addressBar] at hvisit
    rw [go_of_write_eq_ok hwrite] at h
    exact absurd h (result_handle_ne_unmatched hvisit p)

/-- Dispatching reports no rule as found. -/
theorem resolved_not_mem_dispatch (r : Router) (visit found : Visit) :
    .resolved found ∉ (r.dispatch visit).events := by
  cases hhandler : r.handlers[visit.rule.method]? with
  | none =>
    rw [r.dispatch_of_not_registered hhandler]
    exact List.not_mem_nil
  | some handler =>
    simp only [dispatch, hhandler]
    cases (handler ⟨visit, r.last⟩).failure <;> simp

theorem resolve_of_resolved_mem_handle {visit : Visit} (h : .resolved visit ∈ r.handle.events) :
    r.resolve r.path = .ok visit := by
  cases hresolve : r.resolve r.path with
  | error e =>
    rw [handle_of_resolve_eq_error hresolve] at h
    cases h
  | ok found =>
    rw [handle_of_resolve_eq_ok hresolve] at h
    rcases List.mem_cons.1 h with heq | hmem
    · cases heq
      rfl
    · exact absurd hmem (r.resolved_not_mem_dispatch _ _)

/-- What an operation reports as found was found among the rules. -/
theorem exists_resolve_of_resolved_mem {operation : Operation} {visit : Visit}
    (h : .resolved visit ∈ (r.perform operation).events) : ∃ path, r.resolve path = .ok visit := by
  cases operation with
  | handle => exact ⟨r.path, resolve_of_resolved_mem_handle h⟩
  | go path =>
    change .resolved visit ∈ (r.go path).events at h
    rcases r.write_eq path with ⟨location, addressBar, result, hwrite⟩
    cases result with
    | error e =>
      rw [go_of_write_eq_error hwrite] at h
      cases h
    | ok =>
      rw [go_of_write_eq_ok hwrite] at h
      have hfound := resolve_of_resolved_mem_handle h
      rw [resolve_moved] at hfound
      exact ⟨_, hfound⟩
  | add d =>
    rw [perform, add] at h
    split at h <;> simp at h
  | remove d =>
    rw [perform, remove] at h
    split at h <;> simp at h
  | _ => cases h

end Router

/-- A rule matches every path exactly if a wildcard is its last token and all others are optional
parameters that take a place; otherwise there is a path that escapes it, and every path that escapes
a rule fails to match it. On a router whose table holds such a rule every path is resolved, and
never to a rule after it, and no navigation fails for want of a rule: only a host may answer so when
a path is written. In any session this lasts until the rule is removed. -/
theorem Rule.catch_all (r : Rule) :
    ((∀ path, (r.bindings? path).isSome) ↔ Template.IsCatchAll r.tokens) ∧
    (¬ Template.IsCatchAll r.tokens → ∃ path, Template.Escapes r.tokens path) ∧
    (∀ path, Template.Escapes r.tokens path → r.bindings? path = none) ∧
    ∀ (router : Router) (before after : List Rule), Template.IsCatchAll r.tokens →
      router.table.rules = before ++ r :: after →
        (∀ path, ∃ visit, router.resolve path = .ok visit ∧ visit.rule ∉ after) ∧
        (∀ path, router.handle.result ≠ .error (.unmatched path)) ∧
        (∀ path p, (router.go path).result = .error (.unmatched p) →
          ∃ host, router.location = .hosted host ∧
            (host.write (router.lead ++ path) router.addressBar).2 = .error (.unmatched p)) ∧
        (∀ operation visit, .resolved visit ∈ (router.perform operation).events →
          visit.rule ∉ after) ∧
        ∀ operations, .remove r.toDeclaration ∉ operations →
          ∀ path, ∃ visit, (router.run operations).resolve path = .ok visit := by
  have htokens := r.isWellFormed
  have hmatches : (∀ path, (r.bindings? path).isSome) ↔ Template.IsCatchAll r.tokens := by
    rw [← Template.forall_matches_iff htokens]
    exact forall_congr' fun path => Template.isSome_bindings?_iff htokens
  refine ⟨hmatches, ?_, ?_, ?_⟩
  · intro hnot
    exact (Template.isCatchAll_or_escapes htokens).resolve_left hnot
  · intro path hescapes
    by_contra hsome
    have hmatch := (Template.isSome_bindings?_iff htokens).1 (Option.isSome_iff_ne_none.2 hsome)
    exact hescapes.not_matches htokens hmatch
  intro router before after hcatch hrules
  have hall := hmatches.2 hcatch
  have hresolve : ∀ path, ∃ visit, router.resolve path = .ok visit ∧ visit.rule ∉ after :=
    fun path => Router.resolve_of_isSome hrules (hall path)
  refine ⟨hresolve, ?_, ?_, ?_, ?_⟩
  · rcases hresolve router.path with ⟨visit, hvisit, -⟩
    exact Router.result_handle_ne_unmatched hvisit
  · intro path p hgo
    have hsome : ∀ other, ∃ visit, router.resolve other = .ok visit := fun other =>
      (hresolve other).imp fun _ hvisit => hvisit.1
    exact Router.exists_host_of_write_eq_unmatched (Router.write_eq_unmatched_of_go hsome hgo)
  · intro operation visit hevent
    rcases Router.exists_resolve_of_resolved_mem hevent with ⟨path, hfound⟩
    rcases hresolve path with ⟨other, hother, hnot⟩
    rw [hfound] at hother
    cases hother
    exact hnot
  · intro operations hnever path
    have hmem : r ∈ router.table.rules := by
      rw [hrules]
      exact List.mem_append_right _ List.mem_cons_self
    -- The rule may have other neighbours by then.
    obtain ⟨one, other, hsplit⟩ :=
      List.append_of_mem (Router.mem_run_of_not_removed hmem hnever)
    exact (Router.resolve_of_isSome hsplit (hall path)).imp fun _ hvisit => hvisit.1

/-- A rule after a catch-all has a path of its own and never gets it. With an optional keyed
parameter before its wildcard a rule is no catch-all: the key may be given twice. -/
theorem Rule.catch_all_before_rule :
    let first : Rule := ⟨⟨"/users/:id", "show"⟩, [.literal "users", .positional .required "id"],
      by decide +kernel⟩
    let rule : Rule := ⟨⟨"/:a?/rest:*", "any"⟩, [.positional .optional "a",
      .wildcard (some "rest")], by decide +kernel⟩
    let late : Rule := ⟨⟨"/late", "late"⟩, [.literal "late"], by decide +kernel⟩
    let keyed : Rule := ⟨⟨"/page:?/*", "list"⟩, [.keyed .optional "page", .wildcard none],
      by decide +kernel⟩
    let router := Router.new ⟨[first, rule, late], by decide, by decide⟩ "#" .addressBar
    (∀ path, (rule.bindings? path).isSome) ∧
      late.bindings? "/late" = some ∅ ∧
      router.resolve "/late" = .ok ⟨rule, .ofPairs [("a", "late"), ("rest", "")]⟩ ∧
      (∀ path, ∃ visit, router.resolve path = .ok visit ∧ visit.rule ∉ [late]) ∧
      (∀ path p, (router.go path).result ≠ .error (.unmatched p)) ∧
      keyed.bindings? "/page=/page=" = none := by
  intro first rule late keyed router
  rcases rule.catch_all with ⟨hmatches, -, -, hrouter⟩
  have hcatch : Template.IsCatchAll rule.tokens :=
    ⟨[.positional .optional "a"], some "rest", rfl, by simp⟩
  rcases hrouter router [first] [late] hcatch rfl with ⟨hresolve, -, hgo, -, -⟩
  have hescapes : Template.Escapes keyed.tokens "/page=/page=" :=
    .doubled (List.mem_cons_self : Token.keyed .optional "page" ∈ keyed.tokens)
  refine ⟨hmatches.2 hcatch, by decide +kernel, by decide +kernel, hresolve, ?_, ?_⟩
  · intro path p hbad
    rcases hgo path p hbad with ⟨host, hlocation, -⟩
    cases hlocation
  · exact keyed.catch_all.2.2.1 _ hescapes

end Routing
