import Mathlib.Data.List.Induction
import Routing.CommandLine.Command
import Routing.Proofs.Path.Pieces
import Routing.Proofs.Resolution

namespace Routing

/-! # Dry runs

What going to paths one after the other with idle handlers prints, said of each path by the rules
and the paths before it. What holds after some paths is the invariant `Router.IsDry`, which one more
path keeps (`Router.IsDry.go`); the report of a whole run follows from it
(`CommandLine.map_outcomeLines_goAll`). Main statement: `CommandLine.run_dispatch`.
-/

/-! ## What a dry run prints -/

/-- The visit of the nearest earlier path that some rule matches. -/
inductive Nearest (rules : List Rule) (earlier : List String) : Option Visit → Prop
  | none (misses : ∀ path ∈ earlier, Misses rules path) : Nearest rules earlier none
  | some {before after : List String} {path : String} {visit : Visit}
      (split : earlier = before ++ path :: after) (leads : Leads rules path visit)
      (misses : ∀ other ∈ after, Misses rules other) : Nearest rules earlier (some visit)

/-- The bound values, listed by name. -/
structure Lists (entries : List (String × String)) (bound : Bindings) : Prop where
  sorted : entries.Pairwise fun one other => one.1 < other.1
  mem_iff : ∀ name value, (name, value) ∈ entries ↔ bound[name]? = some value

namespace CommandLine

/-- What is printed for a path: the rule that answers it, the route answered before, and the bound
values; or that there is no such rule. -/
inductive Reports (rules : List Rule) (earlier : List String) (path : String) : String → Prop
  | called {visit : Visit} {last : Option Visit} {entries : List (String × String)}
      (leads : Leads rules path visit) (nearest : Nearest rules earlier last)
      (lists : Lists entries visit.args) :
      Reports rules earlier path
        ("→ " ++ path ++ "\n" ++
          ("  ✓ " ++ visit.rule.method ++ " (last: "
            ++ (last.map fun v => v.rule.route).getD "(none)" ++ ")\n"
            ++ String.join (entries.map fun (name, value) =>
                "    " ++ name ++ " = " ++ Text.quote value ++ "\n")))
  | lost (misses : Misses rules path) :
      Reports rules earlier path
        ("→ " ++ path ++ "\n" ++ ("  ✗ " ++ ("no route matches `" ++ path ++ "`") ++ "\n"))

/-- What is printed at the end: how many of all paths no rule matched, if there were any. -/
def closing (missed total : Nat) : String :=
  if missed = 0 then "" else s!"\n{missed} of {total} paths failed to dispatch\n"

end CommandLine

/-- Bound values are listed by name. -/
theorem Bindings.lists_toList (bound : Bindings) : Lists bound.toList bound where
  sorted := by
    have hordered := Std.ExtTreeMap.ordered_keys_toList (t := bound)
    exact hordered.imp fun h => compareOfLessAndEq_eq_lt.1 h
  mem_iff _ _ := Std.ExtTreeMap.mem_toList_iff_getElem?_eq_some

/-- The visit of the last of the paths that some rule matches. -/
def RuleTable.lastMatch? (rules : List Rule) (earlier : List String) : Option Visit :=
  (earlier.filterMap (firstMatch? rules)).getLast?

theorem RuleTable.lastMatch?_concat (rules : List Rule) (earlier : List String) (path : String) :
    lastMatch? rules (earlier ++ [path]) =
      (firstMatch? rules path).or (lastMatch? rules earlier) := by
  unfold lastMatch?
  rw [List.filterMap_append, List.getLast?_append]
  cases hmatch : firstMatch? rules path <;> simp [hmatch]

theorem RuleTable.nearest_lastMatch? (rules : List Rule) (earlier : List String) :
    Nearest rules earlier (lastMatch? rules earlier) := by
  induction earlier using List.reverseRecOn with
  | nil => exact .none (by simp)
  | append_singleton earlier path ih =>
    rw [lastMatch?_concat]
    cases hmatch : firstMatch? rules path with
    | some visit =>
      have hleads := firstMatch?_eq_some_iff.1 hmatch
      exact .some rfl hleads (by simp)
    | none =>
      -- A path without a match leaves the nearest one where it was.
      have hmisses := firstMatch?_eq_none_iff.1 hmatch
      rw [Option.none_or]
      generalize lastMatch? rules earlier = last at ih
      cases ih with
      | none hearlier => exact .none (List.forall_mem_append.2 ⟨hearlier, by simpa using hmisses⟩)
      | some hsplit hleads hafter =>
        rw [hsplit, List.append_assoc, List.cons_append]
        exact .some rfl hleads (List.forall_mem_append.2 ⟨hafter, by simpa using hmisses⟩)

/-! ## Idle handlers -/

namespace CommandLine

/-- Handlers once the methods of rules are registered, and those from before. -/
theorem getElem?_foldl_insert_idle (rules : List Rule) (handlers : Handlers) (method : String) :
    (rules.foldl (fun handlers rule => handlers.insert rule.method idle) handlers)[method]? =
      if method ∈ rules.map fun rule => rule.method then some idle else handlers[method]? := by
  induction rules generalizing handlers with
  | nil => simp
  | cons rule rules ih =>
    rw [List.foldl_cons, ih, Std.ExtTreeMap.getElem?_insert]
    -- A method that two rules share gets the same handler twice.
    by_cases heq : rule.method = method
    · simp [heq]
    · simp [heq, Ne.symm heq]

/-- Exactly the methods of a table have a handler. -/
theorem getElem?_idleHandlers (table : RuleTable) (method : String) :
    (idleHandlers table)[method]? =
      if method ∈ table.rules.map fun rule => rule.method then some idle else none := by
  have hfold := getElem?_foldl_insert_idle table.rules ∅ method
  rw [Std.ExtTreeMap.getElem?_empty] at hfold
  exact hfold

end CommandLine

/-! ## One path -/

namespace Router

/-- A router with idle handlers for its rules that has gone to some paths. -/
structure IsDry (rules : List Rule) (earlier : List String) (r : Router) : Prop where
  table : r.table.rules = rules
  handlers : ∀ rule ∈ rules, r.handlers[rule.method]? = some CommandLine.idle
  location : ∃ held, r.location = .memory held
  adjust : r.adjust = id
  last : r.last = RuleTable.lastMatch? rules earlier

theorem isDry_idling (table : RuleTable) (lead : String) (location : Location) :
    IsDry table.rules [] (Router.new table lead location).idling where
  table := rfl
  handlers rule hrule := by
    have hmethod : rule.method ∈ table.rules.map fun rule => rule.method :=
      List.mem_map_of_mem hrule
    exact (CommandLine.getElem?_idleHandlers table rule.method).trans (if_pos hmethod)
  location := ⟨"/", rfl⟩
  adjust := rfl
  last := rfl

section
variable {rules : List Rule} {earlier : List String} {r : Router} (h : IsDry rules earlier r)
  {path : String}
include h

/-- The path is written after the lead, and handled as it was written. -/
theorem IsDry.go_eq_handle (path : String) :
    { r with location := .memory (r.lead ++ path) }.path = path ∧
      r.go path = { r with location := .memory (r.lead ++ path) }.handle := by
  rcases h.location with ⟨held, hheld⟩
  refine ⟨Path.dropLead_append r.lead path, go_of_write_eq_ok ?_⟩
  rw [write, hheld]

/-- Without a rule for the path nothing is called. The path in the error is the one gone to: the
lead before it is dropped again. -/
theorem IsDry.go_of_misses (hmisses : Misses rules path) :
    r.go path =
      ⟨{ r with location := .memory (r.lead ++ path) }, [], .error (.unmatched path)⟩ := by
  rcases h.go_eq_handle path with ⟨hpath, hgo⟩
  rw [hgo]
  apply handle_of_resolve_eq_error
  rw [hpath]
  exact resolve_of_misses (h.table.symm ▸ hmisses)

/-- The handler of the first rule for the path is called, and does not fail. -/
theorem IsDry.go_of_leads {visit : Visit} (hleads : Leads rules path visit) :
    r.go path =
      ⟨{ r with location := .memory (r.lead ++ path), current := some visit, last := some visit },
        [.resolved visit, .called visit.rule.method ⟨visit, r.last⟩], .ok ()⟩ := by
  rcases h.go_eq_handle path with ⟨hpath, hgo⟩
  have hresolve : { r with location := .memory (r.lead ++ path) }.resolve
      { r with location := .memory (r.lead ++ path) }.path = .ok visit := by
    rw [hpath]
    exact resolve_of_leads (h.table.symm ▸ hleads)
  have hhandler := h.handlers visit.rule hleads.mem
  rw [hgo, handle_of_resolve_eq_ok hresolve]
  simp only [h.adjust, id, dispatch, hhandler, CommandLine.idle]

theorem IsDry.go (path : String) : IsDry rules (earlier ++ [path]) (r.go path).router := by
  rcases RuleTable.misses_or_leads rules path with hmisses | ⟨visit, hleads⟩
  · rw [h.go_of_misses hmisses]
    refine ⟨h.table, h.handlers, ⟨_, rfl⟩, h.adjust, ?_⟩
    rw [RuleTable.lastMatch?_concat, RuleTable.firstMatch?_eq_none_iff.2 hmisses, Option.none_or]
    exact h.last
  · rw [h.go_of_leads hleads]
    refine ⟨h.table, h.handlers, ⟨_, rfl⟩, h.adjust, ?_⟩
    rw [RuleTable.lastMatch?_concat, RuleTable.firstMatch?_eq_some_iff.2 hleads, Option.some_or]

end

end Router

/-! ## All paths -/

namespace CommandLine

/-- What is printed for a path after earlier ones. -/
def pathText (rules : List Rule) (earlier : List String) (path : String) : String :=
  match RuleTable.firstMatch? rules path with
  | some visit =>
    "→ " ++ path ++ "\n" ++ callText ⟨visit, RuleTable.lastMatch? rules earlier⟩
  | none => "→ " ++ path ++ "\n" ++ ("  ✗ " ++ (Error.unmatched path).message ++ "\n")

theorem reports_pathText (rules : List Rule) (earlier : List String) (path : String) :
    Reports rules earlier path (pathText rules earlier path) := by
  unfold pathText
  rcases RuleTable.misses_or_leads rules path with hmisses | ⟨visit, hleads⟩
  · rw [RuleTable.firstMatch?_eq_none_iff.2 hmisses]
    exact .lost hmisses
  · rw [RuleTable.firstMatch?_eq_some_iff.2 hleads]
    exact .called hleads (RuleTable.nearest_lastMatch? rules earlier) visit.args.lists_toList

section
variable {rules : List Rule} {earlier : List String} {r : Router}
  (h : Router.IsDry rules earlier r)
include h

theorem outcomeLines_go (path : String) :
    outcomeLines path (r.go path) = pathText rules earlier path := by
  unfold pathText
  rcases RuleTable.misses_or_leads rules path with hmisses | ⟨visit, hleads⟩
  · rw [h.go_of_misses hmisses, RuleTable.firstMatch?_eq_none_iff.2 hmisses]
    simp [outcomeLines]
  · rw [h.go_of_leads hleads, RuleTable.firstMatch?_eq_some_iff.2 hleads]
    simp [outcomeLines, h.last]

/-- Going to a path fails if no rule matches it, and in no other way. -/
theorem result_go (path : String) :
    (r.go path).result = if Misses rules path then .error (.unmatched path) else .ok () := by
  rcases RuleTable.misses_or_leads rules path with hmisses | ⟨visit, hleads⟩
  · rw [h.go_of_misses hmisses, if_pos hmisses]
  · rw [h.go_of_leads hleads, if_neg hleads.not_misses]

/-- The text for each path is told by the paths before it. -/
theorem map_outcomeLines_goAll (paths : List String) :
    ((goAll r paths).map fun entry => outcomeLines entry.1 entry.2) =
      paths.mapIdx fun i path => pathText rules (earlier ++ paths.take i) path := by
  induction paths generalizing earlier r with
  | nil => rfl
  | cons path paths ih =>
    have hhere := outcomeLines_go h path
    have hrest := ih (h.go path)
    rw [goAll, List.map_cons, List.mapIdx_cons, hrest, hhere]
    simp

theorem map_result_goAll (paths : List String) :
    ((goAll r paths).map fun entry => (entry.1, entry.2.result)) =
      paths.map fun path =>
        (path, if Misses rules path then .error (.unmatched path) else .ok ()) := by
  induction paths generalizing earlier r with
  | nil => rfl
  | cons path paths ih =>
    have hhere := result_go h path
    have hrest := ih (h.go path)
    rw [goAll, List.map_cons, List.map_cons, hrest, hhere]

/-- No handler is missing, and none fails. -/
theorem result_of_mem_goAll {paths : List String} {entry : String × Outcome}
    (hentry : entry ∈ goAll r paths) :
    entry.2.result = .ok () ∨ entry.2.result = .error (.unmatched entry.1) := by
  have hmem := List.mem_map_of_mem (f := fun entry => (entry.1, entry.2.result)) hentry
  rw [map_result_goAll h] at hmem
  rcases List.mem_map.1 hmem with ⟨path, -, heq⟩
  rw [Prod.mk.injEq] at heq
  rcases heq with ⟨hpath, hresult⟩
  rw [← hresult, ← hpath]
  by_cases hmisses : Misses rules path
  · exact .inr (if_pos hmisses)
  · exact .inl (if_neg hmisses)

theorem countP_failed_goAll (paths : List String) :
    (goAll r paths).countP (fun (_, outcome) => outcome.result matches .error _) =
      paths.countP (Misses rules) := by
  have hresults := congrArg (List.countP fun seen => seen.2 matches .error _)
    (map_result_goAll h paths)
  rw [List.countP_map, List.countP_map] at hresults
  refine hresults.trans (List.countP_congr fun path hpath => ?_)
  by_cases hmisses : Misses rules path <;> simp [hmisses]

end

/-! ## Any file of settings -/

/-- The report on paths, by the rules alone. -/
def report (rules : List Rule) (paths : List String) : String :=
  "Dispatching (dry run)...\n\n"
    ++ String.join (paths.mapIdx fun i path => pathText rules (paths.take i) path)
    ++ closing (paths.countP (Misses rules)) paths.length

theorem dryRun_eq_report (table : RuleTable) (lead : String) (location : Location)
    (paths : List String) :
    dryRun (.new table lead location) paths = report table.rules paths := by
  have hdry := Router.isDry_idling table lead location
  have hlines : ((goAll (Router.new table lead location).idling paths).map fun entry =>
      outcomeLines entry.1 entry.2) =
      paths.mapIdx fun i path => pathText table.rules (paths.take i) path :=
    map_outcomeLines_goAll hdry paths
  have hfailed := countP_failed_goAll hdry paths
  unfold report closing
  rw [← hlines, ← hfailed]
  rfl

/-- A router is opened on the table of the rules in the settings, or on nothing. -/
theorem openRouter_of_load {fileName : String} {source : Settings.Source} {settings : Settings}
    (hload : Settings.load fileName source = .ok settings) :
    openRouter fileName source =
      ((RuleTable.ofDeclarations settings.rules).mapError fun e =>
        .doing "Invalid rule in config" (Failure.ofError e)).map
          fun table => .new table settings.lead (.memory settings.start) := by
  unfold openRouter Router.ofSettings
  rw [hload]
  cases htable : RuleTable.ofDeclarations settings.rules with
  | error e => simp [htable, bind, Except.bind, Except.mapError, Except.map]
  | ok table => simp [htable, bind, Except.bind, Except.mapError, Except.map, pure, Except.pure]

/-- A router that is opened comes from settings that can be loaded, and their rules. -/
theorem openRouter_eq_ok_iff {fileName : String} {source : Settings.Source} {r : Router} :
    openRouter fileName source = .ok r ↔ ∃ settings table,
      Settings.load fileName source = .ok settings ∧
        RuleTable.ofDeclarations settings.rules = .ok table ∧
        r = .new table settings.lead (.memory settings.start) := by
  cases hload : Settings.load fileName source with
  | error f =>
    unfold openRouter
    rw [hload]
    simp [bind, Except.bind]
  | ok settings =>
    rw [openRouter_of_load hload]
    cases htable : RuleTable.ofDeclarations settings.rules with
    | error e => simp [htable, Except.mapError, Except.map]
    | ok table => simp [htable, Except.mapError, Except.map, eq_comm]

theorem exists_of_openRouter {fileName : String} {source : Settings.Source} {r : Router}
    (hopen : openRouter fileName source = .ok r) :
    ∃ table lead start, r = .new table lead (.memory start) := by
  rcases openRouter_eq_ok_iff.1 hopen with ⟨settings, table, -, -, rfl⟩
  exact ⟨table, settings.lead, settings.start, rfl⟩

/-- The report depends on nothing but the rules in the settings. -/
theorem run_dispatch_of_load {fileName : String} {source : Settings.Source} {settings : Settings}
    (hload : Settings.load fileName source = .ok settings) (paths : List String) :
    (Command.dispatch paths).run fileName source =
      ((RuleTable.ofDeclarations settings.rules).mapError fun e =>
        .doing "Invalid rule in config" (Failure.ofError e)).map
          fun table => report table.rules paths := by
  unfold Command.run
  rw [openRouter_of_load hload]
  cases RuleTable.ofDeclarations settings.rules with
  | error e => rfl
  | ok table => exact congrArg Except.ok (dryRun_eq_report table settings.lead _ paths)

/-- On every router that settings open, a dry run succeeds and reports on each path in turn, and at
the end on how many paths no rule matches. No handler is missing and none fails. Two files of
settings with the same rules give the same report, whatever their lead and start are. -/
theorem run_dispatch (fileName : String) (source : Settings.Source) (r : Router)
    (paths : List String) (hopen : openRouter fileName source = .ok r) :
    (∃ texts : List String, texts.length = paths.length ∧
      (∀ i path text, paths[i]? = some path → texts[i]? = some text →
        Reports r.table.rules (paths.take i) path text) ∧
      (Command.dispatch paths).run fileName source =
        .ok ("Dispatching (dry run)...\n\n" ++ String.join texts
          ++ closing (paths.countP (Misses r.table.rules)) paths.length)) ∧
    (∀ entry ∈ goAll r.idling paths,
      entry.2.result = .ok () ∨ entry.2.result = .error (.unmatched entry.1)) ∧
    ∀ fileName' source' settings settings', Settings.load fileName source = .ok settings →
      Settings.load fileName' source' = .ok settings' → settings'.rules = settings.rules →
        (Command.dispatch paths).run fileName' source' =
          (Command.dispatch paths).run fileName source := by
  rcases exists_of_openRouter hopen with ⟨table, lead, start, rfl⟩
  have hdry := Router.isDry_idling table lead (.memory start)
  refine ⟨⟨paths.mapIdx fun i path => pathText table.rules (paths.take i) path, ?_, ?_, ?_⟩, ?_, ?_⟩
  · exact List.length_mapIdx
  · intro i path text hpath htext
    rw [List.getElem?_mapIdx, hpath, Option.map_some, Option.some.injEq] at htext
    rw [← htext]
    exact reports_pathText table.rules (paths.take i) path
  · unfold Command.run
    rw [hopen]
    exact congrArg Except.ok (dryRun_eq_report table lead (.memory start) paths)
  · intro entry hentry
    exact result_of_mem_goAll hdry hentry
  · intro fileName' source' settings settings' hload hload' hrules
    rw [run_dispatch_of_load hload', run_dispatch_of_load hload, hrules]

/-- Two rules with one method, a lead before every path, and a path without a rule between
others. -/
theorem run_dispatch_of_shared_method :
    ∃ (source : Settings.Source) (r : Router) (paths : List String),
      source = .bytes (Path.utf8 (
        "routing = [\"/app\"]\n"
          ++ "rules = [[\"/u/:id/p:?\", \"show\"], [\"/u/*\", \"show\"]]\n").toList) ∧
      paths = ["/u/7/p=a%20b", "/app", "/u"] ∧
      openRouter "routes.toml" source = .ok r ∧
      (Command.dispatch paths).run "routes.toml" source =
        .ok ("Dispatching (dry run)...\n\n"
          ++ "→ /u/7/p=a%20b\n  ✓ show (last: (none))\n    id = \"7\"\n    p = \"a b\"\n"
          ++ "→ /app\n  ✗ no route matches `/app`\n"
          ++ "→ /u\n  ✓ show (last: /u/:id/p:?)\n    * = \"\"\n"
          ++ "\n1 of 3 paths failed to dispatch\n") ∧
      ∃ texts : List String, texts.length = paths.length ∧
        (∀ i path text, paths[i]? = some path → texts[i]? = some text →
          Reports r.table.rules (paths.take i) path text) ∧
        (Command.dispatch paths).run "routes.toml" source =
          .ok ("Dispatching (dry run)...\n\n" ++ String.join texts
            ++ closing (paths.countP (Misses r.table.rules)) paths.length) := by
  let source : Settings.Source := .bytes (Path.utf8 (
    "routing = [\"/app\"]\n"
      ++ "rules = [[\"/u/:id/p:?\", \"show\"], [\"/u/*\", \"show\"]]\n").toList)
  let paths := ["/u/7/p=a%20b", "/app", "/u"]
  have hprinted : (Command.dispatch paths).run "routes.toml" source =
      .ok ("Dispatching (dry run)...\n\n"
        ++ "→ /u/7/p=a%20b\n  ✓ show (last: (none))\n    id = \"7\"\n    p = \"a b\"\n"
        ++ "→ /app\n  ✗ no route matches `/app`\n"
        ++ "→ /u\n  ✓ show (last: /u/:id/p:?)\n    * = \"\"\n"
        ++ "\n1 of 3 paths failed to dispatch\n") := by decide +kernel
  cases hopen : openRouter "routes.toml" source with
  | error e =>
    rw [Command.run, hopen] at hprinted
    cases hprinted
  | ok r =>
    have hreport := (run_dispatch "routes.toml" source r paths hopen).1
    exact ⟨source, r, paths, rfl, rfl, hopen, hprinted, hreport⟩

end CommandLine

end Routing
