import Routing.CommandLine.Ending
import Routing.Proofs.Bindings
import Routing.Proofs.DryRun
import Routing.Proofs.Generation
import Routing.Proofs.Lists
import Routing.Proofs.Template.Keyed

namespace Routing

/-! # Values on the command line

What arguments `key=value` bind, said of all of them at once: the value of a name is what its last
argument gives, and the first argument that gives nothing decides the failure. No name of a
parameter holds a `=`, so the arguments that are written from bindings give these bindings back, in
any order, and the path of a route can be had for all values that there are. Main statement:
`CommandLine.run_render`.
-/

namespace CommandLine

/-! ## What arguments give -/

/-- The argument gives a value to a name: they stand after and before its first `=`, and the name is
not empty. -/
def Gives (argument name value : String) : Prop := Path.Splits argument name value ∧ name ≠ ""

/-- The failure of an argument that gives no value to a name. -/
inductive Misgives (argument : String) : Failure → Prop
  | bare (absent : '=' ∉ argument.toList) :
      Misgives argument (.message ("Expected key=value, got `" ++ argument ++ "`"))
  | nameless {value : String} (first : argument = "=" ++ value) :
      Misgives argument (.message ("Empty parameter name in `" ++ argument ++ "`"))

/-- The value that the last argument for a name gives to it. -/
def LastGives (arguments : List String) (name value : String) : Prop :=
  ∃ before argument after, arguments = before ++ argument :: after ∧ Gives argument name value ∧
    ∀ other ∈ after, ∀ text, ¬ Gives other name text

/-- The argument for a name and its value. -/
def argumentFor (entry : String × String) : String := entry.1 ++ "=" ++ entry.2

/-! ## One argument -/

theorem Gives.unique {argument name value name' value' : String} (h : Gives argument name value)
    (h' : Gives argument name' value') : name = name' ∧ value = value' :=
  h.1.unique h'.1

theorem gives_or_misgives (argument : String) :
    (∃ name value, Gives argument name value) ∨ ∃ f, Misgives argument f := by
  by_cases hmem : '=' ∈ argument.toList
  · rcases List.eq_append_cons_of_mem hmem with ⟨before, after, hchars, hfree⟩
    have hsplits : Path.Splits argument (String.ofList before) (String.ofList after) := by
      refine ⟨?_, by simpa using hfree⟩
      rw [← String.toList_inj]
      simp [hchars]
    by_cases hempty : String.ofList before = ""
    · have hfirst := hsplits.1
      rw [hempty, String.empty_append] at hfirst
      exact .inr ⟨_, .nameless hfirst⟩
    · exact .inl ⟨_, _, hsplits, hempty⟩
  · exact .inr ⟨_, .bare hmem⟩

theorem bindArgument_of_gives {argument name value : String} (h : Gives argument name value)
    (bound : Bindings) : bindArgument bound argument = .ok (bound.insert name value) := by
  rcases h with ⟨hsplits, hname⟩
  have hcut := Path.splits_iff.1 hsplits
  -- The first part of the cut is not empty.
  obtain ⟨c, cs, hchars⟩ := List.exists_cons_of_ne_nil (by simpa using hname : name.toList ≠ [])
  rw [bindArgument, hcut, hchars]
  simp only [← hchars, String.ofList_toList]

theorem bindArgument_of_misgives {argument : String} {f : Failure} (h : Misgives argument f)
    (bound : Bindings) : bindArgument bound argument = .error f := by
  cases h with
  | bare absent =>
    rw [bindArgument, Text.cut?_eq_none_iff.2 absent]
    rfl
  | @nameless value first =>
    have hcut : Text.cut? '=' argument.toList = some ([], value.toList) :=
      Text.cut?_eq_some_iff.2 ⟨by simp [first], List.not_mem_nil⟩
    rw [bindArgument, hcut]
    rfl

theorem bindArgument_eq_ok_iff {bound values : Bindings} {argument : String} :
    bindArgument bound argument = .ok values ↔
      ∃ name value, Gives argument name value ∧ values = bound.insert name value := by
  constructor
  · intro h
    rcases gives_or_misgives argument with ⟨name, value, hgives⟩ | ⟨f, hmisgives⟩
    · rw [bindArgument_of_gives hgives] at h
      cases h
      exact ⟨name, value, hgives, rfl⟩
    · rw [bindArgument_of_misgives hmisgives] at h
      cases h
  · intro h
    rcases h with ⟨name, value, hgives, rfl⟩
    exact bindArgument_of_gives hgives bound

theorem bindArgument_eq_error_iff {bound : Bindings} {argument : String} {f : Failure} :
    bindArgument bound argument = .error f ↔ Misgives argument f := by
  refine eq_error_iff_of_cases (fun _ h => bindArgument_of_misgives h bound) ?_
  refine (gives_or_misgives argument).imp_left ?_
  rintro ⟨name, value, hgives⟩
  exact ⟨_, bindArgument_of_gives hgives bound⟩

/-! ## All arguments -/

theorem bindings_concat (arguments : List String) (argument : String) :
    bindings (arguments ++ [argument]) =
      bindings arguments >>= fun bound => bindArgument bound argument := by
  simp [bindings]

/-- What the last of some arguments gives stands, and the others count for the other names. -/
theorem lastGives_concat_iff {arguments : List String} {argument key text name value : String}
    (hlast : Gives argument key text) :
    LastGives (arguments ++ [argument]) name value ↔
      if key = name then text = value else LastGives arguments name value := by
  constructor
  · intro h
    rcases h with ⟨before, one, after, hsplit, hgives, hafter⟩
    rcases List.eq_nil_or_concat after with rfl | ⟨after, last, rfl⟩
    · rcases List.append_inj' hsplit rfl with ⟨-, heq⟩
      cases heq
      rcases hlast.unique hgives with ⟨hkey, htext⟩
      rw [if_pos hkey]
      exact htext
    · -- The last argument is for another name.
      rw [List.concat_eq_append, ← List.cons_append, ← List.append_assoc] at hsplit
      rcases List.append_inj' hsplit rfl with ⟨hbefore, heq⟩
      cases heq
      rw [List.concat_eq_append, List.forall_mem_append] at hafter
      have hkey : key ≠ name := by
        rintro rfl
        exact hafter.2 argument (List.mem_singleton_self argument) text hlast
      rw [if_neg hkey]
      exact ⟨before, one, after, hbefore, hgives, hafter.1⟩
  · intro h
    split at h
    · rename_i hkey
      rw [← hkey, ← h]
      exact ⟨arguments, argument, [], rfl, hlast, by simp⟩
    · rename_i hkey
      rcases h with ⟨before, one, after, rfl, hgives, hafter⟩
      refine ⟨before, one, after ++ [argument], by simp, hgives, ?_⟩
      refine List.forall_mem_append.2 ⟨hafter, ?_⟩
      intro other hother other_text hother_gives
      rw [List.mem_singleton.1 hother] at hother_gives
      exact hkey (hlast.unique hother_gives).1

/-- Arguments can be bound exactly if each of them gives a value. -/
theorem exists_bindings_iff {arguments : List String} :
    (∃ values, bindings arguments = .ok values) ↔
      ∀ argument ∈ arguments, ∃ name value, Gives argument name value := by
  -- The last argument is bound after all others, so the induction takes it off the end.
  induction arguments using List.reverseRecOn with
  | nil => exact ⟨fun _ => by simp, fun _ => ⟨∅, rfl⟩⟩
  | append_singleton arguments argument ih =>
    rw [List.forall_mem_append, ← ih, bindings_concat]
    constructor
    · intro h
      rcases h with ⟨values, hvalues⟩
      cases hbound : bindings arguments with
      | error f =>
        rw [hbound] at hvalues
        cases hvalues
      | ok bound =>
        rw [hbound] at hvalues
        rcases bindArgument_eq_ok_iff.1 hvalues with ⟨name, value, hgives, -⟩
        exact ⟨⟨bound, rfl⟩, by simpa using ⟨name, value, hgives⟩⟩
    · intro h
      rcases h with ⟨⟨bound, hbound⟩, hlast⟩
      rcases hlast argument (List.mem_singleton_self argument) with ⟨name, value, hgives⟩
      rw [hbound]
      exact ⟨_, bindArgument_of_gives hgives bound⟩

/-- A name has the value that its last argument gives. -/
theorem getElem?_of_bindings {arguments : List String} {values : Bindings}
    (h : bindings arguments = .ok values) (name value : String) :
    values[name]? = some value ↔ LastGives arguments name value := by
  induction arguments using List.reverseRecOn generalizing values with
  | nil =>
    cases h
    simp [LastGives]
  | append_singleton arguments argument ih =>
    rw [bindings_concat] at h
    cases hbound : bindings arguments with
    | error f =>
      rw [hbound] at h
      cases h
    | ok bound =>
      rw [hbound] at h
      rcases bindArgument_eq_ok_iff.1 h with ⟨key, text, hgives, rfl⟩
      -- The last argument overrides what those before it give to its name.
      rw [Bindings.getElem?_insert, lastGives_concat_iff hgives, ← ih hbound]
      split
      · rw [Option.some.injEq]
      · rfl

/-- The first argument that gives no value decides the failure. -/
theorem bindings_eq_error_iff {arguments : List String} {f : Failure} :
    bindings arguments = .error f ↔ ∃ before argument after,
      arguments = before ++ argument :: after ∧
        (∀ other ∈ before, ∃ name value, Gives other name value) ∧ Misgives argument f := by
  unfold bindings
  rw [foldlM_eq_error_iff]
  constructor
  · intro h
    rcases h with ⟨before, argument, after, bound, hsplit, hbound, hargument⟩
    exact ⟨before, argument, after, hsplit, exists_bindings_iff.1 ⟨bound, hbound⟩,
      bindArgument_eq_error_iff.1 hargument⟩
  · intro h
    rcases h with ⟨before, argument, after, hsplit, hbefore, hmisgives⟩
    rcases exists_bindings_iff.2 hbefore with ⟨bound, hbound⟩
    exact ⟨before, argument, after, bound, hsplit, hbound, bindArgument_of_misgives hmisgives bound⟩

/-! ## Arguments from bindings -/

theorem gives_argumentFor {entry : String × String} (hname : entry.1 ≠ "")
    (hfree : '=' ∉ entry.1.toList) : Gives (argumentFor entry) entry.1 entry.2 :=
  ⟨⟨rfl, hfree⟩, hname⟩

/-- Entries under names without a `=` are bound as they stand. -/
theorem bindings_map_argumentFor {entries : List (String × String)}
    (h : ∀ entry ∈ entries, entry.1 ≠ "" ∧ '=' ∉ entry.1.toList) :
    bindings (entries.map argumentFor) = .ok (.ofPairs entries) := by
  induction entries using List.reverseRecOn with
  | nil => rfl
  | append_singleton entries entry ih =>
    rw [List.forall_mem_append] at h
    rcases h.2 entry (List.mem_singleton_self entry) with ⟨hname, hfree⟩
    rw [List.map_append, List.map_singleton, bindings_concat, ih h.1, Bindings.ofPairs_concat]
    exact bindArgument_of_gives (gives_argumentFor hname hfree) _

/-- All values for names of a template can be given, in any order. -/
theorem bindings_of_perm (r : Rule) {values : Bindings} {entries : List (String × String)}
    (hnames : ∀ name ∈ values, name ∈ Template.names r.tokens)
    (hperm : entries.Perm values.toList) : bindings (entries.map argumentFor) = .ok values := by
  have hentries : ∀ entry ∈ entries, entry.1 ≠ "" ∧ '=' ∉ entry.1.toList := by
    intro entry hentry
    have hget := Std.ExtTreeMap.mem_toList_iff_getElem?_eq_some.1 (hperm.mem_iff.1 hentry)
    have hmem : entry.1 ∈ values := by
      rw [Std.ExtTreeMap.mem_iff_isSome_getElem?, hget]
      rfl
    rcases r.isWellFormed.isName_or_eq_anonymous (hnames entry.1 hmem) with hname | hname
    · exact ⟨hname.1, hname.not_mem rfl⟩
    · rw [hname]
      decide
  rw [bindings_map_argumentFor hentries, Bindings.ofPairs_of_perm hperm]

/-! ## The path of a route -/

theorem lead_of_openRouter {fileName : String} {source : Settings.Source} {settings : Settings}
    {r : Router} (hload : Settings.load fileName source = .ok settings)
    (hopen : openRouter fileName source = .ok r) : r.lead = settings.lead := by
  rcases openRouter_eq_ok_iff.1 hopen with ⟨loaded, table, hloaded, -, rfl⟩
  rw [hload, Except.ok.injEq] at hloaded
  rw [hloaded]
  rfl

/-- The path of a route is that of any rule with it, whatever rules are in the settings. -/
theorem run_render_of_bindings {arguments : List String} {values : Bindings}
    (hbound : bindings arguments = .ok values) {fileName : String} {source : Settings.Source}
    {settings : Settings} {opened : Router} (hload : Settings.load fileName source = .ok settings)
    (hopen : openRouter fileName source = .ok opened) (r : Rule) (link : Bool) :
    (Command.render r.route arguments link).run fileName source =
      ((r.render values).mapError Failure.ofError).map fun path =>
        (if link then settings.lead else "") ++ path ++ "\n" := by
  unfold Command.run
  rw [hopen]
  change (Command.render r.route arguments link).print opened = _
  rw [Command.print, hbound]
  change ((renderRoute opened r.route values link).mapError Failure.ofError).map (· ++ "\n") = _
  rw [renderRoute_eq_generate, ← r.render_eq_generate, lead_of_openRouter hload hopen]
  cases r.render values <;> cases link <;> rfl

/-- Arguments can be bound exactly if each of them has a `=` after a name, and then a name has the
value that its last argument gives; otherwise the failure names the first argument that is not so.
All values for names of a rule can be given so, in any order, and on all settings that open a router
the path of its route is the path of the rule, after the lead if it is asked for. If the rule cannot
be rendered, its error is the failure and nothing is printed. -/
theorem run_render (arguments : List String) :
    ((∃ values, bindings arguments = .ok values) ↔
      ∀ argument ∈ arguments, ∃ name value, Gives argument name value) ∧
    (∀ values, bindings arguments = .ok values →
      ∀ name value, values[name]? = some value ↔ LastGives arguments name value) ∧
    (∀ f, bindings arguments = .error f ↔ ∃ before argument after,
      arguments = before ++ argument :: after ∧
        (∀ other ∈ before, ∃ name value, Gives other name value) ∧ Misgives argument f) ∧
    ∀ (r : Rule) (values : Bindings) (entries : List (String × String)),
      (∀ name ∈ values, name ∈ Template.names r.tokens) → entries.Perm values.toList →
      arguments = entries.map argumentFor →
        bindings arguments = .ok values ∧
        ∀ fileName source settings opened link, Settings.load fileName source = .ok settings →
          openRouter fileName source = .ok opened →
            let result := (Command.render r.route arguments link).run fileName source
            (∀ path, r.render values = .ok path →
              result = .ok ((if link then settings.lead else "") ++ path ++ "\n")) ∧
            ∀ e, r.render values = .error e →
              result = .error (Failure.ofError e) ∧ (Ending.ofResult result).output = "" := by
  refine ⟨exists_bindings_iff, fun _ => getElem?_of_bindings, fun _ => bindings_eq_error_iff, ?_⟩
  intro r values entries hnames hperm harguments
  have hbound : bindings arguments = .ok values := by
    rw [harguments]
    exact bindings_of_perm r hnames hperm
  refine ⟨hbound, ?_⟩
  intro fileName source settings opened link hload hopen result
  have hresult : result = ((r.render values).mapError Failure.ofError).map fun path =>
      (if link then settings.lead else "") ++ path ++ "\n" :=
    run_render_of_bindings hbound hload hopen r link
  refine ⟨?_, ?_⟩
  · intro path hrender
    rw [hresult, hrender]
    rfl
  · intro e hrender
    rw [hresult, hrender]
    exact ⟨rfl, rfl⟩

/-- Values with a `=`, a blank and a slash, given in another order than that of their names, for a
route that no rule of the settings has. Without the value for `id` nothing is printed. -/
theorem run_render_of_shuffled_values :
    let r : Rule := ⟨⟨"/u/:id/q:?/*", "-"⟩, [.literal "u", .positional .required "id",
      .keyed .optional "q", .wildcard none], by decide +kernel⟩
    let source : Settings.Source := .bytes (Path.utf8 (
      "routing = [\"/app\"]\n" ++ "rules = [[\"/u/:id\", \"show\"]]\n").toList)
    let values : Bindings := .ofPairs [("*", "x//y"), ("id", "4 2"), ("q", "a=b")]
    let arguments := ["q=a=b", "id=4 2", "*=x//y"]
    (∀ name ∈ values, name ∈ Template.names r.tokens) ∧
      bindings arguments = .ok values ∧
      (Command.render r.route arguments true).run "routes.toml" source =
        .ok "/app/u/4%202/q=a%3Db/x/y\n" ∧
      (Command.render r.route ["q=a=b"] true).run "routes.toml" source =
        .error (.message "missing value for parameter `id` in route `/u/:id/q:?/*`") ∧
      (Ending.ofResult ((Command.render r.route ["q=a=b"] true).run "routes.toml" source)).output =
        "" := by
  intro r source values arguments
  let few : Bindings := .ofPairs [("q", "a=b")]
  have hnames : ∀ name ∈ values, name ∈ Template.names r.tokens := by
    simp only [← Std.ExtTreeMap.mem_keys]
    decide +kernel
  have hfew : ∀ name ∈ few, name ∈ Template.names r.tokens := by
    simp only [← Std.ExtTreeMap.mem_keys]
    decide +kernel
  have hload : Settings.load "routes.toml" source =
      .ok ⟨"/app", "/", [⟨"/u/:id", "show"⟩]⟩ := by decide +kernel
  have hopens : (openRouter "routes.toml" source).isOk := by decide +kernel
  cases hopen : openRouter "routes.toml" source with
  | error f =>
    rw [hopen] at hopens
    cases hopens
  | ok opened =>
    rcases (run_render arguments).2.2.2 r values [("q", "a=b"), ("id", "4 2"), ("*", "x//y")]
      hnames (by decide +kernel) rfl with ⟨hbound, hprints⟩
    rcases (run_render ["q=a=b"]).2.2.2 r few [("q", "a=b")]
      hfew (by decide +kernel) rfl with ⟨-, hfails⟩
    have hrender : r.render values = .ok "/u/4%202/q=a%3Db/x/y" := by decide +kernel
    have hlacks : r.render few = .error (.noValue r.route "id") := by decide +kernel
    have hprinted := (hprints _ _ _ _ true hload hopen).1 _ hrender
    rcases (hfails _ _ _ _ true hload hopen).2 _ hlacks with ⟨hfailed, hnothing⟩
    exact ⟨hnames, hbound, hprinted, hfailed, hnothing⟩

/-- An argument may have a `=` after its first character and give no value: the name before its
first `=` is empty. -/
theorem bindings_of_leading_equals :
    (∃ i, 0 < i ∧ "=a=b".toList[i]? = some '=') ∧
      bindings ["=a=b"] = .error (.message "Empty parameter name in `=a=b`") ∧
      ¬ ∀ arguments, (∃ values, bindings arguments = .ok values) ↔
        ∀ argument ∈ arguments, ∃ i, 0 < i ∧ argument.toList[i]? = some '=' := by
  have hplace : ∃ i, 0 < i ∧ "=a=b".toList[i]? = some '=' := ⟨2, by decide, by decide⟩
  have hfailure : bindings ["=a=b"] = .error (.message "Empty parameter name in `=a=b`") := by
    decide
  refine ⟨hplace, hfailure, ?_⟩
  intro h
  have hexists := (h ["=a=b"]).2 (by simpa using hplace)
  rw [hfailure] at hexists
  simp at hexists

end CommandLine

end Routing
