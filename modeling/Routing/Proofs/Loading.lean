import Routing.Proofs.Lists
import Routing.Proofs.Register
import Routing.Settings

namespace Routing

/-! # Loading a table

A list of declarations makes a table as a whole or not at all. Which lists do is said of all their
declarations at once (`AreRules`), so their order does not matter; where one does not, the first
declaration that cannot stand after those before it decides the error (`Refuses`). What one more
declaration comes to is said first, the rest follows by induction on the list. Main statement:
`Router.ofSettings_iff`.
-/

/-- The declarations of a table: all complete, all with a template for their route, and none of them
twice. -/
structure AreRules (declarations : List Declaration) : Prop where
  complete : ∀ d ∈ declarations, d.IsComplete
  readable : ∀ d ∈ declarations, ∃ tokens, Template.read (Path.segments d.route) = .ok tokens
  nodup : declarations.Nodup

/-- The declaration can stand after these. -/
structure Admits (earlier : List Declaration) (d : Declaration) : Prop where
  complete : d.IsComplete
  readable : ∃ tokens, Template.read (Path.segments d.route) = .ok tokens
  new : d ∉ earlier

/-- The error of a declaration that cannot stand after these. What it lacks comes first, then the
flaw of its route, then that it was there before. -/
inductive Refuses (earlier : List Declaration) (d : Declaration) : Error → Prop
  | incomplete (lacking : ¬ d.IsComplete) : Refuses earlier d (.notARule (.incomplete d))
  | malformed {flaw : Template.Flaw} (complete : d.IsComplete)
      (unread : Template.read (Path.segments d.route) = .error flaw) :
      Refuses earlier d (.malformed d.route flaw)
  | repeated {tokens : List Token} (complete : d.IsComplete)
      (read : Template.read (Path.segments d.route) = .ok tokens) (old : d ∈ earlier) :
      Refuses earlier d (.alreadyAdded d)

/-! ## One more declaration -/

theorem admits_or_refuses (earlier : List Declaration) (d : Declaration) :
    Admits earlier d ∨ ∃ e, Refuses earlier d e := by
  by_cases hcomplete : d.IsComplete
  · cases hread : Template.read (Path.segments d.route) with
    | error flaw => exact .inr ⟨_, .malformed hcomplete hread⟩
    | ok tokens =>
      by_cases hold : d ∈ earlier
      · exact .inr ⟨_, .repeated hcomplete hread hold⟩
      · exact .inl ⟨hcomplete, ⟨tokens, hread⟩, hold⟩
  · exact .inr ⟨_, .incomplete hcomplete⟩

/-- A declaration that is refused cannot stand there. -/
theorem Refuses.not_admits {earlier : List Declaration} {d : Declaration} {e : Error}
    (h : Refuses earlier d e) : ¬ Admits earlier d := by
  intro hadmits
  cases h with
  | incomplete lacking => exact lacking hadmits.complete
  | malformed complete unread =>
    rcases hadmits.readable with ⟨tokens, hread⟩
    rw [unread] at hread
    cases hread
  | repeated complete read old => exact hadmits.new old

theorem areRules_nil : AreRules [] := ⟨by simp, by simp, .nil⟩

theorem areRules_concat_iff {earlier : List Declaration} {d : Declaration} :
    AreRules (earlier ++ [d]) ↔ AreRules earlier ∧ Admits earlier d := by
  have hnodup : (earlier ++ [d]).Nodup ↔ d ∉ earlier ∧ earlier.Nodup := by
    rw [List.nodup_append_comm, List.singleton_append, List.nodup_cons]
  constructor
  · intro h
    rcases h with ⟨hcomplete, hreadable, hdistinct⟩
    rw [List.forall_mem_append, List.forall_mem_singleton] at hcomplete hreadable
    rw [hnodup] at hdistinct
    exact ⟨⟨hcomplete.1, hreadable.1, hdistinct.2⟩, hcomplete.2, hreadable.2, hdistinct.1⟩
  · intro h
    rcases h with ⟨⟨hcomplete, hreadable, hdistinct⟩, hlast⟩
    refine ⟨?_, ?_, hnodup.2 ⟨hlast.new, hdistinct⟩⟩
    · rw [List.forall_mem_append, List.forall_mem_singleton]
      exact ⟨hcomplete, hlast.complete⟩
    · rw [List.forall_mem_append, List.forall_mem_singleton]
      exact ⟨hreadable, hlast.readable⟩

/-- The first of the declarations of a table are those of a table. -/
theorem AreRules.of_append {before after : List Declaration} (h : AreRules (before ++ after)) :
    AreRules before where
  complete d hd := h.complete d (List.mem_append_left after hd)
  readable d hd := h.readable d (List.mem_append_left after hd)
  nodup := h.nodup.sublist (List.sublist_append_left before after)

/-- The order of the declarations does not matter. -/
theorem AreRules.perm {declarations other : List Declaration} (h : AreRules declarations)
    (hperm : other.Perm declarations) : AreRules other where
  complete d hd := h.complete d (hperm.mem_iff.1 hd)
  readable d hd := h.readable d (hperm.mem_iff.1 hd)
  nodup := hperm.nodup_iff.2 h.nodup

namespace RuleTable

theorem add_of_refuses {t : RuleTable} {d : Declaration} {e : Error}
    (h : Refuses t.register.declarations d e) : t.add d = .error e := by
  cases h with
  | incomplete lacking => rw [add, dif_neg lacking]
  | malformed complete unread =>
    exact t.add_of_ofDeclaration_eq_error complete (Rule.ofDeclaration_of_read_eq_error unread)
  | @repeated tokens complete read old =>
    let rule : Rule := ⟨d, tokens, read⟩
    have hold : rule ∈ t.rules := mem_register_iff.1 old
    exact t.add_of_mem complete hold

/-- A declaration that can stand after those of a table becomes its last one. -/
theorem exists_add_of_admits {t : RuleTable} {d : Declaration}
    (h : Admits t.register.declarations d) :
    ∃ u, (t.add d).map Prod.snd = .ok u ∧
      u.register.declarations = t.register.declarations ++ [d] := by
  rcases h.readable with ⟨tokens, hread⟩
  let rule : Rule := ⟨d, tokens, hread⟩
  have hnew : rule ∉ t.rules := mem_register_iff.not.1 h.new
  have hdeclarations : (t.rules ++ [rule]).map Rule.toDeclaration =
      t.rules.map Rule.toDeclaration ++ [d] := List.map_append
  exact ⟨t.push rule hnew h.complete,
    congrArg (Except.map Prod.snd) (t.add_of_not_mem h.complete hnew), hdeclarations⟩

theorem admits_of_add {t u : RuleTable} {d : Declaration} (h : (t.add d).map Prod.snd = .ok u) :
    Admits t.register.declarations d ∧
      u.register.declarations = t.register.declarations ++ [d] := by
  rcases admits_or_refuses t.register.declarations d with hadmits | ⟨e, hrefuses⟩
  · rcases exists_add_of_admits hadmits with ⟨v, hv, hdeclarations⟩
    rw [hv] at h
    cases h
    exact ⟨hadmits, hdeclarations⟩
  · rw [add_of_refuses hrefuses] at h
    cases h

theorem add_eq_error_iff {t : RuleTable} {d : Declaration} {e : Error} :
    (t.add d).map Prod.snd = .error e ↔ Refuses t.register.declarations d e := by
  refine eq_error_iff_of_cases
    (fun _ h => congrArg (Except.map Prod.snd) (add_of_refuses h)) ?_
  refine (admits_or_refuses t.register.declarations d).imp_left ?_
  intro hadmits
  rcases exists_add_of_admits hadmits with ⟨u, hu, -⟩
  exact ⟨u, hu⟩

/-! ## All declarations -/

theorem ofDeclarations_concat (declarations : List Declaration) (d : Declaration) :
    ofDeclarations (declarations ++ [d]) =
      ofDeclarations declarations >>= fun t => (t.add d).map Prod.snd := by
  simp [ofDeclarations]

/-- A table that is loaded has the declarations that it was loaded from, in their order. -/
theorem register_of_ofDeclarations {declarations : List Declaration} {t : RuleTable}
    (h : ofDeclarations declarations = .ok t) :
    AreRules declarations ∧ t.register.declarations = declarations := by
  induction declarations using List.reverseRecOn generalizing t with
  | nil =>
    cases h
    exact ⟨areRules_nil, rfl⟩
  | append_singleton earlier d ih =>
    rw [ofDeclarations_concat] at h
    cases hearlier : ofDeclarations earlier with
    | error e =>
      rw [hearlier] at h
      cases h
    | ok u =>
      rcases ih hearlier with ⟨hrules, hu⟩
      rw [hearlier] at h
      rcases admits_of_add h with ⟨hadmits, hdeclarations⟩
      rw [hu] at hadmits hdeclarations
      exact ⟨areRules_concat_iff.2 ⟨hrules, hadmits⟩, hdeclarations⟩

theorem exists_ofDeclarations {declarations : List Declaration} (h : AreRules declarations) :
    ∃ t, ofDeclarations declarations = .ok t := by
  induction declarations using List.reverseRecOn with
  | nil => exact ⟨empty, rfl⟩
  | append_singleton earlier d ih =>
    rcases areRules_concat_iff.1 h with ⟨hearlier, hadmits⟩
    rcases ih hearlier with ⟨u, hu⟩
    rw [← (register_of_ofDeclarations hu).2] at hadmits
    rcases exists_add_of_admits hadmits with ⟨t, ht, -⟩
    refine ⟨t, ?_⟩
    rw [ofDeclarations_concat, hu]
    exact ht

theorem exists_ofDeclarations_iff {declarations : List Declaration} :
    (∃ t, ofDeclarations declarations = .ok t) ↔ AreRules declarations := by
  constructor
  · intro h
    rcases h with ⟨t, ht⟩
    exact (register_of_ofDeclarations ht).1
  · exact exists_ofDeclarations

/-- What is wrong with the first declaration that cannot stand there is the error of all, and the
declarations after it are not looked at. -/
theorem ofDeclarations_eq_error_iff {declarations : List Declaration} {e : Error} :
    ofDeclarations declarations = .error e ↔ ∃ before d after,
      declarations = before ++ d :: after ∧ AreRules before ∧ Refuses before d e := by
  constructor
  · intro h
    rcases foldlM_eq_error_iff.1 h with ⟨before, d, after, t, hsplit, ht, hadd⟩
    rcases register_of_ofDeclarations ht with ⟨hbefore, hdeclarations⟩
    have hrefuses := add_eq_error_iff.1 hadd
    rw [hdeclarations] at hrefuses
    exact ⟨before, d, after, hsplit, hbefore, hrefuses⟩
  · intro h
    rcases h with ⟨before, d, after, hsplit, hbefore, hrefuses⟩
    rcases exists_ofDeclarations hbefore with ⟨t, ht⟩
    rw [← (register_of_ofDeclarations ht).2] at hrefuses
    exact foldlM_eq_error_iff.2 ⟨before, d, after, t, hsplit, ht, add_eq_error_iff.2 hrefuses⟩

/-- The error is that of the first declaration up to which they are not those of a table. -/
theorem ofDeclarations_eq_error_iff_isLeast {declarations : List Declaration} {e : Error} :
    ofDeclarations declarations = .error e ↔ ∃ i d,
      IsLeast {i | ¬ AreRules (declarations.take (i + 1))} i ∧ declarations[i]? = some d ∧
        Refuses (declarations.take i) d e := by
  constructor
  · intro h
    rcases ofDeclarations_eq_error_iff.1 h with ⟨before, d, after, rfl, hbefore, hrefuses⟩
    have hbad : ¬ AreRules (before ++ [d]) := fun h =>
      hrefuses.not_admits (areRules_concat_iff.1 h).2
    exact ⟨before.length, d, isLeast_length AreRules.of_append hbefore hbad, by simp,
      by simpa using hrefuses⟩
  · intro h
    rcases h with ⟨i, d, hleast, hd, hrefuses⟩
    rcases List.getElem?_eq_some_iff.1 hd with ⟨hlt, hget⟩
    have hsplit : declarations = declarations.take i ++ d :: declarations.drop (i + 1) := by
      rw [← hget, ← List.drop_eq_getElem_cons hlt, List.take_append_drop]
    refine ofDeclarations_eq_error_iff.2 ⟨_, d, _, hsplit, ?_, hrefuses⟩
    -- Fewer declarations than those up to the first bad one are those of a table.
    by_contra hbefore
    cases i with
    | zero => exact hbefore (by simpa using areRules_nil)
    | succ j =>
      have hle := hleast.2 hbefore
      omega

end RuleTable

/-! ## Settings -/

namespace Router

theorem ofSettings_eq_map (s : Settings) :
    ofSettings s = (RuleTable.ofDeclarations s.rules).map fun table =>
      .new table s.lead (.memory s.start) := by
  unfold ofSettings
  cases RuleTable.ofDeclarations s.rules <;> rfl

theorem exists_ofSettings_iff {s : Settings} : (∃ r, ofSettings s = .ok r) ↔ AreRules s.rules := by
  rw [← RuleTable.exists_ofDeclarations_iff, ofSettings_eq_map]
  cases RuleTable.ofDeclarations s.rules <;> simp [Except.map]

theorem ofSettings_eq_error_iff {s : Settings} {e : Error} :
    ofSettings s = .error e ↔ RuleTable.ofDeclarations s.rules = .error e := by
  rw [ofSettings_eq_map]
  cases RuleTable.ofDeclarations s.rules <;> simp [Except.map]

/-- Settings give a router exactly if their rules are complete, have templates for their routes and
are all different, in whatever order they stand. The router holds these rules in their order.
Otherwise the first rule up to which they are not so decides the error: what it lacks, the flaw of
its route, or that it was there before. -/
theorem ofSettings_iff (s : Settings) :
    ((∃ r, ofSettings s = .ok r) ↔ AreRules s.rules) ∧
    (∀ r, ofSettings s = .ok r → r.table.rules.map Rule.toDeclaration = s.rules) ∧
    (∀ other : Settings, other.rules.Perm s.rules →
      ((∃ r, ofSettings other = .ok r) ↔ ∃ r, ofSettings s = .ok r)) ∧
    ∀ e, ofSettings s = .error e ↔ ∃ i d,
      IsLeast {i | ¬ AreRules (s.rules.take (i + 1))} i ∧ s.rules[i]? = some d ∧
        Refuses (s.rules.take i) d e := by
  refine ⟨exists_ofSettings_iff, ?_, ?_, ?_⟩
  · intro r h
    rw [ofSettings_eq_map] at h
    cases htable : RuleTable.ofDeclarations s.rules with
    | error e =>
      rw [htable] at h
      cases h
    | ok table =>
      rw [htable] at h
      cases h
      exact (RuleTable.register_of_ofDeclarations htable).2
  · intro other hperm
    rw [exists_ofSettings_iff, exists_ofSettings_iff]
    exact ⟨fun h => h.perm hperm.symm, fun h => h.perm hperm⟩
  · intro e
    rw [ofSettings_eq_error_iff, RuleTable.ofDeclarations_eq_error_iff_isLeast]

/-- A route without a template stands before a rule that is given twice, so its flaw is the error.
The rules before it make a table in either order. -/
theorem ofSettings_iff_of_two_faults :
    let one : Declaration := ⟨"/notes/:id", "show"⟩
    let other : Declaration := ⟨"/notes/*", "list"⟩
    let flawed : Declaration := ⟨"/notes/:id/id:", "edit"⟩
    let s : Settings := { rules := [one, other, flawed, one] }
    let sound : Settings := { rules := [one, other] }
    let turned : Settings := { rules := [other, one] }
    AreRules sound.rules ∧ turned.rules.Perm sound.rules ∧
      (∃ r, ofSettings turned = .ok r ∧ r.table.rules.map Rule.toDeclaration = [other, one]) ∧
      IsLeast {i | ¬ AreRules (s.rules.take (i + 1))} 2 ∧
      Refuses (s.rules.take 2) flawed (.malformed "/notes/:id/id:" (.repeatedName "id")) ∧
      ofSettings s = .error (.malformed "/notes/:id/id:" (.repeatedName "id")) := by
  intro one other flawed s sound turned
  rcases ofSettings_iff sound with ⟨hsound, -, hperm, -⟩
  rcases ofSettings_iff turned with ⟨-, hheld, -, -⟩
  rcases ofSettings_iff s with ⟨-, -, -, hfailure⟩
  have hone : Template.read (Path.segments one.route) =
      .ok [.literal "notes", .positional .required "id"] := by decide +kernel
  have hother : Template.read (Path.segments other.route) =
      .ok [.literal "notes", .wildcard none] := by decide +kernel
  have hflawed : Template.read (Path.segments flawed.route) = .error (.repeatedName "id") := by
    decide +kernel
  have hrules : AreRules sound.rules := by
    refine ⟨by decide, ?_, by decide⟩
    intro d hd
    rcases List.mem_pair.1 hd with rfl | rfl
    · exact ⟨_, hone⟩
    · exact ⟨_, hother⟩
  have hturned : turned.rules.Perm sound.rules := .swap one other []
  rcases (hperm turned hturned).2 (hsound.2 hrules) with ⟨r, hr⟩
  have hrefuses : Refuses (s.rules.take 2) flawed (.malformed flawed.route (.repeatedName "id")) :=
    .malformed (by decide) hflawed
  have hleast : IsLeast {i | ¬ AreRules (s.rules.take (i + 1))} 2 := by
    have hbad : ¬ AreRules (sound.rules ++ [flawed]) := fun h =>
      hrefuses.not_admits (areRules_concat_iff.1 h).2
    exact isLeast_length AreRules.of_append hrules hbad
  exact ⟨hrules, hturned, ⟨r, hr, hheld r hr⟩, hleast, hrefuses,
    (hfailure _).2 ⟨2, flawed, hleast, rfl, hrefuses⟩⟩

end Router

end Routing
