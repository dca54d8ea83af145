import Routing.Rule

namespace Routing

/-! # Rule tables

A table holds complete rules without repetition. Their order is the order in which they were added,
and the first rule that matches a path answers it.
-/

/-- A rule that matched a path, and the values that it took from it. -/
structure Visit where
  rule : Rule
  args : Bindings
  deriving DecidableEq

/-- Rules in the order in which they are tried. -/
structure RuleTable where
  rules : List Rule
  nodup : rules.Nodup
  complete : ∀ rule ∈ rules, rule.IsComplete

namespace RuleTable

def empty : RuleTable where
  rules := []
  nodup := .nil
  complete := by simp

theorem ext {t u : RuleTable} (h : t.rules = u.rules) : t = u := by
  cases t; cases u; cases h; rfl

/-- The rule with this route and method, if the table holds it. -/
def get? (t : RuleTable) (d : Declaration) : Option Rule :=
  t.rules.find? fun rule => rule.toDeclaration = d

/-- The table with one more rule at its end. -/
def push (t : RuleTable) (rule : Rule) (new : rule ∉ t.rules) (complete : rule.IsComplete) :
    RuleTable where
  rules := t.rules ++ [rule]
  nodup := List.nodup_append.2
    ⟨t.nodup, by simp, fun _ held _ last => by simp at last; grind⟩
  complete := fun r held => by
    rcases List.mem_append.1 held with old | last
    · exact t.complete r old
    · simp at last; exact last ▸ complete

/-- The table without a rule. -/
def erase (t : RuleTable) (rule : Rule) : RuleTable where
  rules := t.rules.erase rule
  nodup := t.nodup.erase rule
  complete := fun r held => t.complete r (List.mem_of_mem_erase held)

/-- Reads a declaration and adds the rule to the end of the table, if it is new. -/
def add (t : RuleTable) (d : Declaration) : Except Error (Rule × RuleTable) :=
  if complete : d.IsComplete then
    match h : Rule.ofDeclaration d with
    | .error e => .error e
    | .ok rule =>
      if held : rule ∈ t.rules then .error (.alreadyAdded d)
      else .ok (rule, t.push rule held (Rule.ofDeclaration_eq_ok_iff.1 h ▸ complete))
  else .error (.notARule (.incomplete d))

/-- Takes the rule with this route and method out of the table. -/
def remove (t : RuleTable) (d : Declaration) : Except Error (Rule × RuleTable) :=
  if d.IsComplete then
    match t.get? d with
    | none => .error (.notAdded d)
    | some rule => .ok (rule, t.erase rule)
  else .error (.notARule (.incomplete d))

/-- The table of the declarations in their order, or the first failure. -/
def ofDeclarations (declarations : List Declaration) : Except Error RuleTable :=
  declarations.foldlM (fun t d => (t.add d).map Prod.snd) empty

/-- The first of the rules that matches a path, with the values that it takes. -/
def firstMatch? (rules : List Rule) (path : String) : Option Visit :=
  rules.findSome? fun rule => (rule.bindings? path).map (Visit.mk rule)

/-- The first rule of the table that matches a path. -/
def resolve (t : RuleTable) (path : String) : Except Error Visit :=
  match firstMatch? t.rules path with
  | some visit => .ok visit
  | none => .error (.unmatched path)

/-- The path of a rule for the given values; the rule need not be in the table. -/
def render (t : RuleTable) (d : Declaration) (values : Bindings) : Except Error String :=
  match t.get? d with
  | some rule => rule.render values
  | none => do (← Rule.ofDeclaration d).render values

theorem get?_eq_none_iff {t : RuleTable} {d : Declaration} :
    t.get? d = none ↔ ∀ rule ∈ t.rules, rule.toDeclaration ≠ d := by
  simp [get?, List.find?_eq_none]

theorem get?_eq_some_iff {t : RuleTable} {d : Declaration} {rule : Rule} :
    t.get? d = some rule ↔ rule ∈ t.rules ∧ rule.toDeclaration = d := by
  constructor
  · intro h
    exact ⟨List.mem_of_find?_eq_some h, by simpa using List.find?_some h⟩
  · rintro ⟨held, rfl⟩
    cases found : t.get? rule.toDeclaration with
    | none => exact absurd rfl (get?_eq_none_iff.1 found rule held)
    | some other =>
      have same := List.find?_some found
      exact congrArg some (Rule.ext_declaration (by simpa using same))

end RuleTable

end Routing
