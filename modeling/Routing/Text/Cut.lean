namespace Routing.Text

/-! # Cutting at a character

A text is cut at the first place where a character stands. Main statement: `cut?_eq_some_iff`, the
two parts put the text together again and the first holds no such character.
-/

/-- The text before the first `sep` and the text after it; nothing if there is no `sep`. -/
def cut? (sep : Char) (text : List Char) : Option (List Char × List Char) :=
  match text.dropWhile (· != sep) with
  | [] => none
  | _ :: after => some (text.takeWhile (· != sep), after)

theorem cut?_nil (sep : Char) : cut? sep [] = none := rfl

theorem cut?_cons_self (sep : Char) (text : List Char) :
    cut? sep (sep :: text) = some ([], text) := by
  simp [cut?]

theorem cut?_cons_of_ne {sep c : Char} (h : c ≠ sep) (text : List Char) :
    cut? sep (c :: text) = (cut? sep text).map fun parts => (c :: parts.1, parts.2) := by
  simp only [cut?, List.dropWhile_cons, List.takeWhile_cons, bne_iff_ne, ne_eq, h,
    not_false_eq_true, if_true]
  split <;> simp_all

theorem cut?_eq_none_iff {sep : Char} {text : List Char} : cut? sep text = none ↔ sep ∉ text := by
  induction text with
  | nil => simp [cut?_nil]
  | cons c text ih =>
    by_cases h : c = sep
    · subst h; simp [cut?_cons_self]
    · simp [cut?_cons_of_ne h, ih, Ne.symm h]

theorem cut?_eq_some_iff {sep : Char} {text before after : List Char} :
    cut? sep text = some (before, after) ↔ text = before ++ sep :: after ∧ sep ∉ before := by
  induction text generalizing before with
  | nil => simp [cut?_nil]
  | cons c text ih =>
    by_cases h : c = sep
    · subst h
      rw [cut?_cons_self]
      cases before with
      | nil => simp
      | cons b before => simp; intro _; grind
    · rw [cut?_cons_of_ne h]
      cases before with
      | nil => simp [h]
      | cons b before =>
        simp only [Option.map_eq_some_iff, Prod.mk.injEq, Prod.exists, List.cons_append,
          List.cons.injEq, List.mem_cons, not_or]
        constructor
        · rintro ⟨x, y, hxy, ⟨rfl, rfl⟩, rfl⟩
          exact ⟨⟨rfl, (ih.1 hxy).1⟩, Ne.symm h, (ih.1 hxy).2⟩
        · rintro ⟨⟨rfl, rest⟩, _, free⟩
          exact ⟨before, after, ih.2 ⟨rest, free⟩, ⟨rfl, rfl⟩, rfl⟩

end Routing.Text
