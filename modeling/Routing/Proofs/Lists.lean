import Mathlib.Data.List.Basic
import Mathlib.Data.List.Pairwise
import Mathlib.Data.Option.Basic
import Mathlib.Order.Bounds.Defs

namespace Routing

/-! # Lists and results

General facts about lists, about optional values and about what succeeds or fails. Nothing here
mentions paths, templates or routers.
-/

/-! ## Results -/

section
variable {α β : Type}

/-- What either succeeds or fails in one of the ways that are named fails in no other way. -/
theorem eq_error_iff_of_cases {ε : Type} {result : Except ε α} {Fails : ε → Prop}
    (hfails : ∀ e, Fails e → result = .error e)
    (hcases : (∃ a, result = .ok a) ∨ ∃ e, Fails e) {e : ε} : result = .error e ↔ Fails e := by
  constructor
  · intro h
    rcases hcases with ⟨a, ha⟩ | ⟨other, hother⟩
    · rw [ha] at h
      cases h
    · rw [hfails other hother] at h
      cases h
      exact hother
  · exact hfails e

/-- What is put before the only list that is found stands before that list. -/
theorem map_cons_eq_some_iff {found : Option (List α)} {p : Prop} {only : List α}
    (hfound : ∀ rest, found = some rest ↔ p ∧ rest = only) {first : α} {whole : List α} :
    found.map (first :: ·) = some whole ↔ p ∧ whole = first :: only := by
  rw [Option.map_eq_some_iff]
  constructor
  · intro h
    rcases h with ⟨rest, hrest, rfl⟩
    rcases (hfound rest).1 hrest with ⟨hp, rfl⟩
    exact ⟨hp, rfl⟩
  · intro h
    rcases h with ⟨hp, rfl⟩
    exact ⟨only, (hfound only).2 ⟨hp, rfl⟩, rfl⟩

/-- Of related values both are absent or both present. -/
theorem eq_none_or_exists_of_rel {R : α → β → Prop} {a : Option α} {b : Option β}
    (h : Option.Rel R a b) : (a = none ∧ b = none) ∨ ∃ x y, a = some x ∧ b = some y ∧ R x y := by
  cases h with
  | none => exact .inl ⟨rfl, rfl⟩
  | some hrel => exact .inr ⟨_, _, rfl, rfl, hrel⟩

end

/-! ## Places in a list -/

section
variable {α : Type}

/-- A list that is worked off fails exactly at an element that fails after those before it. -/
theorem foldlM_eq_error_iff {σ ε : Type} {step : σ → α → Except ε σ} {start : σ} {l : List α}
    {e : ε} : l.foldlM step start = .error e ↔ ∃ before a after state,
      l = before ++ a :: after ∧ before.foldlM step start = .ok state ∧
        step state a = .error e := by
  constructor
  · intro h
    -- A first element that does not fail only changes the state in which the rest is worked off.
    induction l generalizing start with
    | nil => cases h
    | cons a l ih =>
      rw [List.foldlM_cons] at h
      cases hstep : step start a with
      | error f =>
        rw [hstep] at h
        cases h
        exact ⟨[], a, l, start, rfl, rfl, hstep⟩
      | ok next =>
        rw [hstep] at h
        rcases ih h with ⟨before, b, after, state, rfl, hbefore, hb⟩
        refine ⟨a :: before, b, after, state, rfl, ?_, hb⟩
        rw [List.foldlM_cons, hstep]
        exact hbefore
  · intro h
    rcases h with ⟨before, a, after, state, rfl, hbefore, hstep⟩
    rw [List.foldlM_append, hbefore]
    change List.foldlM step state (a :: after) = .error e
    rw [List.foldlM_cons, hstep]
    rfl

/-- Where something that holds of every first part of a list, if of the list, ceases to hold. -/
theorem isLeast_length {p : List α → Prop} (hpart : ∀ {l more}, p (l ++ more) → p l)
    {before after : List α} {a : α} (hbefore : p before) (hbad : ¬ p (before ++ [a])) :
    IsLeast {i | ¬ p ((before ++ a :: after).take (i + 1))} before.length := by
  have htake : (before ++ a :: after).take (before.length + 1) = before ++ [a] := by
    simp [List.take_append, List.take_of_length_le]
  refine ⟨?_, ?_⟩
  · change ¬ p _
    rw [htake]
    exact hbad
  · -- Fewer elements are some of those before it.
    intro j hj
    by_contra hlt
    have hle : j + 1 ≤ before.length := by omega
    apply hj
    rw [List.take_append_of_le_length hle]
    rw [← List.take_append_drop (j + 1) before] at hbefore
    exact hpart hbefore

/-- A place in a list is its first place or one after it. -/
theorem forall_split_cons_iff {first : α} {rest : List α} {p : List α → α → Prop} :
    (∀ before x after, first :: rest = before ++ x :: after → p before x) ↔
      p [] first ∧ ∀ before x after, rest = before ++ x :: after → p (first :: before) x := by
  constructor
  · intro h
    refine ⟨h [] first rest rfl, fun before x after hsplit => h (first :: before) x after ?_⟩
    rw [hsplit, List.cons_append]
  · intro hcase before x after hsplit
    rcases hcase with ⟨hfirst, hrest⟩
    cases before with
    | nil =>
      cases hsplit
      exact hfirst
    | cons head before =>
      cases hsplit
      exact hrest before x after rfl

/-- What stands in a list without repetition stands nowhere before its place. -/
theorem not_mem_before {x : α} {before after : List α} (hnodup : (before ++ x :: after).Nodup) :
    x ∉ before := by
  intro hmem
  exact (List.nodup_append.1 hnodup).2.2 x hmem x List.mem_cons_self rfl

theorem erase_append_cons [DecidableEq α] {x : α} {before after : List α}
    (hnodup : (before ++ x :: after).Nodup) : (before ++ x :: after).erase x = before ++ after := by
  rw [List.erase_append_right _ (not_mem_before hnodup), List.erase_cons_head]

/-- Elements before the first one with a property are told by it. -/
theorem append_cons_inj_of_not {p : α → Prop} {x : α} {u v rest more : List α}
    (hx : p x) (hu : ∀ y ∈ u, ¬ p y) (hv : ∀ y ∈ v, ¬ p y)
    (h : u ++ x :: rest = v ++ x :: more) : u = v ∧ rest = more := by
  induction u generalizing v with
  | nil =>
    cases v with
    | nil => exact ⟨rfl, List.tail_eq_of_cons_eq h⟩
    | cons head v => exact absurd hx (List.head_eq_of_cons_eq h ▸ hv head List.mem_cons_self)
  | cons first u ih =>
    cases v with
    | nil => exact absurd hx (List.head_eq_of_cons_eq h ▸ hu first List.mem_cons_self)
    | cons head v =>
      rcases ih (fun y hy => hu y (List.mem_cons_of_mem _ hy))
        (fun y hy => hv y (List.mem_cons_of_mem _ hy)) (List.tail_eq_of_cons_eq h) with
        ⟨hsame, hrest⟩
      exact ⟨by rw [List.head_eq_of_cons_eq h, hsame], hrest⟩

/-- With a marked element after unmarked ones, two lists are the same if and only if it has the same
place in both and the same elements after it. -/
theorem append_cons_eq_iff_of_not {p : α → Prop} {x : α} {u v s t rest more : List α}
    (hx : p x) (hu : ∀ y ∈ u, ¬ p y) (hv : ∀ y ∈ v, ¬ p y) (hsame : u ++ s = v ++ t) :
    u ++ x :: rest = v ++ x :: more ↔ u.length = v.length ∧ s = t ∧ rest = more := by
  constructor
  · intro h
    rcases append_cons_inj_of_not hx hu hv h with ⟨rfl, hmore⟩
    exact ⟨rfl, List.append_cancel_left hsame, hmore⟩
  · intro h
    rcases h with ⟨hlength, rfl, rfl⟩
    rw [List.append_inj_left hsame hlength]

/-- The pieces between separators hold none. -/
theorem not_mem_of_mem_splitOn [BEq α] [LawfulBEq α] {sep : α} {l piece : List α}
    (hpiece : piece ∈ l.splitOn sep) : sep ∉ piece := by
  induction l generalizing piece with
  | nil =>
    rw [List.splitOn_nil, List.mem_singleton] at hpiece
    simp [hpiece]
  | cons x l ih =>
    rcases List.exists_cons_of_ne_nil (List.splitOn_ne_nil sep l) with ⟨first, rest, hsplit⟩
    rw [List.splitOn_cons_eq_if_modifyHead, hsplit] at hpiece
    rw [hsplit] at ih
    by_cases hx : x = sep
    · -- A separator starts an empty piece of its own.
      subst hx
      have hcases : piece = [] ∨ piece ∈ first :: rest := by simpa using hpiece
      rcases hcases with rfl | hmem
      · simp
      · exact ih hmem
    · -- Any other element goes to the first piece.
      have hcases : piece = x :: first ∨ piece ∈ rest := by simpa [hx] using hpiece
      rcases hcases with rfl | hmem
      · simpa [Ne.symm hx] using ih List.mem_cons_self
      · exact ih (List.mem_cons_of_mem _ hmem)

end

/-! ## Counting -/

section
variable {α : Type} {p q : α → Bool} {l : List α}

/-- What is kept of a list holds all elements with a property that says that they are kept. -/
theorem countP_filter_of_imp (himp : ∀ x ∈ l, p x = true → q x = true) :
    (l.filter q).countP p = l.countP p := by
  rw [List.countP_filter]
  apply List.countP_congr
  intro x hx
  rw [Bool.and_eq_true, and_iff_left_iff_imp]
  exact himp x hx

/-- If one property implies another and holds no less often, it follows from the other. -/
theorem of_countP_le (himp : ∀ x ∈ l, p x = true → q x = true) (hle : l.countP q ≤ l.countP p) :
    ∀ x ∈ l, q x = true → p x = true := by
  -- Among the elements with the other property, all have the first one.
  have hall : (l.filter q).countP p = (l.filter q).length := by
    apply Nat.le_antisymm List.countP_le_length
    rw [countP_filter_of_imp himp, ← List.countP_eq_length_filter]
    exact hle
  intro x hx hqx
  exact List.countP_eq_length.1 hall x (List.mem_filter.2 ⟨hx, hqx⟩)

/-- If no element with a property follows one without it, those with it stand first. -/
theorem filter_eq_take_countP (hleft : l.Pairwise fun x y => p y = true → p x = true) :
    l.filter p = l.take (l.countP p) := by
  induction l with
  | nil => rfl
  | cons x l ih =>
    rcases List.pairwise_cons.1 hleft with ⟨hhead, htail⟩
    by_cases hx : p x = true
    · simp [hx, ih htail]
    · -- The first element lacks the property, so every other does.
      have hnone : ∀ y ∈ l, ¬ p y = true := fun y hy hpy => hx (hhead y hy hpy)
      have hcount : l.countP p = 0 := List.countP_eq_zero.2 hnone
      simp [hx, hcount, List.filter_eq_nil_iff.2 hnone]

/-- If those with a property are the first so many, none of them follows one without it. -/
theorem pairwise_of_mem_take (hnodup : l.Nodup) {k : Nat}
    (htake : ∀ x ∈ l, p x = true ↔ x ∈ l.take k) :
    l.Pairwise fun x y => p y = true → p x = true := by
  rw [← List.take_append_drop k l] at hnodup ⊢
  have hdisjoint := (List.nodup_append.1 hnodup).2.2
  have hfirst : ∀ x ∈ l.take k, p x = true := fun x hx =>
    (htake x (List.mem_of_mem_take hx)).2 hx
  have hlast : ∀ x ∈ l.drop k, ¬ p x = true := fun x hx hpx =>
    hdisjoint x ((htake x (List.mem_of_mem_drop hx)).1 hpx) x hx rfl
  refine List.pairwise_append.2 ⟨?_, ?_, fun x hx y _ _ => hfirst x hx⟩
  · exact List.pairwise_of_forall_mem_list fun x hx _ _ _ => hfirst x hx
  · exact List.pairwise_of_forall_mem_list fun _ _ y hy hpy => absurd hpy (hlast y hy)

end

/-! ## Pairs -/

section
variable {α β : Type}

theorem map_snd_zip_eq_take {l : List α} {m : List β} (hlength : l.length ≤ m.length) :
    (l.zip m).map Prod.snd = m.take l.length := by
  rw [List.zip_eq_zip_take_min, Nat.min_eq_left hlength, List.take_length]
  exact List.map_snd_zip (List.length_take_le _ _)

/-- If whatever has a property is across from something with another property, and no more has the
other one, then that is across from nothing else. -/
theorem of_mem_zip_of_countP_le {l : List α} {m : List β} {p : α → Bool} {q : β → Bool}
    (hlength : l.length ≤ m.length)
    (himp : ∀ pair ∈ l.zip m, p pair.1 = true → q pair.2 = true)
    (hcount : m.countP q ≤ l.countP p) : ∀ pair ∈ l.zip m, q pair.2 = true → p pair.1 = true := by
  have hsnd : (l.zip m).countP (q ∘ Prod.snd) ≤ m.countP q := by
    rw [← List.countP_map, map_snd_zip_eq_take hlength]
    exact (List.take_sublist _ _).countP_le
  have hfst : (l.zip m).countP (p ∘ Prod.fst) = l.countP p := by
    rw [← List.countP_map, List.map_fst_zip hlength]
  exact of_countP_le (p := p ∘ Prod.fst) (q := q ∘ Prod.snd) himp (by omega)

/-- Nothing is bound to two values among pairs under distinct keys. -/
theorem lookup_eq_some_iff_mem [BEq α] [LawfulBEq α] {pairs : List (α × β)}
    (hnodup : (pairs.map Prod.fst).Nodup) {key : α} {value : β} :
    pairs.lookup key = some value ↔ (key, value) ∈ pairs := by
  induction pairs with
  | nil => simp
  | cons pair pairs ih =>
    rcases pair with ⟨name, held⟩
    rw [List.map_cons, List.nodup_cons] at hnodup
    by_cases heq : key = name
    · -- The head answers, and no later pair is under the same key.
      subst heq
      have hnot : (key, value) ∉ pairs := fun hmem =>
        hnodup.1 (List.mem_map.2 ⟨(key, value), hmem, rfl⟩)
      simp [hnot, eq_comm]
    · have hbeq : (key == name) = false := by simpa using heq
      rw [List.lookup_cons, hbeq]
      simp [ih hnodup.2, heq]

end

end Routing
