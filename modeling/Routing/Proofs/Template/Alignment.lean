import Routing.Proofs.Lists
import Routing.Proofs.Template.WellFormed

namespace Routing.Template

/-! # Alignment in closed form

`fill` decides token by token whether an optional parameter takes a segment. The outcome depends on
one number: of the segments that the mandatory tokens leave over, each of the first optional
parameters takes one. Main statement: `fill_eq_some_iff`.
-/

/-- How many segments a template takes in any case. -/
def mandatory (tokens : List Token) : Nat := tokens.countP Token.takesSegment

/-- How many segments a template may take besides, one each. -/
def optionals (tokens : List Token) : Nat := tokens.countP Token.mayTakeSegment

/-- How many optional parameters take one of `n` segments: as many as the mandatory tokens leave. -/
def spare (tokens : List Token) (n : Nat) : Nat := min (optionals tokens) (n - mandatory tokens)

/-- The tokens that always take a segment, and the first `k` optional parameters. -/
def standing (k : Nat) (tokens : List Token) : List Token :=
  tokens.filter fun token =>
    token.takesSegment || decide (token ∈ (tokens.filter Token.mayTakeSegment).take k)

/-- The tokens that take one each of `n` segments. -/
def takers (tokens : List Token) (n : Nat) : List Token := standing (spare tokens n) tokens

/-- Every fixed text takes a segment that is the same text. -/
def Agree (pairs : List (Token × String)) : Prop :=
  ∀ text segment, (Token.literal text, segment) ∈ pairs → segment = text

/-- Segments fit a template: there are enough, there are not too many unless a wildcard takes them,
and every fixed text stands in its place. -/
structure Aligned (tokens : List Token) (segments : List String) : Prop where
  enough : mandatory tokens ≤ segments.length
  few : (∃ name, Token.wildcard name ∈ tokens) ∨
    segments.length ≤ mandatory tokens + optionals tokens
  fixed : Agree ((takers tokens segments.length).zip segments)

/-- What a segment gives to the token that takes it. -/
def placement (pair : Token × String) : Option (String × String) :=
  pair.1.name.map fun name => (name, Path.decode pair.2)

/-- What the segments that no other token takes give to a wildcard. -/
def surplus (tokens : List Token) (segments : List String) : List (String × String) :=
  (tokens.filter Token.isWildcard).filterMap fun token => token.name.map fun name =>
    (name, "/".intercalate ((segments.drop (takers tokens segments.length).length).map Path.decode))

/-- What segments give to the tokens of a template by their places. -/
def placements (tokens : List Token) (segments : List String) : List (String × String) :=
  ((takers tokens segments.length).zip segments).filterMap placement ++ surplus tokens segments

/-! ## One token more -/

section
variable {token : Token} {rest : List Token}

theorem not_mayTakeSegment_of_takesSegment (h : token.takesSegment = true) :
    token.mayTakeSegment = false := by
  rcases token with _ | ⟨_ | _, _⟩ | _ | _ <;> simp_all [Token.takesSegment, Token.mayTakeSegment]

theorem not_takesSegment_of_mayTakeSegment (h : token.mayTakeSegment = true) :
    token.takesSegment = false := by
  rcases token with _ | ⟨_ | _, _⟩ | _ | _ <;> simp_all [Token.takesSegment, Token.mayTakeSegment]

theorem takers_cons_of_takesSegment (h : token.takesSegment = true) (n : Nat) :
    takers (token :: rest) (n + 1) = token :: takers rest n := by
  have hmay := not_mayTakeSegment_of_takesSegment h
  have hspare : spare (token :: rest) (n + 1) = spare rest n := by
    simp [spare, optionals, mandatory, h, hmay]
  simp [takers, standing, hspare, h, hmay]

/-- A token that takes no segment by its place leaves all of them to the others. -/
theorem takers_cons_of_not (htakes : token.takesSegment = false)
    (hmay : token.mayTakeSegment = false) (n : Nat) : takers (token :: rest) n = takers rest n := by
  have hspare : spare (token :: rest) n = spare rest n := by
    simp [spare, optionals, mandatory, htakes, hmay]
  have hnot : token ∉ (rest.filter Token.mayTakeSegment).take (spare rest n) := by
    intro hmem
    have hbad := (List.mem_filter.1 (List.mem_of_mem_take hmem)).2
    simp [hmay] at hbad
  simp [takers, standing, hspare, htakes, hmay, hnot]

/-- An optional parameter takes a segment if the mandatory tokens after it leave one. -/
theorem takers_cons_of_mayTakeSegment (h : token.mayTakeSegment = true) (hnew : token ∉ rest)
    {n : Nat} (hleft : mandatory rest ≤ n) : takers (token :: rest) (n + 1) = token :: takers rest n := by
  have htakes := not_takesSegment_of_mayTakeSegment h
  have hspare : spare (token :: rest) (n + 1) = spare rest n + 1 := by
    simp [spare, optionals, mandatory, h, htakes] at hleft ⊢
    omega
  simp only [takers, standing, hspare, h, htakes, List.filter_cons_of_pos, List.take_succ_cons,
    List.mem_cons, true_or, decide_true, Bool.or_true, List.cons.injEq, true_and]
  -- The first optional parameter shifts the others by one.
  apply List.filter_congr
  intro other hother
  have hne : other ≠ token := fun heq => hnew (heq ▸ hother)
  simp [hne]

/-- With no segment to spare, an optional parameter takes none. -/
theorem takers_cons_of_le (h : token.mayTakeSegment = true) {n : Nat} (hleft : n ≤ mandatory rest) :
    takers (token :: rest) n = takers rest n := by
  have htakes := not_takesSegment_of_mayTakeSegment h
  have hspare : spare (token :: rest) n = 0 := by
    simp [spare, mandatory, htakes] at hleft ⊢
    omega
  have hspare' : spare rest n = 0 := by
    simp [spare]
    omega
  simp [takers, standing, hspare, hspare', htakes]

end

/-! ## One segment more -/

section
variable {token : Token} {rest : List Token} {segment : String} {segments : List String}

theorem mandatory_cons (token : Token) (rest : List Token) :
    mandatory (token :: rest) = mandatory rest + if token.takesSegment then 1 else 0 :=
  List.countP_cons

theorem optionals_cons (token : Token) (rest : List Token) :
    optionals (token :: rest) = optionals rest + if token.mayTakeSegment then 1 else 0 :=
  List.countP_cons

/-- When the first token takes the first segment, the places of the others stay. -/
theorem placements_cons_cons (hwild : token.isWildcard = false)
    (htakers : takers (token :: rest) (segments.length + 1) =
      token :: takers rest segments.length) :
    placements (token :: rest) (segment :: segments) =
      (placement (token, segment)).toList ++ placements rest segments := by
  have hsurplus : surplus (token :: rest) (segment :: segments) = surplus rest segments := by
    simp [surplus, htakers, hwild]
  rw [placements, hsurplus, List.length_cons, htakers, List.zip_cons_cons, List.filterMap_cons,
    placements]
  cases placement (token, segment) <;> simp

/-- A token that takes nothing by its place and is no wildcard changes no place. -/
theorem placements_cons_of_skip (hwild : token.isWildcard = false)
    (htakers : takers (token :: rest) segments.length = takers rest segments.length) :
    placements (token :: rest) segments = placements rest segments := by
  simp [placements, surplus, htakers, hwild]

theorem agree_cons_iff {pairs : List (Token × String)} :
    Agree ((token, segment) :: pairs) ↔
      (∀ text, token = .literal text → segment = text) ∧ Agree pairs := by
  constructor
  · intro h
    refine ⟨?_, fun text found hmem => h text found (List.mem_cons_of_mem _ hmem)⟩
    rintro text rfl
    exact h text segment List.mem_cons_self
  · intro hcase text found hmem
    rcases hcase with ⟨hhead, htail⟩
    rcases List.mem_cons.1 hmem with heq | hmem
    · cases heq
      exact hhead text rfl
    · exact htail text found hmem

/-- A wildcard among the tokens stands after a token that is none. -/
theorem exists_wildcard_cons_iff (hwild : token.isWildcard = false) :
    (∃ name, Token.wildcard name ∈ token :: rest) ↔ ∃ name, Token.wildcard name ∈ rest := by
  refine exists_congr fun name => ⟨fun hmem => ?_, List.mem_cons_of_mem _⟩
  rcases List.mem_cons.1 hmem with heq | hmem
  · rw [← heq] at hwild
    exact Bool.noConfusion hwild
  · exact hmem

/-- The first token takes the first segment, and the bounds for the others say the same. -/
theorem aligned_cons_cons_iff (hwild : token.isWildcard = false)
    (htakers : takers (token :: rest) (segments.length + 1) = token :: takers rest segments.length)
    (hm : mandatory (token :: rest) ≤ segments.length + 1 ↔ mandatory rest ≤ segments.length)
    (ho : segments.length + 1 ≤ mandatory (token :: rest) + optionals (token :: rest) ↔
      segments.length ≤ mandatory rest + optionals rest) :
    Aligned (token :: rest) (segment :: segments) ↔
      (∀ text, token = .literal text → segment = text) ∧ Aligned rest segments := by
  -- Without the first pair, the same tokens stand across from the same segments.
  have hzip : (takers (token :: rest) (segment :: segments).length).zip (segment :: segments) =
      (token, segment) :: (takers rest segments.length).zip segments := by
    rw [List.length_cons, htakers, List.zip_cons_cons]
  constructor
  · intro h
    rcases h with ⟨henough, hfew, hall⟩
    rw [List.length_cons, ho, exists_wildcard_cons_iff hwild] at hfew
    rw [hzip, agree_cons_iff] at hall
    exact ⟨hall.1, hm.1 henough, hfew, hall.2⟩
  · intro h
    rcases h with ⟨hhead, henough, hfew, hall⟩
    refine ⟨hm.2 henough, ?_, ?_⟩
    · rw [List.length_cons, ho, exists_wildcard_cons_iff hwild]
      exact hfew
    · rw [hzip, agree_cons_iff]
      exact ⟨hhead, hall⟩

/-- The first token takes no segment, and the bounds for the others say the same. -/
theorem aligned_cons_iff (hwild : token.isWildcard = false)
    (htakers : takers (token :: rest) segments.length = takers rest segments.length)
    (hm : mandatory (token :: rest) = mandatory rest)
    (ho : segments.length ≤ mandatory rest + optionals (token :: rest) ↔
      segments.length ≤ mandatory rest + optionals rest) :
    Aligned (token :: rest) segments ↔ Aligned rest segments := by
  constructor
  · intro h
    rcases h with ⟨henough, hfew, hall⟩
    rw [hm, ho, exists_wildcard_cons_iff hwild] at hfew
    rw [htakers] at hall
    exact ⟨hm ▸ henough, hfew, hall⟩
  · intro h
    rcases h with ⟨henough, hfew, hall⟩
    refine ⟨hm ▸ henough, ?_, ?_⟩
    · rw [hm, ho, exists_wildcard_cons_iff hwild]
      exact hfew
    · rw [htakers]
      exact hall

theorem aligned_cons_of_takesSegment (h : token.takesSegment = true) :
    Aligned (token :: rest) (segment :: segments) ↔
      (∀ text, token = .literal text → segment = text) ∧ Aligned rest segments := by
  have hmay := not_mayTakeSegment_of_takesSegment h
  have hm := mandatory_cons token rest
  have ho := optionals_cons token rest
  rw [if_pos h] at hm
  rw [if_neg (by simp [hmay])] at ho
  exact aligned_cons_cons_iff (by cases token <;> simp_all [Token.takesSegment, Token.isWildcard])
    (takers_cons_of_takesSegment h _) (by omega) (by omega)

theorem not_aligned_nil (h : token.takesSegment = true) : ¬ Aligned (token :: rest) [] := by
  intro halign
  have henough := halign.enough
  rw [mandatory_cons, if_pos h, List.length_nil] at henough
  omega

theorem aligned_cons_of_optional {name : String} (hnew : Token.positional .optional name ∉ rest)
    (hleft : mandatory rest ≤ segments.length) :
    Aligned (.positional .optional name :: rest) (segment :: segments) ↔ Aligned rest segments := by
  have hm : mandatory (.positional .optional name :: rest) = mandatory rest := mandatory_cons _ _
  have ho : optionals (.positional .optional name :: rest) = optionals rest + 1 :=
    optionals_cons _ _
  rw [aligned_cons_cons_iff rfl (takers_cons_of_mayTakeSegment rfl hnew hleft) (by omega)
    (by omega)]
  simp

theorem aligned_cons_of_optional_of_le {name : String} (hleft : segments.length ≤ mandatory rest) :
    Aligned (.positional .optional name :: rest) segments ↔ Aligned rest segments := by
  have ho : optionals (.positional .optional name :: rest) = optionals rest + 1 :=
    optionals_cons _ _
  exact aligned_cons_iff rfl (takers_cons_of_le rfl hleft) (mandatory_cons _ _) (by omega)

theorem aligned_cons_of_keyed {presence : Presence} {name : String} :
    Aligned (.keyed presence name :: rest) segments ↔ Aligned rest segments :=
  aligned_cons_iff rfl (takers_cons_of_not rfl rfl _) (mandatory_cons _ _) Iff.rfl

/-- The tokens that take one segment each are the mandatory ones, and as many optional ones as
there are segments to spare. -/
theorem length_takers {tokens : List Token} (htokens : IsWellFormed tokens) {n : Nat}
    (henough : mandatory tokens ≤ n) :
    (takers tokens n).length = mandatory tokens + spare tokens n := by
  induction tokens generalizing n with
  | nil => simp [takers, standing, mandatory, spare, optionals]
  | cons token rest ih =>
    have hm := mandatory_cons token rest
    have ho := optionals_cons token rest
    -- A token takes a segment always, or if one is left, or never.
    by_cases htakes : token.takesSegment
    · have hmay := not_mayTakeSegment_of_takesSegment htakes
      obtain ⟨m, rfl⟩ : ∃ m, n = m + 1 := ⟨n - 1, by simp [htakes] at hm; omega⟩
      rw [takers_cons_of_takesSegment htakes, List.length_cons, ih htokens.tail]
      all_goals simp [spare, htakes, hmay] at hm ho ⊢; omega
    · rw [Bool.not_eq_true] at htakes
      by_cases hmay : token.mayTakeSegment
      · by_cases hleft : n ≤ mandatory rest
        · rw [takers_cons_of_le hmay hleft, ih htokens.tail]
          all_goals simp [spare, htakes, hmay] at hm ho ⊢; omega
        · obtain ⟨m, rfl⟩ : ∃ m, n = m + 1 := ⟨n - 1, by omega⟩
          rcases Token.eq_optional_of_mayTakeSegment hmay with ⟨name, rfl⟩
          rw [takers_cons_of_mayTakeSegment hmay (htokens.not_mem_rest rfl) (by omega),
            List.length_cons, ih htokens.tail]
          all_goals simp [spare, htakes, hmay] at hm ho ⊢; omega
      · rw [Bool.not_eq_true] at hmay
        rw [takers_cons_of_not htakes hmay, ih htokens.tail]
        all_goals simp [spare, htakes, hmay] at hm ho ⊢; omega

/-- No token goes without its segment. -/
theorem exists_mem_zip_takers {tokens : List Token} (htokens : IsWellFormed tokens)
    {segments : List String} (henough : mandatory tokens ≤ segments.length) {token : Token}
    (htoken : token ∈ takers tokens segments.length) :
    ∃ segment, (token, segment) ∈ (takers tokens segments.length).zip segments := by
  have hlength : (takers tokens segments.length).length ≤ segments.length := by
    rw [length_takers htokens henough, spare]
    omega
  rw [← List.map_fst_zip hlength, List.mem_map] at htoken
  rcases htoken with ⟨⟨_, segment⟩, hmem, rfl⟩
  exact ⟨segment, hmem⟩

theorem takers_wildcard (name : Option String) (n : Nat) : takers [.wildcard name] n = [] := by
  simp [takers, standing, Token.takesSegment, Token.mayTakeSegment]

theorem aligned_wildcard (name : Option String) : Aligned [.wildcard name] segments :=
  ⟨Nat.zero_le _, Or.inl ⟨name, List.mem_singleton_self _⟩, by simp [Agree, takers_wildcard]⟩

theorem placements_wildcard (name : Option String) : placements [.wildcard name] segments =
    [(name.getD Token.anonymous, "/".intercalate (segments.map Path.decode))] := by
  have hwild : (Token.wildcard name).isWildcard = true := rfl
  simp [placements, surplus, takers_wildcard, hwild, Token.name]

end

/-! ## The closed form -/

/-- Segments fill a template exactly if they are aligned with it, and what they give to the tokens
can be read off their places. -/
theorem fill_eq_some_iff {tokens : List Token} (htokens : IsWellFormed tokens)
    {segments : List String} {placed : List (String × String)} :
    fill tokens segments = some placed ↔
      Aligned tokens segments ∧ placed = placements tokens segments := by
  fun_induction fill tokens segments generalizing placed with
  | case1 =>
    have halign : Aligned [] [] := ⟨Nat.le_refl _, Or.inr (Nat.zero_le _), by simp [Agree]⟩
    simp [halign, placements, surplus, takers, standing, eq_comm]
  | case2 segment segments =>
    -- Nothing is left that could take a segment.
    simp only [reduceCtorEq, false_iff]
    intro h
    rcases h with ⟨halign, -⟩
    simpa [mandatory, optionals] using halign.few
  | case3 rest segment segments ih =>
    rw [ih htokens.tail, aligned_cons_of_takesSegment rfl,
      placements_cons_cons rfl (takers_cons_of_takesSegment rfl _)]
    simp [placement, Token.name]
  | case4 text rest segment segments hne =>
    -- The fixed text is not the segment.
    rw [aligned_cons_of_takesSegment rfl]
    simp [hne]
  | case5 text rest => simpa using fun halign => absurd halign (not_aligned_nil rfl)
  | case6 name rest segment segments ih =>
    rw [map_cons_eq_some_iff fun _ => ih htokens.tail, aligned_cons_of_takesSegment rfl,
      placements_cons_cons rfl (takers_cons_of_takesSegment rfl _)]
    simp [placement, Token.name]
  | case7 name rest => simpa using fun halign => absurd halign (not_aligned_nil rfl)
  | case8 name rest segment segments hleft ih =>
    -- The mandatory tokens leave a segment for the optional parameter.
    have hnew := htokens.not_mem_rest rfl
    rw [map_cons_eq_some_iff fun _ => ih htokens.tail, aligned_cons_of_optional hnew hleft,
      placements_cons_cons rfl (takers_cons_of_mayTakeSegment rfl hnew hleft)]
    simp [placement, Token.name]
  | case9 name rest segment segments hleft ih =>
    -- The mandatory tokens need all the segments.
    have hle : (segment :: segments).length ≤ mandatory rest := by
      unfold mandatory
      rw [List.length_cons]
      omega
    rw [ih htokens.tail, aligned_cons_of_optional_of_le hle,
      placements_cons_of_skip rfl (takers_cons_of_le rfl hle)]
  | case10 name rest ih =>
    rw [ih htokens.tail, aligned_cons_of_optional_of_le (Nat.zero_le _),
      placements_cons_of_skip rfl (takers_cons_of_le rfl (Nat.zero_le _))]
  | case11 name rest segments ih =>
    -- The wildcard is the last token.
    rcases htokens.eq_nil_of_wildcard with rfl
    simp [fill, aligned_wildcard, placements_wildcard, eq_comm]
  | case12 presence name rest segments ih =>
    rw [ih htokens.tail, aligned_cons_of_keyed,
      placements_cons_of_skip rfl (takers_cons_of_not rfl rfl _)]

end Routing.Template
