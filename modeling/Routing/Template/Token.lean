import Routing.Text.Cut

namespace Routing

/-! # Tokens of a template

A template segment is a fixed text or a parameter. A parameter takes a whole segment by its place
(`:id`, `:id?`), takes the value of a `key=value` segment (`page:`, `page:?`), or takes all segments
that are left (`*`, `rest:*`).
-/

/-- Whether a path may leave a parameter out. -/
inductive Presence
  | required
  | optional
  deriving DecidableEq, Repr

/-- What one segment of a template stands for. -/
inductive Token
  /-- A segment with exactly this text. -/
  | literal (text : String)
  /-- The next segment in order. -/
  | positional (presence : Presence) (name : String)
  /-- The value of the segment `name=value`, wherever it stands. -/
  | keyed (presence : Presence) (name : String)
  /-- All segments that are left, bound under a name or under `*`. -/
  | wildcard (name : Option String)
  deriving DecidableEq, Repr

namespace Token

/-- The name that an unnamed wildcard binds. -/
def anonymous : String := "*"

/-- The name that the token binds, if it is a parameter. -/
def name : Token → Option String
  | literal _ => none
  | positional _ name => some name
  | keyed _ name => some name
  | wildcard name => some (name.getD anonymous)

def isLiteral : Token → Bool
  | literal _ => true
  | _ => false

def isKeyed : Token → Bool
  | keyed _ _ => true
  | _ => false

def isWildcard : Token → Bool
  | wildcard _ => true
  | _ => false

/-- A parameter that takes the next segment if enough are left. -/
def mayTakeSegment : Token → Bool
  | positional .optional _ => true
  | _ => false

/-- A token that always takes one segment by its place. -/
def takesSegment : Token → Bool
  | literal _ => true
  | positional .required _ => true
  | _ => false

/-! ## Written form -/

/-- How the token is written in a template. -/
def text : Token → String
  | literal text => text
  | positional .required name => ":" ++ name
  | positional .optional name => ":" ++ name ++ "?"
  | keyed .required name => name ++ ":"
  | keyed .optional name => name ++ ":?"
  | wildcard none => "*"
  | wildcard (some name) => name ++ ":*"

/-- Characters that no parameter name holds. -/
def isReserved (c : Char) : Bool :=
  c == ':' || c == '?' || c == '*' || c == '=' || c == '/'

/-- The name that a text gives to a parameter: not empty, and free of reserved characters. -/
def readName? (text : List Char) : Option String :=
  if text ≠ [] ∧ text.all (!isReserved ·) then some (String.ofList text) else none

/-- A positional parameter, from the text after its colon. -/
def readPositional? (text : List Char) : Option Token :=
  if text.getLast? = some '?' then (readName? text.dropLast).map (positional .optional)
  else (readName? text).map (positional .required)

/-- The token that a template segment stands for, if it is well formed. -/
def read? (segment : String) : Option Token :=
  if segment = "*" then some (wildcard none)
  else
    match Text.cut? ':' segment.toList with
    | none => some (literal segment)
    | some ([], after) => readPositional? after
    | some (before, []) => (readName? before).map (keyed .required)
    | some (before, ['?']) => (readName? before).map (keyed .optional)
    | some (before, ['*']) => (readName? before).map fun name => wildcard (some name)
    | some _ => none

theorem readName?_eq_some_iff {text : List Char} {name : String} :
    readName? text = some name ↔
      name.toList = text ∧ text ≠ [] ∧ ∀ c ∈ text, isReserved c = false := by
  unfold readName?
  split <;> rename_i h
  · simp only [List.all_eq_true, Bool.not_eq_true'] at h
    constructor
    · intro e; cases e; exact ⟨String.toList_ofList, h⟩
    · rintro ⟨e, -⟩; rw [← e, String.ofList_toList]
  · simp only [List.all_eq_true, Bool.not_eq_true'] at h
    simp only [reduceCtorEq, false_iff]
    rintro ⟨-, h'⟩
    exact h h'

end Token

end Routing
