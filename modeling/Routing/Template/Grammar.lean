import Routing.Template.Token

namespace Routing.Template

/-! # The template grammar

A template is read segment by segment. Parameter names are distinct, no required positional
parameter follows an optional one, and nothing follows a wildcard. The first segment that breaks a
rule decides the flaw.
-/

/-- Why a segment cannot stand where it does. -/
inductive Flaw
  /-- An earlier segment is a wildcard. -/
  | afterWildcard (segment : String)
  /-- The segment is not the written form of a token. -/
  | illFormed (segment : String)
  /-- An earlier segment binds the same name. -/
  | repeatedName (name : String)
  /-- A required positional parameter comes after an optional one. -/
  | requiredTooLate (name : String)
  deriving DecidableEq, Repr

/-- The names that tokens bind, in order. -/
def names (tokens : List Token) : List String := tokens.filterMap Token.name

/-- Appends a token to those before it, unless its name or its place is taken. -/
def extend (seen : List Token) (token : Token) : Except Flaw (List Token) :=
  match token.name with
  | none => .ok (seen ++ [token])
  | some name =>
    if name ∈ names seen then .error (.repeatedName name)
    else if token.takesSegment ∧ seen.any Token.mayTakeSegment then
      .error (.requiredTooLate name)
    else .ok (seen ++ [token])

/-- Reads one more segment after the tokens before it. -/
def readNext (seen : List Token) (segment : String) : Except Flaw (List Token) :=
  if seen.any Token.isWildcard then .error (.afterWildcard segment)
  else
    match Token.read? segment with
    | none => .error (.illFormed segment)
    | some token => extend seen token

/-- The tokens of a template, given its segments. -/
def read (segments : List String) : Except Flaw (List Token) :=
  segments.foldlM readNext []

@[simp]
theorem read_nil : read [] = .ok [] := rfl

/-- Reading goes from left to right: a last segment is read after the tokens before it. -/
theorem read_concat (segments : List String) (segment : String) :
    read (segments ++ [segment]) = read segments >>= (readNext · segment) := by
  simp [read]

end Routing.Template
