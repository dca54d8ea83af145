namespace Routing.Text

/-! # Readers

A reader takes a value off the front of a text, or fails.
-/

/-- Reads a value and leaves the rest of the text. -/
abbrev Reader := StateT (List Char) Option

namespace Reader

/-- The next character, which stays in the text; nothing at the end. -/
def peek? : Reader (Option Char) := return (← get).head?

/-- Takes the next character; fails at the end. -/
def next : Reader Char
  | [] => none
  | c :: rest => some (c, rest)

/-- Takes the next character if it satisfies `p`, and fails if not. -/
def nextIf (p : Char → Bool) : Reader Char := do
  let c ← next
  if p c then return c else failure

/-- Takes exactly this text. -/
def exactly (text : String) : Reader Unit := fun rest =>
  (text.toList.isPrefixOf? rest).map fun rest => ((), rest)

/-- Takes this text if it stands here, and tells whether it does. -/
def accept (text : String) : Reader Bool := fun rest =>
  match text.toList.isPrefixOf? rest with
  | some rest => some (true, rest)
  | none => some (false, rest)

/-- Takes the longest run of characters that satisfy `p`. -/
def run (p : Char → Bool) : Reader (List Char) := fun rest =>
  some (rest.takeWhile p, rest.dropWhile p)

def atEnd : Reader Bool := return (← get).isEmpty

/-- At most `bound` values of `step`, until it gives none. -/
def collectUpTo {α : Type} (step : Reader (Option α)) : Nat → Reader (List α)
  | 0 => failure
  | bound + 1 => do
    match ← step with
    | none => return []
    | some value => return value :: (← collectUpTo step bound)

/-- The values of `step`, until it gives none; each value takes at least one character. -/
def collect {α : Type} (step : Reader (Option α)) : Reader (List α) := do
  collectUpTo step ((← get).length + 1)

/-- Reads a whole text. -/
def whole? {α : Type} (reader : Reader α) (text : String) : Option α :=
  match reader text.toList with
  | some (value, []) => some value
  | _ => none

end Reader

end Routing.Text
