import Routing.Toml.Scalar
import Routing.Toml.Table

namespace Routing.Toml

/-! # TOML documents

A document is a sequence of assignments and headers, one a line. Values between brackets and braces
nest at most 79 deep.
-/

open Text Text.Reader

/-! ## Values -/

/-- The item after a comma in an array; none at the end. A comma may stand before the end. -/
def nextItem (value : Reader Toml) : Reader (Option Toml) := do
  skipLines
  if ← accept "]" then return none
  else
    exactly ","
    skipLines
    if ← accept "]" then return none else return some (← value)

/-- The items of an array, after its opening bracket. -/
def items (value : Reader Toml) : Reader (List Toml) := do
  skipLines
  if ← accept "]" then return []
  else
    let first ← value
    return first :: (← collect (nextItem value))

/-- A key and its value. -/
def assignment (value : Reader Toml) : Reader (Address × Toml) := do
  let place ← address
  exactly "="
  skipBlanks
  return (place, ← value)

/-- The assignment after a comma in a table between braces; none at the end. -/
def nextAssignment (value : Reader Toml) : Reader (Option (Address × Toml)) := do
  skipBlanks
  if ← accept "\x7d" then return none
  else
    exactly ","
    return some (← assignment value)

/-- The assignments of a table between braces, after its opening brace. -/
def assignments (value : Reader Toml) : Reader (List (Address × Toml)) := do
  skipBlanks
  if ← accept "\x7d" then return []
  else
    let first ← assignment value
    return first :: (← collect (nextAssignment value))

/-- A value that nests at most `depth` deep. -/
def value (depth : Nat) : Reader Toml := do
  match ← peek? with
  | none => failure
  | some c =>
    if c = '"' ∨ c = '\'' then return .string (← anyString)
    else if c = '[' then
      modify (List.drop 1)
      match depth with
      | 0 => failure
      | depth + 1 => return .array (← items (value depth))
    else if c = '\x7b' then
      modify (List.drop 1)
      match depth with
      | 0 => failure
      | depth + 1 => ofAssignments? (← assignments (value depth))
    else if c = 't' then
      exactly "true"
      return .boolean true
    else if c = 'f' then
      exactly "false"
      return .boolean false
    else dateOrNumber

/-! ## Lines -/

/-- What one line says. -/
inductive Line
  | assignment (place : Address) (value : Toml)
  | header (place : Address) (repeated : Bool)

/-- A header, after its first bracket. -/
def header : Reader Line := do
  let repeated ← accept "["
  let place ← address
  exactly (if repeated then "]]" else "]")
  return .header place repeated

/-- The next line, which may say nothing; none at the end of the document. -/
def nextLine : Reader (Option (Option Line)) := do
  skipBlanks
  match ← peek? with
  | none => return none
  | some c =>
    if c = '\n' ∨ c = '\r' then
      guard (← lineEnd)
      return some none
    else if c = '#' then
      restOfLine
      return some none
    else if c = '[' then
      modify (List.drop 1)
      let line ← header
      restOfLine
      return some (some line)
    else
      let (place, value) ← assignment (value 79)
      restOfLine
      return some (some (.assignment place value))

/-- The lines of a document that say something; a mark for the order of bytes may stand before. -/
def lines : Reader (List Line) := do
  let _ ← accept "\uFEFF"
  return (← collect nextLine).filterMap id

/-- Collects lines into the assignments at the top and the sections below. -/
def sections (lines : List Line) : List (Address × Toml) × List Section :=
  lines.foldr
    (fun line (top, below) =>
      match line with
      | .assignment place value => ((place, value) :: top, below)
      | .header place repeated => ([], ⟨place, repeated, top⟩ :: below))
    ([], [])

/-- The table that a document stands for. -/
def parse? (text : String) : Option Entries := do
  let (top, below) := sections (← whole? lines text)
  ofSections? top below

end Routing.Toml
