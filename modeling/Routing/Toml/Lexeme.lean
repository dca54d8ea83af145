import Routing.Text.Character
import Routing.Text.Reader
import Routing.Toml.Table

namespace Routing.Toml

/-! # Blanks, strings and keys

The parts of a TOML document below the level of values.
-/

open Text Text.Reader

/-! ## Blanks and comments -/

def isBlank (c : Char) : Bool := c == ' ' || c == '\t'

/-- Characters that may stand in a comment. -/
def isCommentChar (c : Char) : Bool := c == '\t' || (0x20 ≤ c.toNat && c.toNat ≠ 0x7F)

def skipBlanks : Reader Unit := do let _ ← run isBlank

/-- Takes a line end if one stands here, and tells whether it does. -/
def lineEnd : Reader Bool := do
  if ← accept "\n" then return true else accept "\r\n"

/-- Takes a comment if one starts here. -/
def comment : Reader Unit := do
  if ← accept "#" then let _ ← run isCommentChar

/-- What may follow a value or a header on its line. -/
def restOfLine : Reader Unit := do
  skipBlanks
  comment
  let ended ← lineEnd
  guard (ended || (← atEnd))

/-- One line end with the blanks and the comment before it; none if something else stands here. -/
def emptyLine : Reader (Option Unit) := do
  skipBlanks
  match ← peek? with
  | some '#' =>
    comment
    guard (← lineEnd)
    return some ()
  | some '\n' => let _ ← lineEnd; return some ()
  | some '\r' => guard (← lineEnd); return some ()
  | _ => return none

/-- Skips blanks, comments and line ends. -/
def skipLines : Reader Unit := do let _ ← collect emptyLine

/-! ## Escapes -/

/-- A number of exactly `count` hexadecimal digits, after those that gave `value`. -/
def hexNumber (value : Nat) : Nat → Reader Nat
  | 0 => return value
  | count + 1 => do
    let digit ← hexValue? (← next)
    hexNumber (value * 16 + digit) count

/-- The character of a code point. -/
def codePoint (digits : Nat) : Reader Char := do
  let n ← hexNumber 0 digits
  if n.isValidChar then return Char.ofNat n else failure

/-- The character of an escape, after the backslash. -/
def escape : Reader Char := do
  match ← next with
  | 'b' => return '\x08'
  | 'f' => return '\x0c'
  | 'n' => return '\n'
  | 'r' => return '\r'
  | 't' => return '\t'
  | '"' => return '"'
  | '\\' => return '\\'
  | 'u' => codePoint 4
  | 'U' => codePoint 8
  | _ => failure

/-! ## Strings on one line -/

/-- The next character of a string on one line; none at the closing quote. -/
def lineChar (quote : Char) (escapes : Bool) : Reader (Option Char) := do
  let c ← next
  if c = quote then return none
  else if escapes ∧ c = '\\' then return some (← escape)
  else if isCommentChar c then return some c
  else failure

/-- A string on one line, from its opening quote. -/
def lineString : Reader String := do
  match ← next with
  | '"' => return String.ofList (← collect (lineChar '"' true))
  | '\'' => return String.ofList (← collect (lineChar '\'' false))
  | _ => failure

/-! ## Strings over several lines -/

/-- The line end after a backslash, if only blanks stand between them. -/
def foldedLineEnd : Reader Bool := fun rest =>
  match (do skipBlanks; lineEnd) rest with
  | some (true, rest) => some (true, rest)
  | _ => some (false, rest)

/-- Skips blanks and line ends. -/
def skipFolded : Reader Unit := do
  let _ ← collect (do
    skipBlanks
    if ← lineEnd then return some () else return none)

/-- The next characters of a string over several lines; none at the three closing quotes. Up to two
quotes may stand alone, or right before those that close. -/
def blockPart (quote : Char) (escapes : Bool) : Reader (Option (List Char)) := do
  let ahead := ((← get).takeWhile (· == quote)).length
  if ahead = 3 then
    modify (List.drop 3)
    return none
  else if 5 < ahead then failure
  else if 0 < ahead then
    let inside := if ahead < 3 then ahead else ahead - 3
    modify (List.drop inside)
    return some (List.replicate inside quote)
  else if ← lineEnd then return some ['\n']
  else
    let c ← nextIf isCommentChar
    if escapes ∧ c = '\\' then
      if ← foldedLineEnd then
        skipFolded
        return some []
      else return some [← escape]
    else return some [c]

/-- A string over several lines, after its three opening quotes; a line end right after those is not
part of it. -/
def blockString (quote : Char) (escapes : Bool) : Reader String := do
  let _ ← lineEnd
  return String.ofList (← collect (blockPart quote escapes)).flatten

/-- A string of any form. -/
def anyString : Reader String := do
  if ← accept "\"\"\"" then blockString '"' true
  else if ← accept "'''" then blockString '\'' false
  else lineString

/-! ## Keys -/

def isBareChar (c : Char) : Bool := c.isAlphanum || c == '-' || c == '_'

/-- One key: bare or a string on one line. -/
def simpleKey : Reader String := do
  match ← peek? with
  | some '"' => lineString
  | some '\'' => lineString
  | _ =>
    let key ← run isBareChar
    if key.isEmpty then failure else return String.ofList key

/-- A key after a dot; none if no dot stands here. -/
def keyAfterDot : Reader (Option String) := do
  if ← accept "." then
    skipBlanks
    let key ← simpleKey
    skipBlanks
    return some key
  else return none

/-- Keys with dots between them, with the blanks around; at most 79. -/
def address : Reader Address := do
  skipBlanks
  let first ← simpleKey
  skipBlanks
  let keys := first :: (← collect keyAfterDot)
  guard (keys.length < 80)
  return ⟨keys.dropLast, keys.getLastD first⟩

end Routing.Toml
