import Routing.Decimal
import Routing.Json
import Routing.Text.Character
import Routing.Text.Reader

namespace Routing.Json

/-! # Reading JSON

Arrays and objects nest at most 127 deep. An integer that fits 64 bits stays an integer; every other
number is a double.
-/

open Text Text.Reader

def isBlank (c : Char) : Bool := c == ' ' || c == '\t' || c == '\n' || c == '\r'

def skipBlanks : Reader Unit := do let _ ← run isBlank

/-! ## Strings -/

/-- Four hexadecimal digits. -/
def codeUnit : Reader Nat := do
  let a ← hexValue? (← next)
  let b ← hexValue? (← next)
  let c ← hexValue? (← next)
  let d ← hexValue? (← next)
  return ((a * 16 + b) * 16 + c) * 16 + d

/-- The character of one code unit, or of two if the first is a high surrogate. -/
def unicodeEscape : Reader Char := do
  let first ← codeUnit
  if 0xD800 ≤ first ∧ first < 0xDC00 then
    exactly "\\u"
    let second ← codeUnit
    if 0xDC00 ≤ second ∧ second < 0xE000 then
      return Char.ofNat (0x10000 + (first - 0xD800) * 0x400 + (second - 0xDC00))
    else failure
  else if 0xDC00 ≤ first ∧ first < 0xE000 then failure
  else return Char.ofNat first

/-- The character of an escape, after the backslash. -/
def escape : Reader Char := do
  match ← next with
  | '"' => return '"'
  | '\\' => return '\\'
  | '/' => return '/'
  | 'b' => return '\x08'
  | 'f' => return '\x0c'
  | 'n' => return '\n'
  | 'r' => return '\r'
  | 't' => return '\t'
  | 'u' => unicodeEscape
  | _ => failure

/-- One character of a string; none at the closing quote. -/
def stringChar : Reader (Option Char) := do
  let c ← next
  if c = '"' then return none
  else if c = '\\' then return some (← escape)
  else if c.toNat < 0x20 then failure
  else return some c

/-- A string, from its opening quote. -/
def stringText : Reader String := do
  exactly "\""
  return String.ofList (← collect stringChar)

/-! ## Numbers -/

def digitValues (digits : List Char) : List Nat := digits.map fun c => c.toNat - '0'.toNat

/-- One digit at least. -/
def someDigits : Reader (List Nat) := do
  let digits ← run Char.isDigit
  if digits.isEmpty then failure else return digitValues digits

/-- The digits before the point: one zero, or a number without leading zeros. -/
def wholeDigits : Reader (List Nat) := do
  let digits ← someDigits
  if digits.length > 1 ∧ digits.head? = some 0 then failure else return digits

/-- The digits after a point, if there is one. -/
def fraction? : Reader (Option (List Nat)) := do
  if ← accept "." then return some (← someDigits) else return none

/-- The power of ten after `e`, if there is one. -/
def exponent? : Reader (Option Int) := do
  match ← peek? with
  | some c =>
    if c = 'e' ∨ c = 'E' then
      let _ ← next
      let negative ← accept "-"
      let _ ← if negative then pure false else accept "+"
      let size : Nat := (← someDigits).foldl (fun n d => n * 10 + d) 0
      return some (if negative then -(size : Int) else size)
    else return none
  | none => return none

/-- The number with the given parts; digits that no longer fit 64 bits count as zeros. -/
def assemble? (negative : Bool) (whole : List Nat) (fraction : Option (List Nat))
    (exponent : Option Int) : Option Number :=
  let (head, kept) := Decimal.absorb 0 whole
  let dropped := whole.length - kept
  let double (significand : Nat) (exponent : Int) : Option Number :=
    (Decimal.scaled? significand exponent).map fun value =>
      .double (if negative then -value else value)
  match fraction, exponent with
  | none, none =>
    if dropped ≠ 0 then double head dropped
    else if !negative then some (.integer head)
    else if head = 0 ∨ Nat.pow 2 63 < head then double head 0
    else some (.integer (-head))
  | _, _ =>
    let (significand, places) := Decimal.absorb head (fraction.getD [])
    double significand ((dropped : Int) - (places : Int) + exponent.getD 0)

def numberValue : Reader Json := do
  let negative ← accept "-"
  let whole ← wholeDigits
  let fraction ← fraction?
  let exponent ← exponent?
  return .number (← assemble? negative whole fraction exponent)

/-! ## Values -/

/-- The item after a comma; none at the closing text. -/
def nextItem {α : Type} (close : String) (reader : Reader α) : Reader (Option α) := do
  skipBlanks
  if ← accept close then return none
  else
    exactly ","
    skipBlanks
    return some (← reader)

/-- Items between brackets or braces, after the opening text. -/
def items {α : Type} (close : String) (reader : Reader α) : Reader (List α) := do
  skipBlanks
  if ← accept close then return []
  else
    let first ← reader
    return first :: (← collect (nextItem close reader))

/-- A key and its value. -/
def field (value : Reader Json) : Reader (String × Json) := do
  let key ← stringText
  skipBlanks
  exactly ":"
  skipBlanks
  return (key, ← value)

/-- A value that nests less than `depth` deep. -/
def value : Nat → Reader Json
  | 0 => failure
  | depth + 1 => do
    match ← peek? with
    | some 'n' => exactly "null"; return .null
    | some 't' => exactly "true"; return .bool true
    | some 'f' => exactly "false"; return .bool false
    | some '"' => return .string (← stringText)
    | some '[' =>
      let _ ← next
      guard (depth ≠ 0)
      return .array (← items "]" (value depth))
    | some '\x7b' =>
      let _ ← next
      guard (depth ≠ 0)
      return ofFields (← items "\x7d" (field (value depth)))
    | some _ => numberValue
    | none => failure

/-- The value that a text stands for. -/
def parse? (text : String) : Option Json :=
  whole? (do skipBlanks; let v ← value 128; skipBlanks; return v) text

end Routing.Json
