import Routing.Toml.Lexeme

namespace Routing.Toml

/-! # Numbers and dates

Integers have 64 bits. A float must not be too large for a double, but one below all doubles is
allowed. Dates must exist in the calendar.
-/

open Text Text.Reader

/-! ## Digits -/

/-- The next digit of a group, or the one after an underscore. -/
def groupDigit (p : Char → Bool) : Reader (Option Char) := do
  match ← peek? with
  | none => return none
  | some c =>
    if c = '_' then
      let _ ← next
      return some (← nextIf p)
    else if p c then return some (← next)
    else return none

/-- Digits with single underscores between them. -/
def digitGroup (p : Char → Bool) : Reader (List Char) := do
  let first ← nextIf p
  return first :: (← collect (groupDigit p))

/-- A decimal number without leading zeros. -/
def wholeDigits : Reader (List Char) := do
  if ← accept "0" then return ['0'] else digitGroup Char.isDigit

/-- The number that digits stand for. -/
def valueIn (base : Nat) (digits : List Char) : Nat :=
  digits.foldl (fun n c => n * base + (hexValue? c).getD 0) 0

/-! ## Numbers -/

def fitsInteger (value : Int) : Bool := -Int.pow 2 63 ≤ value && value < Int.pow 2 63

/-- An integer in another base, after its mark. -/
def basedInteger (base : Nat) : Reader Toml := do
  let digits ← digitGroup fun c => (hexValue? c).any (· < base)
  let value := valueIn base digits
  if fitsInteger value then return .integer value else failure

/-- Whether `digits · 10 ^ exponent` rounds to a number beyond all doubles. -/
def exceedsDouble (digits : Nat) (exponent : Int) : Bool :=
  let size := (Nat.toDigits 10 digits).length
  if digits = 0 ∨ exponent + size < 309 then false
  else if 310 ≤ exponent + size then true
  else
    let limit := Nat.pow 2 1024 - Nat.pow 2 970
    if 0 ≤ exponent then limit ≤ digits * Nat.pow 10 exponent.toNat
    else limit * Nat.pow 10 (-exponent).toNat ≤ digits

/-- The digits after the point, if there is one. -/
def fraction? : Reader (Option (List Char)) := do
  if ← accept "." then return some (← digitGroup Char.isDigit) else return none

/-- The power of ten after `e`, if there is one. -/
def exponent? : Reader (Option Int) := do
  match ← peek? with
  | some c =>
    if c = 'e' ∨ c = 'E' then
      let _ ← next
      let negative ← accept "-"
      let _ ← if negative then pure false else accept "+"
      let size := valueIn 10 (← digitGroup Char.isDigit)
      return some (if negative then -(size : Int) else size)
    else return none
  | none => return none

/-- The characters that were read since `start`. -/
def writtenSince (start : List Char) : Reader String := do
  return String.ofList (start.take (start.length - (← get).length))

/-- An integer or a float, with its sign. -/
def decimalNumber : Reader Toml := do
  let start ← get
  let negative ← accept "-"
  let _ ← if negative then pure false else accept "+"
  if (← accept "inf") || (← accept "nan") then return .float (← writtenSince start)
  else
    let whole ← wholeDigits
    let fraction ← fraction?
    let exponent ← exponent?
    match fraction, exponent with
    | none, none =>
      let value : Int := valueIn 10 whole
      let value := if negative then -value else value
      if fitsInteger value then return .integer value else failure
    | _, _ =>
      let places := fraction.getD []
      let digits := valueIn 10 (whole ++ places)
      guard (negative || !exceedsDouble digits (exponent.getD 0 - places.length))
      return .float (← writtenSince start)

/-- A number of any form. -/
def number : Reader Toml := do
  if ← accept "0x" then basedInteger 16
  else if ← accept "0o" then basedInteger 8
  else if ← accept "0b" then basedInteger 2
  else decimalNumber

/-! ## Dates and times -/

/-- A number of exactly `count` decimal digits, after those that gave `value`. -/
def fixedDigits (value : Nat) : Nat → Reader Nat
  | 0 => return value
  | count + 1 => do
    let c ← nextIf Char.isDigit
    fixedDigits (value * 10 + (c.toNat - '0'.toNat)) count

def isLeapYear (year : Nat) : Bool := year % 4 = 0 && (year % 100 ≠ 0 || year % 400 = 0)

def daysIn (year month : Nat) : Nat :=
  if month = 2 then if isLeapYear year then 29 else 28
  else if month = 4 ∨ month = 6 ∨ month = 9 ∨ month = 11 then 30
  else 31

/-- A day of the calendar. -/
def date : Reader Unit := do
  let year ← fixedDigits 0 4
  exactly "-"
  let month ← fixedDigits 0 2
  exactly "-"
  let day ← fixedDigits 0 2
  guard (1 ≤ month ∧ month ≤ 12 ∧ 1 ≤ day ∧ day ≤ daysIn year month)

/-- Hours and minutes. -/
def hoursMinutes : Reader Unit := do
  let hours ← fixedDigits 0 2
  exactly ":"
  let minutes ← fixedDigits 0 2
  guard (hours < 24 ∧ minutes < 60)

/-- A time of the day; a leap second is allowed. -/
def time : Reader Unit := do
  hoursMinutes
  exactly ":"
  let seconds ← fixedDigits 0 2
  guard (seconds ≤ 60)
  if ← accept "." then
    guard (!(← run Char.isDigit).isEmpty)

/-- The distance to universal time, if it is given. -/
def offset? : Reader Unit := do
  match ← peek? with
  | some c =>
    if c = 'Z' ∨ c = 'z' then modify (List.drop 1)
    else if c = '+' ∨ c = '-' then
      modify (List.drop 1)
      hoursMinutes
  | none => return ()

/-- A date starts here: four digits and a dash. -/
def startsDate (text : List Char) : Bool :=
  (text.take 4).length = 4 && (text.take 4).all Char.isDigit && text[4]? = some '-'

/-- A time starts here: two digits and a colon. -/
def startsTime (text : List Char) : Bool :=
  (text.take 2).length = 2 && (text.take 2).all Char.isDigit && text[2]? = some ':'

/-- The time after a date, if there is one, behind `T` or one blank. -/
def timeAfterDate : Reader Unit := do
  match ← get with
  | c :: rest =>
    if (c = 'T' ∨ c = 't' ∨ c = ' ') ∧ startsTime rest then
      set rest
      time
      offset?
  | [] => return ()

/-- A date, a time, or both. -/
def moment : Reader Toml := do
  let start ← get
  if startsTime start then time
  else
    date
    timeAfterDate
  return .dateTime (← writtenSince start)

/-- A date or a number. -/
def dateOrNumber : Reader Toml := do
  let ahead ← get
  if startsDate ahead ∨ startsTime ahead then moment else number

end Routing.Toml
