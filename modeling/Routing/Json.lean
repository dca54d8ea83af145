import Routing.Decimal

namespace Routing

/-! # JSON values

Values, and their written form. Numbers are integers of 64 bits or doubles. The fields of an object
keep the order in which they are given.
-/

inductive Json.Number
  | integer (value : Int)
  | double (value : Float)

inductive Json
  | null
  | bool (value : Bool)
  | number (value : Json.Number)
  | string (value : String)
  | array (items : List Json)
  | object (fields : List (String × Json))

namespace Json

/-- Puts a field into fields that are sorted by key, in the place of one with the same key. -/
def insertField (key : String) (value : Json) : List (String × Json) → List (String × Json)
  | [] => [(key, value)]
  | field :: fields =>
    if key < field.1 then (key, value) :: field :: fields
    else if key = field.1 then (key, value) :: fields
    else field :: insertField key value fields

/-- The object with these fields, sorted by key; the last value given for a key stands. -/
def ofFields (fields : List (String × Json)) : Json :=
  object (fields.foldl (fun sorted field => insertField field.1 field.2 sorted) [])

/-- The value of a field of an object. -/
def field? (key : String) : Json → Option Json
  | object fields => fields.lookup key
  | _ => none

def string? : Json → Option String
  | string value => some value
  | _ => none

/-! ## Writing numbers

Doubles are written with the fewest digits that read back: positionally from `1e-5` to below `1e16`,
with at least one digit after the point. -/

/-- Digits with a point, and an exponent if the number is very large or very small. -/
def numeralText (n : Decimal.Numeral) : String :=
  let digits := Nat.toDigits 10 n.digits
  let size := digits.length
  let lead : Int := n.exponent + size - 1
  let text :=
    if 0 ≤ n.exponent ∧ lead < 16 then
      digits ++ List.replicate n.exponent.toNat '0' ++ ['.', '0']
    else if 0 ≤ lead ∧ lead < 16 then
      digits.take (lead.toNat + 1) ++ '.' :: digits.drop (lead.toNat + 1)
    else if -5 ≤ lead ∧ lead < 0 then
      '0' :: '.' :: List.replicate (-lead - 1).toNat '0' ++ digits
    else
      let mantissa := if size = 1 then digits else digits.take 1 ++ '.' :: digits.drop 1
      let sign := if lead < 0 then '-' else '+'
      mantissa ++ 'e' :: sign :: Nat.toDigits 10 lead.natAbs
  String.ofList text

/-- A finite double. -/
def doubleText (value : Float) : String :=
  let bits := value.toBits
  let sign := if bits.toNat / Nat.pow 2 63 % 2 = 1 then "-" else ""
  match (Decimal.Binary.ofBits bits).shortest? with
  | some numeral => sign ++ numeralText numeral
  | none => sign ++ "0.0"

def Number.text : Number → String
  | integer value => toString value
  | double value => doubleText value

/-! ## Writing strings

Strings escape only what they must. -/

/-- A character as it stands in a string. -/
def escapeChar (c : Char) : List Char :=
  match c with
  | '"' => ['\\', '"']
  | '\\' => ['\\', '\\']
  | '\x08' => ['\\', 'b']
  | '\x0c' => ['\\', 'f']
  | '\n' => ['\\', 'n']
  | '\r' => ['\\', 'r']
  | '\t' => ['\\', 't']
  | c =>
    if c.toNat < 0x20 then
      ['\\', 'u', '0', '0', Nat.digitChar (c.toNat / 16), Nat.digitChar (c.toNat % 16)]
    else [c]

/-- A string between quotes. -/
def stringLiteral (text : String) : String :=
  String.ofList ('"' :: text.toList.flatMap escapeChar ++ ['"'])

/-! ## Writing values -/

mutual

/-- The value without blanks. -/
def compact : Json → String
  | null => "null"
  | bool value => if value then "true" else "false"
  | number value => value.text
  | string text => stringLiteral text
  | array items => "[" ++ ",".intercalate (compactItems items) ++ "]"
  | object fields => "\x7b" ++ ",".intercalate (compactFields fields) ++ "\x7d"

def compactItems : List Json → List String
  | [] => []
  | item :: items => compact item :: compactItems items

def compactFields : List (String × Json) → List String
  | [] => []
  | (key, value) :: fields => (stringLiteral key ++ ":" ++ compact value) :: compactFields fields

end

/-- Items on lines of their own between an opening and a closing text. -/
def block (indent : Nat) (opening closing : String) (items : List String) : String :=
  if items.isEmpty then opening ++ closing
  else
    let margin := String.ofList (List.replicate (indent + 2) ' ')
    opening ++ "\n" ++ ",\n".intercalate (items.map (margin ++ ·)) ++ "\n"
      ++ String.ofList (List.replicate indent ' ') ++ closing

mutual

/-- The value over several lines, each level two blanks further in. -/
def pretty (indent : Nat) : Json → String
  | array items => block indent "[" "]" (prettyItems (indent + 2) items)
  | object fields => block indent "\x7b" "\x7d" (prettyFields (indent + 2) fields)
  | null => compact null
  | bool value => compact (bool value)
  | number value => compact (number value)
  | string text => compact (string text)

def prettyItems (indent : Nat) : List Json → List String
  | [] => []
  | item :: items => pretty indent item :: prettyItems indent items

def prettyFields (indent : Nat) : List (String × Json) → List String
  | [] => []
  | (key, value) :: fields =>
    (stringLiteral key ++ ": " ++ pretty indent value) :: prettyFields indent fields

end

end Json

end Routing
