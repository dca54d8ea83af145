import Routing.Text.Character

namespace Routing.Text

/-! # Values as diagnostics show them

A quoted text stands on one line and shows every character: quotes, backslashes and unprintable
characters are written as escapes. A structured value stands on one line too, its parts between
braces, brackets or parentheses.
-/

/-! ## Quoted texts -/

/-- A character as it stands between quotes. -/
def quoteChar (c : Char) : List Char :=
  match c with
  | '\t' => ['\\', 't']
  | '\r' => ['\\', 'r']
  | '\n' => ['\\', 'n']
  | '\x00' => ['\\', '0']
  | '"' => ['\\', '"']
  | '\\' => ['\\', '\\']
  | c =>
    if isUnprintable c then "\\u\x7b".toList ++ Nat.toDigits 16 c.toNat ++ ['\x7d'] else [c]

/-- The text between quotes. -/
def quote (text : String) : String :=
  String.ofList ('"' :: text.toList.flatMap quoteChar ++ ['"'])

/-- The name of a file between quotes; apostrophes are written as escapes too. -/
def quoteName (name : String) : String :=
  let escape (c : Char) := if c = '\'' then ['\\', '\''] else quoteChar c
  String.ofList ('"' :: name.toList.flatMap escape ++ ['"'])

/-! ## Records on one line -/

/-- One field of a record. -/
def field (key value : String) : String := key ++ ": " ++ value

/-- Values between brackets. -/
def listed (items : List String) : String := "[" ++ ", ".intercalate items ++ "]"

/-- Entries between braces, without blanks inside them. -/
def mapped (entries : List (String × String)) : String :=
  "\x7b" ++ ", ".intercalate (entries.map fun entry => field entry.1 entry.2) ++ "\x7d"

/-- A name and fields between braces. -/
def record (name : String) (fields : List String) : String :=
  name ++ " \x7b " ++ ", ".intercalate fields ++ " \x7d"

/-- A name and one value between parentheses. -/
def applied (name value : String) : String := name ++ "(" ++ value ++ ")"

/-- A value that may be absent. -/
def optional : Option String → String
  | none => "None"
  | some value => applied "Some" value

end Routing.Text
