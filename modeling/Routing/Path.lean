import Routing.Text.Character

namespace Routing.Path

/-! # Paths

A path is read as the list of its non-empty pieces between slashes, so leading, trailing and doubled
slashes say nothing. Values stand in it in percent encoding.
-/

/-! ## Segments -/

/-- The non-empty pieces between slashes, in order. -/
def segments (path : String) : List String :=
  ((path.toList.splitOn '/').filter (!·.isEmpty)).map String.ofList

/-- The path without `lead`, if it begins with it; else the path itself. -/
def dropLead (lead path : String) : String :=
  match lead.toList.isPrefixOf? path.toList with
  | some rest => String.ofList rest
  | none => path

/-! ## Percent encoding

A value stands in a path as the bytes of its UTF-8 form: letters, digits and `-`, `.`, `_`, `~` as
they are, every other byte as `%` and two upper-case hexadecimal digits. -/

/-- Characters that stand for themselves: ASCII letters and digits, `-`, `.`, `_` and `~`. -/
def isUnreserved (c : Char) : Bool :=
  c.isAlphanum || c == '-' || c == '.' || c == '_' || c == '~'

/-- One byte in written form. -/
def encodeByte (byte : UInt8) : List Char :=
  let c := Char.ofNat byte.toNat
  if isUnreserved c then [c]
  else ['%', Text.hexDigit (byte.toNat / 16), Text.hexDigit (byte.toNat % 16)]

/-- The bytes of a text in UTF-8. -/
def utf8 (text : List Char) : List UInt8 := text.flatMap String.utf8EncodeChar

/-- The written form of a value; it holds neither `/` nor `=`. -/
def encode (value : String) : String :=
  String.ofList ((utf8 value.toList).flatMap encodeByte)

/-- The written form of a value that may span segments: its non-empty pieces, each encoded. -/
def encodePieces (value : String) : String :=
  "/".intercalate ((segments value).map encode)

/-- The bytes that a written text stands for; a `%` without two digits after it is kept. -/
def decodeBytes : List Char → List UInt8
  | [] => []
  | '%' :: high :: low :: rest =>
    match Text.hexValue? high, Text.hexValue? low with
    | some h, some l => UInt8.ofNat (16 * h + l) :: decodeBytes rest
    | _, _ => '%'.toNat.toUInt8 :: decodeBytes (high :: low :: rest)
  | c :: rest => String.utf8EncodeChar c ++ decodeBytes rest

/-- The value that a written text stands for; the text itself when its bytes are not UTF-8. -/
def decode (text : String) : String :=
  (String.fromUTF8? ⟨(decodeBytes text.toList).toArray⟩).getD text

end Routing.Path
