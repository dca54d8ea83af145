import Routing.Path
import Routing.Proofs.Path.Pieces

namespace Routing.Path

/-! # Percent encoding, there and back

Main statements: `decode_encode`, a written value is read back; `isSegment_encode` and
`eq_not_mem_encode`, it can stand in a path as one segment that is no `key=value`;
`decode_eq_iff`, what any text is read as; `segments_carry_values`, all of this together with what
`segments` finds.
-/

/-! ## Bytes -/

/-- A property of bytes holds if it holds of the 256 numbers below the bound of a byte. -/
theorem forall_byte {p : UInt8 → Prop} (hall : ∀ n : Fin 256, p (UInt8.ofNat n)) (byte : UInt8) :
    p byte := by
  have hbyte := hall ⟨byte.toNat, byte.toNat_lt⟩
  rwa [UInt8.ofNat_toNat] at hbyte

/-- A byte is written as one character that stands for itself, or as an escape. -/
theorem encodeByte_cases (byte : UInt8) :
    (∃ c, encodeByte byte = [c] ∧ isUnreserved c ∧ String.utf8EncodeChar c = [byte]) ∨
    ∃ high low, high < 16 ∧ low < 16 ∧ 16 * high + low = byte.toNat ∧
      encodeByte byte = ['%', Text.hexDigit high, Text.hexDigit low] := by
  by_cases hc : isUnreserved (Char.ofNat byte.toNat)
  · left
    refine ⟨Char.ofNat byte.toNat, by simp [encodeByte, hc], hc, ?_⟩
    revert hc
    refine forall_byte (p := fun byte => isUnreserved (Char.ofNat byte.toNat) = true →
      String.utf8EncodeChar (Char.ofNat byte.toNat) = [byte]) ?_ byte
    decide +kernel
  · right
    have hlt := byte.toNat_lt
    exact ⟨byte.toNat / 16, byte.toNat % 16, by omega, by omega, by omega, by simp [encodeByte, hc]⟩

theorem encodeByte_ne_nil (byte : UInt8) : encodeByte byte ≠ [] := by
  rcases encodeByte_cases byte with ⟨c, hc, -⟩ | ⟨high, low, -, -, -, hescape⟩
  · simp [hc]
  · simp [hescape]

/-- Hexadecimal digits are letters and digits. -/
theorem isUnreserved_hexDigit {n : Nat} (h : n < 16) : isUnreserved (Text.hexDigit n) := by
  have hall : ∀ m : Fin 16, isUnreserved (Text.hexDigit m) = true := by decide
  exact hall ⟨n, h⟩

/-- The characters of written values: those that stand for themselves, and `%`. -/
theorem isUnreserved_or_of_mem_encodeByte {byte : UInt8} {c : Char} (hc : c ∈ encodeByte byte) :
    isUnreserved c ∨ c = '%' := by
  rcases encodeByte_cases byte with ⟨d, hd, hfree, -⟩ | ⟨high, low, hhigh, hlow, -, hescape⟩
  · rw [hd, List.mem_singleton] at hc
    exact Or.inl (hc ▸ hfree)
  · simp only [hescape, List.mem_cons, List.not_mem_nil, or_false] at hc
    rcases hc with rfl | rfl | rfl
    · exact Or.inr rfl
    · exact Or.inl (isUnreserved_hexDigit hhigh)
    · exact Or.inl (isUnreserved_hexDigit hlow)

/-! ## Values as segments -/

theorem isUnreserved_or_of_mem_encode {value : String} {c : Char} (hc : c ∈ (encode value).toList) :
    isUnreserved c ∨ c = '%' := by
  rw [encode, String.toList_ofList, List.mem_flatMap] at hc
  rcases hc with ⟨byte, -, hc⟩
  exact isUnreserved_or_of_mem_encodeByte hc

/-- A character that stands for something else is not written. -/
theorem not_mem_encode {c : Char} (hfree : isUnreserved c = false) (hmark : c ≠ '%')
    (value : String) : c ∉ (encode value).toList := by
  intro h
  rcases isUnreserved_or_of_mem_encode h with hc | hc
  · rw [hfree] at hc
    exact Bool.noConfusion hc
  · exact hmark hc

theorem slash_not_mem_encode (value : String) : '/' ∉ (encode value).toList :=
  not_mem_encode (by decide) (by decide) value

theorem eq_not_mem_encode (value : String) : '=' ∉ (encode value).toList :=
  not_mem_encode (by decide) (by decide) value

theorem encode_eq_empty_iff {value : String} : encode value = "" ↔ value = "" := by
  constructor
  · intro h
    have hnil : (utf8 value.toList).flatMap encodeByte = [] := by
      simpa [encode] using congrArg String.toList h
    have hbytes : utf8 value.toList = [] := by
      rw [List.flatMap_eq_nil_iff] at hnil
      exact List.eq_nil_iff_forall_not_mem.2 fun byte hbyte =>
        encodeByte_ne_nil byte (hnil byte hbyte)
    have hchars : value.toList = [] := by
      rw [utf8, List.flatMap_eq_nil_iff] at hbytes
      exact List.eq_nil_iff_forall_not_mem.2 fun c hc =>
        String.utf8EncodeChar_ne_nil (hbytes c hc)
    simpa using hchars
  · rintro rfl
    decide

theorem isSegment_encode {value : String} (hne : value ≠ "") : IsSegment (encode value) :=
  ⟨fun h => hne (encode_eq_empty_iff.1 h), slash_not_mem_encode value⟩

/-! ## The bytes of a written text -/

/-- A text begins with an escape, a `%` and two hexadecimal digits. -/
def BeginsWithEscape (text : List Char) : Prop :=
  ∃ high low rest, text = '%' :: high :: low :: rest ∧
    Text.hexValue? high ≠ none ∧ Text.hexValue? low ≠ none

/-- The bytes that a written text stands for: that of each escape, and those of every other
character, a `%` without two digits after it included. -/
inductive StandsFor : List Char → List UInt8 → Prop
  | nothing : StandsFor [] []
  | escape {high low : Char} {h l : Nat} {rest : List Char} {bytes : List UInt8}
      (first : Text.hexValue? high = some h) (second : Text.hexValue? low = some l)
      (later : StandsFor rest bytes) :
      StandsFor ('%' :: high :: low :: rest) (UInt8.ofNat (16 * h + l) :: bytes)
  | character {c : Char} {rest : List Char} {bytes : List UInt8}
      (plain : ¬ BeginsWithEscape (c :: rest)) (later : StandsFor rest bytes) :
      StandsFor (c :: rest) (String.utf8EncodeChar c ++ bytes)

theorem not_beginsWithEscape_of_ne {c : Char} (hc : c ≠ '%') (rest : List Char) :
    ¬ BeginsWithEscape (c :: rest) := by
  rintro ⟨high, low, tail, heq, -, -⟩
  exact hc (List.cons.inj heq).1

theorem standsFor_decodeBytes (text : List Char) : StandsFor text (decodeBytes text) := by
  fun_induction decodeBytes text with
  | case1 => exact .nothing
  | case2 high low rest h l second first ih => exact .escape first second ih
  | case3 high low rest digits ih =>
    -- At least one of the two characters after the `%` is no digit.
    refine .character (c := '%') ?_ ih
    rintro ⟨high', low', rest', heq, hhigh, hlow⟩
    cases heq
    obtain ⟨h, first⟩ := Option.ne_none_iff_exists'.1 hhigh
    obtain ⟨l, second⟩ := Option.ne_none_iff_exists'.1 hlow
    exact digits h l first second
  | case4 c rest short ih =>
    refine .character ?_ ih
    rintro ⟨high, low, rest', heq, -, -⟩
    cases heq
    exact short high low rest' rfl rfl

theorem decodeBytes_cons_of_not {c : Char} {rest : List Char}
    (plain : ¬ BeginsWithEscape (c :: rest)) :
    decodeBytes (c :: rest) = String.utf8EncodeChar c ++ decodeBytes rest := by
  generalize htext : c :: rest = text at plain ⊢
  fun_cases decodeBytes text with
  | case1 => cases htext
  | case2 high low tail h l second first =>
    exact absurd ⟨high, low, tail, rfl, by simp [first], by simp [second]⟩ plain
  | case3 => cases htext; rfl
  | case4 => cases htext; rfl

/-- A text stands for the bytes that are read from it, and for no others. -/
theorem standsFor_iff {text : List Char} {bytes : List UInt8} :
    StandsFor text bytes ↔ bytes = decodeBytes text := by
  constructor
  · intro h
    induction h with
    | nothing => rfl
    | escape first second later ih => simp [decodeBytes, first, second, ih]
    | character plain later ih => rw [decodeBytes_cons_of_not plain, ih]
  · rintro rfl
    exact standsFor_decodeBytes text

/-- A text of at least one character stands for at least one byte. -/
theorem StandsFor.ne_nil {text : List Char} {bytes : List UInt8} (h : StandsFor text bytes)
    (hne : text ≠ []) : bytes ≠ [] := by
  cases h with
  | nothing => exact absurd rfl hne
  | escape => simp
  | character => simp

/-! ## Reading back -/

/-- Written bytes are what their written form stands for. -/
theorem standsFor_flatMap_encodeByte (bytes : List UInt8) :
    StandsFor (bytes.flatMap encodeByte) bytes := by
  induction bytes with
  | nil => exact .nothing
  | cons byte bytes ih =>
    rw [List.flatMap_cons]
    rcases encodeByte_cases byte with
      ⟨c, hc, hfree, hbyte⟩ | ⟨high, low, hhigh, hlow, hsum, hescape⟩
    · -- A character that stands for itself begins no escape, and has one byte.
      have hne : c ≠ '%' := by
        rintro rfl
        exact absurd hfree (by decide)
      have hread := StandsFor.character (not_beginsWithEscape_of_ne hne _) ih
      rw [hbyte] at hread
      rw [hc]
      exact hread
    · -- The two digits of an escape give the byte back.
      have hread :=
        StandsFor.escape (Text.hexValue?_hexDigit hhigh) (Text.hexValue?_hexDigit hlow) ih
      rw [hsum, UInt8.ofNat_toNat] at hread
      rw [hescape]
      exact hread

theorem standsFor_encode (value : String) :
    StandsFor (encode value).toList (utf8 value.toList) := by
  rw [encode, String.toList_ofList]
  exact standsFor_flatMap_encodeByte _

/-- The bytes of a text are those that it is stored in. -/
theorem utf8_toArray (text : String) :
    ByteArray.mk (utf8 text.toList).toArray = text.toByteArray := by
  rw [← String.utf8Encode_toList, List.utf8Encode, utf8]
  exact ByteArray.ext (by simp)

/-- Bytes are read as the text whose bytes they are. -/
theorem fromUTF8?_eq_some_iff {bytes : List UInt8} {value : String} :
    String.fromUTF8? ⟨bytes.toArray⟩ = some value ↔ utf8 value.toList = bytes := by
  constructor
  · intro h
    have hstored : value.toByteArray = ⟨bytes.toArray⟩ := by
      rw [String.fromUTF8?] at h
      split at h
      · cases h
        rfl
      · cases h
    rw [← utf8_toArray] at hstored
    simpa using congrArg (fun stored => stored.data.toList) hstored
  · rintro rfl
    rw [utf8_toArray, String.fromUTF8?, dif_pos value.isValidUTF8]
    rfl

/-- A text is read as the value whose bytes it stands for. If it stands for the bytes of none, it is
read as itself. -/
theorem decode_eq_iff {text value : String} :
    decode text = value ↔ StandsFor text.toList (utf8 value.toList) ∨
      value = text ∧ ∀ other : String, ¬ StandsFor text.toList (utf8 other.toList) := by
  simp only [standsFor_iff, ← fromUTF8?_eq_some_iff, decode]
  cases hread : String.fromUTF8? ⟨(decodeBytes text.toList).toArray⟩ with
  | none => simp [eq_comm]
  | some found => simp

/-- A written value is read back. -/
theorem decode_encode (value : String) : decode (encode value) = value :=
  decode_eq_iff.2 (.inl (standsFor_encode value))

/-- A text that is not empty stands for a value that is not empty. -/
theorem decode_ne_empty {text : String} (hne : text ≠ "") : decode text ≠ "" := by
  intro hempty
  rcases decode_eq_iff.1 hempty with hbytes | ⟨hsame, -⟩
  · exact hbytes.ne_nil (by simpa using hne) rfl
  · exact hne hsame.symm

/-! ## Values that span segments -/

theorem isSegment_of_mem_map_encode {value piece : String}
    (hpiece : piece ∈ (segments value).map encode) : IsSegment piece := by
  rcases List.mem_map.1 hpiece with ⟨part, hpart, rfl⟩
  exact isSegment_encode (isSegment_of_mem_segments hpart).1

/-- The pieces of a value are written as one segment each. -/
theorem segments_encodePieces (value : String) :
    segments (encodePieces value) = (segments value).map encode :=
  segments_intercalate fun _ => isSegment_of_mem_map_encode

/-- The pieces of a value are read back from the segments that they are written as. -/
theorem map_decode_map_encode (values : List String) : (values.map encode).map decode = values := by
  simp [Function.comp_def, decode_encode]

/-- Empty pieces are not written. -/
theorem encodePieces_intercalate_segments (value : String) :
    encodePieces ("/".intercalate (segments value)) = encodePieces value := by
  rw [encodePieces, segments_intercalate fun _ => isSegment_of_mem_segments, encodePieces]

/-! ## Paths and values -/

/-- Segments are found again in the path that joins them, a slash cuts a path in two, and nothing
but segments is found in any path. A value is written without `/` and `=`, as the empty text only if
it is empty, and is read back. The pieces of a value that spans segments are written as one segment
each and read back from these, and its empty pieces are not written. Every text stands for one list
of bytes. It is read as the value with these bytes, and as itself if there is none, so only the
empty text is read as the empty value. -/
theorem segments_carry_values :
    (∀ pieces : List String, (∀ piece ∈ pieces, IsSegment piece) →
      segments ("/" ++ "/".intercalate pieces) = pieces) ∧
    (∀ before after, segments (before ++ "/" ++ after) = segments before ++ segments after) ∧
    (∀ path, ∀ piece ∈ segments path, IsSegment piece) ∧
    (∀ value, '/' ∉ (encode value).toList ∧ '=' ∉ (encode value).toList ∧
      (encode value = "" ↔ value = "") ∧ decode (encode value) = value) ∧
    (∀ value, (segments (encodePieces value)).length = (segments value).length ∧
      (segments (encodePieces value)).map decode = segments value ∧
      encodePieces ("/".intercalate (segments value)) = encodePieces value) ∧
    ∀ text : String, (text ≠ "" → decode text ≠ "") ∧
      ∃ bytes, (∀ other, StandsFor text.toList other ↔ other = bytes) ∧
        (∀ value : String, utf8 value.toList = bytes → decode text = value) ∧
        ((∀ value : String, utf8 value.toList ≠ bytes) → decode text = text) := by
  refine ⟨?_, segments_append_slash, ?_, ?_, ?_, ?_⟩
  · intro pieces hpieces
    exact segments_slash_intercalate hpieces
  · intro path piece hpiece
    exact isSegment_of_mem_segments hpiece
  · intro value
    exact ⟨slash_not_mem_encode value, eq_not_mem_encode value, encode_eq_empty_iff,
      decode_encode value⟩
  · intro value
    have hwritten := segments_encodePieces value
    refine ⟨?_, ?_, encodePieces_intercalate_segments value⟩
    · rw [hwritten, List.length_map]
    · rw [hwritten, map_decode_map_encode]
  · intro text
    refine ⟨decode_ne_empty, decodeBytes text.toList, fun _ => standsFor_iff, ?_, ?_⟩
    · intro value hvalue
      exact decode_eq_iff.2 (.inl (standsFor_iff.2 hvalue))
    · intro hnone
      refine decode_eq_iff.2 (.inr ⟨rfl, ?_⟩)
      intro other hother
      exact hnone other (standsFor_iff.1 hother)

/-- Slashes in a value, a `%` that begins no escape, and bytes that are no text. -/
theorem segments_carry_values_of_stray_escapes :
    let pieces := ["a%2", "é=", "%2F"]
    let value := "//é/ a=b//%2F/"
    let text := "%FF%4é"
    let bytes : List UInt8 := [0xFF, 0x25, 0x34, 0xC3, 0xA9]
    (∀ piece ∈ pieces, IsSegment piece) ∧ segments ("/" ++ "/".intercalate pieces) = pieces ∧
      "é" ∈ segments value ∧ IsSegment "é" ∧
      segments value = ["é", " a=b", "%2F"] ∧ encodePieces value = "%C3%A9/%20a%3Db/%252F" ∧
      (segments (encodePieces value)).map decode = segments value ∧
      text ≠ "" ∧ decode text ≠ "" ∧ StandsFor text.toList bytes ∧
      (∀ other : String, utf8 other.toList ≠ bytes) ∧ decode text = text := by
  intro pieces value text bytes
  rcases segments_carry_values with ⟨hfound, -, hsegments, -, hspan, hread⟩
  have hpieces : ∀ piece ∈ pieces, IsSegment piece := by decide +kernel
  have hvalue : segments value = ["é", " a=b", "%2F"] := by decide +kernel
  have hmem : "é" ∈ segments value := by simp [hvalue]
  have htext : text ≠ "" := by decide +kernel
  have hstands : StandsFor text.toList bytes := standsFor_iff.2 (by decide +kernel)
  have hinvalid : ∀ other : String, utf8 other.toList ≠ bytes := by
    intro other hother
    have hnone : String.fromUTF8? ⟨bytes.toArray⟩ = none := by decide +kernel
    rw [fromUTF8?_eq_some_iff.2 hother] at hnone
    cases hnone
  rcases hread text with ⟨hfull, stood, hstood, -, hkept⟩
  have hsame := (hstood bytes).1 hstands
  exact ⟨hpieces, hfound pieces hpieces, hmem, hsegments value "é" hmem, hvalue,
    by decide +kernel, (hspan value).2.1, htext, hfull htext, hstands, hinvalid,
    hkept (hsame ▸ hinvalid)⟩

end Routing.Path
