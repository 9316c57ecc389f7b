import OpenRfc.Foundation.Utf8
import OpenRfc.Values.UnicodeScalar

/-! Character values of a fixed width, in UTF-16 and with spaces behind them. -/

namespace OpenRfc.Classic
open Fallible Values
open JsString (codeUnits codeUnits_utf16le)

def characterCount (value : Nat) (field : String) : Except String Unit :=
  require (value ≤ 0x7fff) s!"{field} must be an integer in 0..32767"

/-- `value.padEnd(characters, " ")` -/
def padEnd (value : JsString) (characters : Nat) : JsString :=
  value ++ List.replicate (characters - value.length) 0x20

def encodeAbapChar (value : JsString) (characters : Nat) : Except String Bytes := do
  characterCount characters "ABAP CHAR length"
  assertUnicodeScalarText value "ABAP CHAR value"
  require (value.length ≤ characters)
    s!"ABAP CHAR value of {value.length} characters does not fit CHAR({characters})"
  .ok (padEnd value characters).utf16le

def decodeAbapCharacterBytes (value : Bytes) (expectedCharacters : Nat) : Except String JsString := do
  require (value.length % 2 = 0) "Unicode ABAP CHAR must have an even byte length"
  characterCount expectedCharacters "expected ABAP CHAR length"
  let expectedBytes := expectedCharacters * 2
  require (value.length = expectedBytes)
    (s!"Unicode ABAP CHAR must contain exactly {expectedBytes} bytes; " ++
      s!"received {value.length}")
  assertUnicodeScalarText (codeUnits value) "decoded ABAP CHAR value"
  .ok (codeUnits value)

def decodeAbapChar (value : Bytes) (expectedCharacters : Nat) : Except String JsString := do
  let decoded ← decodeAbapCharacterBytes value expectedCharacters
  .ok decoded.trimTrailingSpaces

/-- `decodeAbapChar` of a value of any width. -/
def decodeAbapText (value : Bytes) : Except String JsString := do
  require (value.length % 2 = 0) "Unicode ABAP CHAR must have an even byte length"
  assertUnicodeScalarText (codeUnits value) "decoded ABAP CHAR value"
  .ok (codeUnits value).trimTrailingSpaces

/-- Decode an exact-width character value whose spaces are semantic data. -/
def decodeAbapFixedChar (value : Bytes) (expectedCharacters : Nat) : Except String JsString :=
  decodeAbapCharacterBytes value expectedCharacters

section RoundTrip
variable {value : JsString} {characters : Nat}

/-- Spaces do not complete a surrogate pair. -/
theorem isWellFormed_append_spaces (h : value.isWellFormed = true) (count : Nat) :
    JsString.isWellFormed (value ++ List.replicate count 0x20) = true := by
  rw [JsString.isWellFormed_append h]
  apply JsString.isWellFormed_of_lt
  intro unit hunit
  rw [List.eq_of_mem_replicate hunit]
  decide

theorem length_padEnd (h : value.length ≤ characters) : (padEnd value characters).length = characters := by
  simp [padEnd]
  omega

theorem encodeAbapChar_eq_ok {bytes : Bytes} :
    encodeAbapChar value characters = .ok bytes ↔ characters ≤ 0x7fff ∧ value.isWellFormed = true ∧
      value.length ≤ characters ∧ (padEnd value characters).utf16le = bytes := by
  simp only [encodeAbapChar, characterCount, bind_eq_ok, require_eq_ok, assertUnicodeScalarText_eq_ok,
    exists_const, Except.ok.injEq]

theorem decodeAbapCharacterBytes_utf16le (hformed : value.isWellFormed = true)
    (hlength : value.length = characters) (hcount : characters ≤ 0x7fff) :
    decodeAbapCharacterBytes value.utf16le characters = .ok value := by
  have hbytes : value.utf16le.length = characters * 2 := by
    rw [JsString.length_utf16le, hlength, Nat.mul_comm]
  have hchecked : assertUnicodeScalarText value "decoded ABAP CHAR value" = .ok () :=
    assertUnicodeScalarText_eq_ok.mpr hformed
  rw [decodeAbapCharacterBytes, codeUnits_utf16le, hchecked, characterCount,
    require_of (by omega), ok_bind, require_of hcount, ok_bind]
  dsimp only
  rw [require_of hbytes, ok_bind, ok_bind]

/-- What is read from an encoded value is the value with the spaces up to its width. -/
theorem decodeAbapCharacterBytes_encodeAbapChar {bytes : Bytes}
    (h : encodeAbapChar value characters = .ok bytes) :
    bytes.length = characters * 2 ∧
      decodeAbapCharacterBytes bytes characters = .ok (padEnd value characters) := by
  obtain ⟨hcount, hformed, hfits, rfl⟩ := encodeAbapChar_eq_ok.mp h
  constructor
  · rw [JsString.length_utf16le, length_padEnd hfits, Nat.mul_comm]
  · exact decodeAbapCharacterBytes_utf16le (isWellFormed_append_spaces hformed _)
      (length_padEnd hfits) hcount

theorem trimTrailingSpaces_padEnd (value : JsString) (characters : Nat) :
    (padEnd value characters).trimTrailingSpaces = value.trimTrailingSpaces := by
  rw [padEnd]
  generalize characters - value.length = count
  induction count with
  | zero => simp
  | succ count ih =>
      rw [List.replicate_succ', ← List.append_assoc, JsString.trimTrailingSpaces,
        List.rdropWhile_concat_pos _ _ _ (by simp), ← JsString.trimTrailingSpaces, ih]

theorem decodeAbapChar_encodeAbapChar {bytes : Bytes}
    (h : encodeAbapChar value characters = .ok bytes) :
    decodeAbapChar bytes characters = .ok value.trimTrailingSpaces := by
  rw [decodeAbapChar, (decodeAbapCharacterBytes_encodeAbapChar h).2, ok_bind,
    trimTrailingSpaces_padEnd]

end RoundTrip
end OpenRfc.Classic
