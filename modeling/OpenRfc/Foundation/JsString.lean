import OpenRfc.Foundation.Bytes
import Mathlib.Data.List.DropRight

/-!
JavaScript strings, which are lists of UTF-16 code units, and their encodings: the code units
themselves, low bytes first, and UTF-8.
-/

namespace OpenRfc

abbrev JsString := List UInt16

namespace JsString

instance : LawfulBEq JsString := inferInstanceAs (LawfulBEq (List UInt16))

/-- `s.replace(/ +$/u, "")` -/
def trimTrailingSpaces (s : JsString) : JsString := s.rdropWhile (· == 0x20)

/-- Is a code unit the first half, or the second half, of a surrogate pair? -/
def isHighSurrogate (unit : UInt16) : Bool := 0xd800 ≤ unit && unit ≤ 0xdbff
def isLowSurrogate (unit : UInt16) : Bool := 0xdc00 ≤ unit && unit ≤ 0xdfff

/-- Does every surrogate stand in a pair? -/
def isWellFormed : JsString → Bool
  | [] => true
  | unit :: units =>
    if isHighSurrogate unit then
      match units with
      | [] => false
      | low :: units => isLowSurrogate low && isWellFormed units
    else !isLowSurrogate unit && isWellFormed units

/-- `/[\u0000-\u001f\u007f]/u` finds nothing. -/
def hasNoControls (s : JsString) : Prop := ∀ unit ∈ s, ¬unit < 0x20 ∧ unit ≠ 0x7f

instance (s : JsString) : Decidable (hasNoControls s) :=
  List.decidableBAll (fun unit : UInt16 => ¬unit < 0x20 ∧ unit ≠ 0x7f) s

/-- The characters of a string. A surrogate which does not stand in a pair is none. -/
def chars : JsString → List Char
  | [] => []
  | [unit] => [Char.ofNat unit.toNat]
  | unit :: low :: units =>
    if isHighSurrogate unit && isLowSurrogate low then
      Char.ofNat (0x10000 + (unit.toNat - 0xd800) * 0x400 + (low.toNat - 0xdc00)) :: chars units
    else Char.ofNat unit.toNat :: chars (low :: units)

/-- The code units of a character. -/
def ofChar (c : Char) : JsString :=
  if c.toNat < 0x10000 then [UInt16.ofNat c.toNat]
  else [UInt16.ofNat (0xd800 + (c.toNat - 0x10000) / 0x400),
    UInt16.ofNat (0xdc00 + (c.toNat - 0x10000) % 0x400)]

def ofChars (cs : List Char) : JsString := cs.flatMap ofChar

/-- A string literal of the source, of characters which are one code unit each. -/
def literal (s : String) : JsString := s.toList.map fun c => UInt16.ofNat c.toNat

/-- A string within the text of an error. -/
def text (s : JsString) : String := String.ofList s.chars

/-- `Buffer.from(s, "utf16le")` -/
def utf16le (s : JsString) : Bytes := s.flatMap fun unit : UInt16 => [unit.toUInt8, (unit >>> 8).toUInt8]

/-- The code units of a text in UTF-16, low bytes first: `bytes.toString("utf16le")` -/
def codeUnits : Bytes → JsString
  | low :: high :: bytes => (low.toUInt16 ||| high.toUInt16 <<< 8) :: codeUnits bytes
  | _ => []

/-- `new TextDecoder("utf-8", { fatal: true }).decode(bytes)`, of bytes without a byte order
mark -/
def ofUtf8? (bytes : Bytes) : Option JsString :=
  (ByteArray.mk bytes.toArray).utf8Decode?.map fun cs => ofChars cs.toList

theorem length_utf16le (s : JsString) : s.utf16le.length = 2 * s.length := by
  induction s with
  | nil => rfl
  | cons unit units ih =>
      rw [utf16le, List.flatMap_cons, List.length_append, ← utf16le, ih, List.length_cons]
      simp only [List.length_cons, List.length_nil]
      omega

/-- A code unit is put together from its halves. -/
theorem joined_halves (unit : UInt16) :
    unit.toUInt8.toUInt16 ||| (unit >>> 8).toUInt8.toUInt16 <<< 8 = unit := by
  apply UInt16.toNat_inj.mp
  have hlt := unit.toNat_lt
  have hhigh : unit.toNat >>> 8 % 256 = unit.toNat / 256 := by
    rw [Nat.shiftRight_eq_div_pow]
    omega
  have hlow : unit.toNat % 256 < 2 ^ 8 := Nat.mod_lt _ (by omega)
  simp only [UInt16.toNat_or, UInt16.toNat_shiftLeft, UInt8.toNat_toUInt16, UInt16.toNat_toUInt8,
    UInt16.toNat_shiftRight, UInt16.reduceToNat, Nat.reduceMod, Nat.reducePow, hhigh]
  rw [Nat.or_comm, Nat.mod_eq_of_lt, ← Nat.shiftLeft_add_eq_or_of_lt hlow, Nat.shiftLeft_eq]
  · omega
  · rw [Nat.shiftLeft_eq]
    omega

theorem codeUnits_utf16le (s : JsString) : codeUnits s.utf16le = s := by
  induction s with
  | nil => rfl
  | cons unit units ih =>
      change _ :: codeUnits (utf16le units) = _
      rw [ih, joined_halves]

theorem toNat_joined (low high : UInt8) :
    (low.toUInt16 ||| high.toUInt16 <<< 8).toNat = high.toNat * 256 + low.toNat := by
  have hlow : low.toNat < 2 ^ 8 := low.toNat_lt
  have hhigh := high.toNat_lt
  simp only [UInt16.toNat_or, UInt16.toNat_shiftLeft, UInt8.toNat_toUInt16, UInt16.reduceToNat,
    Nat.reduceMod, Nat.reducePow]
  rw [Nat.or_comm, Nat.mod_eq_of_lt, ← Nat.shiftLeft_add_eq_or_of_lt hlow, Nat.shiftLeft_eq]
  · rw [Nat.shiftLeft_eq]
    omega

theorem utf16le_codeUnits {bytes : Bytes} (h : bytes.length % 2 = 0) :
    (codeUnits bytes).utf16le = bytes := by
  fun_induction codeUnits bytes with
  | case1 low high bytes ih =>
      have hlow : (low.toUInt16 ||| high.toUInt16 <<< 8).toUInt8 = low := by
        apply UInt8.toNat_inj.mp
        have hlt := low.toNat_lt
        rw [UInt16.toNat_toUInt8, toNat_joined]
        omega
      have hhigh : ((low.toUInt16 ||| high.toUInt16 <<< 8) >>> 8).toUInt8 = high := by
        apply UInt8.toNat_inj.mp
        have hlt := low.toNat_lt
        have hlt' := high.toNat_lt
        rw [UInt16.toNat_toUInt8, UInt16.toNat_shiftRight, toNat_joined, Nat.shiftRight_eq_div_pow]
        simp only [UInt16.reduceToNat, Nat.reduceMod, Nat.reducePow]
        omega
      have hrest := ih (by simp only [List.length_cons] at h; omega)
      change _ :: _ :: utf16le (codeUnits bytes) = _
      rw [hrest, hlow, hhigh]
  | case2 bytes hshort =>
      match bytes, hshort with
      | [], _ => rfl
      | [_], _ => simp at h
      | low :: high :: bytes, hshort => exact absurd rfl (hshort low high bytes)

end JsString
end OpenRfc
