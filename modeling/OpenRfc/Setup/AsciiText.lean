import OpenRfc.Foundation.JsString
import OpenRfc.Foundation.Fallible
import Mathlib.Data.FinEnum

/-!
ASCII texts in fields of a fixed width. A reader either ends a text at the first padding byte, or
takes the padding from its end.
-/

namespace OpenRfc.Setup
open Fallible

/-- `/^[\x20-\x7e]*$/` -/
def isPrintable (value : JsString) : Bool := value.all fun unit => 0x20 ≤ unit ∧ unit ≤ 0x7e

/-- `Buffer.from(value, "ascii")` -/
def asciiBytes (value : JsString) : Bytes := value.map (·.toUInt8)

/-- `bytes.toString("ascii")` -/
def asciiText (bytes : Bytes) : JsString := bytes.map fun byte => (byte &&& 0x7f).toUInt16

def encodePaddedAscii (value : JsString) (width : Nat) (padding : UInt8) (field : String) :
    Except String Bytes := do
  require (isPrintable value ∧ value.length ≤ width)
    s!"{field} must contain at most {width} ASCII bytes"
  .ok (asciiBytes value ++ List.replicate (width - value.length) padding)

def decodePaddedAscii (encoded : Bytes) (padding : UInt8) (field : String) :
    Except String JsString := do
  let last := encoded.idxOf padding
  require (∀ byte ∈ encoded.take last, 0x20 ≤ byte ∧ byte ≤ 0x7e)
    s!"{field} contains a non-ASCII byte"
  require (∀ byte ∈ encoded.drop last, byte = padding)
    s!"{field} contains data after its first padding byte"
  .ok (asciiText (encoded.take last))

/-- `value.replace(/[\x00 ]+$/u, "")` -/
def trimPadding (value : JsString) : JsString :=
  value.rdropWhile fun unit => unit == 0 || unit == 0x20

/-- `decodeAscii` of the gateway records -/
def decodeAscii (data : Bytes) (field : String) : Except String JsString := do
  require (∀ byte ∈ data, byte = 0 ∨ 0x20 ≤ byte ∧ byte ≤ 0x7e)
    s!"{field} contains a non-ASCII byte"
  .ok (trimPadding (asciiText data))

section Text
variable {value : JsString} {width : Nat} {padding : UInt8} {field : String} {encoded : Bytes}

theorem isPrintable_iff : isPrintable value = true ↔ ∀ unit ∈ value, 0x20 ≤ unit ∧ unit ≤ 0x7e := by
  simp [isPrintable]

theorem toUInt8_of_printable {unit : UInt16} (h : 0x20 ≤ unit ∧ unit ≤ 0x7e) :
    (0x20 ≤ unit.toUInt8 ∧ unit.toUInt8 ≤ 0x7e) ∧
      (unit.toUInt8 &&& 0x7f).toUInt16 = unit := by
  obtain ⟨hlower, hupper⟩ := h
  simp only [UInt16.le_iff_toNat_le, UInt8.le_iff_toNat_le, UInt16.toNat_toUInt8, UInt16.reduceToNat,
    UInt8.reduceToNat] at *
  refine ⟨by omega, UInt16.toNat_inj.mp ?_⟩
  have hmask : unit.toNat % 256 &&& 0x7f = unit.toNat % 256 % 2 ^ 7 :=
    Nat.and_two_pow_sub_one_eq_mod _ 7
  simp only [UInt8.toNat_toUInt16, UInt8.toNat_and, UInt16.toNat_toUInt8, UInt8.reduceToNat, hmask]
  omega

theorem asciiBytes_printable (h : isPrintable value = true) :
    ∀ byte ∈ asciiBytes value, 0x20 ≤ byte ∧ byte ≤ 0x7e := by
  intro byte hbyte
  obtain ⟨unit, hunit, rfl⟩ := List.mem_map.mp hbyte
  exact (toUInt8_of_printable (isPrintable_iff.mp h unit hunit)).1

theorem asciiText_asciiBytes (h : isPrintable value = true) :
    asciiText (asciiBytes value) = value := by
  rw [asciiText, asciiBytes, List.map_map]
  have hsame : ∀ unit ∈ value, (unit.toUInt8 &&& 0x7f).toUInt16 = id unit :=
    fun unit hunit => (toUInt8_of_printable (isPrintable_iff.mp h unit hunit)).2
  exact (List.map_congr_left hsame).trans (List.map_id value)

theorem encodePaddedAscii_eq_ok :
    encodePaddedAscii value width padding field = .ok encoded ↔
      (isPrintable value = true ∧ value.length ≤ width) ∧
        asciiBytes value ++ List.replicate (width - value.length) padding = encoded := by
  simp only [encodePaddedAscii, bind_eq_ok, require_eq_ok, exists_const, Except.ok.injEq]

theorem length_encodePaddedAscii (h : encodePaddedAscii value width padding field = .ok encoded) :
    encoded.length = width := by
  obtain ⟨⟨-, hfits⟩, rfl⟩ := encodePaddedAscii_eq_ok.mp h
  rw [List.length_append, asciiBytes, List.length_map, List.length_replicate]
  omega

/-- A text without the padding byte is read back. -/
theorem decodePaddedAscii_of (h : encodePaddedAscii value width padding field = .ok encoded)
    (hpadding : padding ∉ asciiBytes value) (field' : String) :
    decodePaddedAscii encoded padding field' = .ok value := by
  obtain ⟨⟨hprintable, hfits⟩, rfl⟩ := encodePaddedAscii_eq_ok.mp h
  have hlast : (asciiBytes value ++ List.replicate (width - value.length) padding).idxOf padding =
      (asciiBytes value).length := by
    rw [List.idxOf_append_of_notMem hpadding]
    cases width - value.length with
    | zero => rfl
    | succ count => rw [List.replicate_succ, List.idxOf_cons_self, Nat.add_zero]
  rw [decodePaddedAscii]
  simp only [hlast, List.take_left, List.drop_left]
  rw [require_of (asciiBytes_printable hprintable), ok_bind,
    require_of fun byte hbyte => List.eq_of_mem_replicate hbyte, ok_bind,
    asciiText_asciiBytes hprintable]

theorem zero_not_mem_asciiBytes (h : isPrintable value = true) : (0 : UInt8) ∉ asciiBytes value :=
  fun hmem => absurd (asciiBytes_printable h 0 hmem).1 (by decide)

theorem space_not_mem_asciiBytes (h : isPrintable value = true) (hspace : 0x20 ∉ value) :
    (0x20 : UInt8) ∉ asciiBytes value := by
  intro hmem
  obtain ⟨unit, hunit, heq⟩ := List.mem_map.mp hmem
  have hsame := (toUInt8_of_printable (isPrintable_iff.mp h unit hunit)).2
  rw [heq] at hsame
  obtain rfl : 0x20 = unit := hsame
  exact hspace hunit

/-- A text which does not end with a space is read back. -/
theorem decodeAscii_of (h : encodePaddedAscii value width padding field = .ok encoded)
    (hpadding : padding = 0 ∨ padding = 0x20) (hlast : value.getLast? ≠ some 0x20)
    (field' : String) : decodeAscii encoded field' = .ok value := by
  obtain ⟨⟨hprintable, -⟩, rfl⟩ := encodePaddedAscii_eq_ok.mp h
  have hbytes : ∀ byte ∈ asciiBytes value ++ List.replicate (width - value.length) padding,
      byte = 0 ∨ 0x20 ≤ byte ∧ byte ≤ 0x7e := by
    intro byte hbyte
    rcases List.mem_append.mp hbyte with hbyte | hbyte
    · exact .inr (asciiBytes_printable hprintable byte hbyte)
    · rw [List.eq_of_mem_replicate hbyte]
      rcases hpadding with rfl | rfl <;> decide
  have htrim : ∀ count, trimPadding (value ++ List.replicate count (padding &&& 0x7f).toUInt16) =
      value := by
    intro count
    induction count with
    | zero =>
        rw [List.replicate_zero, List.append_nil, trimPadding, List.rdropWhile_eq_self_iff]
        intro hne hends
        have hlastUnit := isPrintable_iff.mp hprintable _ (List.getLast_mem hne)
        simp only [Bool.or_eq_true, beq_iff_eq] at hends
        rcases hends with hzero | hspace
        · rw [hzero] at hlastUnit
          exact absurd hlastUnit.1 (by decide)
        · exact hlast (by rw [List.getLast?_eq_getLast_of_ne_nil hne, hspace])
    | succ count ih =>
        rw [List.replicate_succ', ← List.append_assoc, trimPadding,
          List.rdropWhile_concat_pos _ _ _ (by rcases hpadding with rfl | rfl <;> decide),
          ← trimPadding, ih]
  rw [decodeAscii, require_of hbytes, ok_bind]
  simp only [asciiText, List.map_append, List.map_replicate]
  rw [← asciiText, asciiText_asciiBytes hprintable, htrim]

end Text
end OpenRfc.Setup
