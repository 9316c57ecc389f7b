import OpenRfc.Wire.CheckedBytes

/-!
The headers of RFCPRO fields: a tag and the length of the value, in two bytes or, behind a
sentinel, in four.
-/

namespace OpenRfc.Cpic
open Fallible Wire

def rfcProExtendedLengthSentinel : Nat := 0xffff
def rfcProCompactLengthMax : Nat := rfcProExtendedLengthSentinel - 1
def rfcProValueLengthMax : Nat := 0x7fffffff

inductive RfcProLengthEncoding
  | compact
  | extended
deriving DecidableEq, Repr

structure RfcProFieldHeader where
  tag : Nat
  length : Nat
  encoding : RfcProLengthEncoding
  bytesConsumed : Nat
deriving DecidableEq, Repr

def boundedInteger (value minimum maximum : Int) (field : String) : Except String Unit :=
  require (minimum ≤ value ∧ value ≤ maximum)
    s!"{field} must be an integer in {minimum}..{maximum}"

def validateTag (tag : Int) : Except String Unit := boundedInteger tag 0 0xffff "RFCPRO tag"

def validateValueLength (length : Nat) : Except String Unit :=
  boundedInteger length 0 rfcProValueLengthMax "RFCPRO length"

def rfcProFieldHeaderByteLength (length : Nat) : Except String Nat := do
  validateValueLength length
  .ok (if length ≤ rfcProCompactLengthMax then 4 else 8)

def encodeRfcProFieldHeader (tag : Int) (length : Nat) : Except String Bytes := do
  validateTag tag
  let byteLength ← rfcProFieldHeaderByteLength length
  encodeRecord byteLength "RFCPRO field header"
    (if byteLength = 4 then [.uint 2 tag "tag", .uint 2 length "compactLength"]
     else [.uint 2 tag "tag", .uint 2 rfcProExtendedLengthSentinel "extendedLengthSentinel",
       .int32 length "extendedLength"])

/-- `readInt32BE` -/
def readInt32BE (bytes : Bytes) : Int :=
  if Bytes.number bytes < 2 ^ 31 then Bytes.number bytes else Bytes.number bytes - 2 ^ 32

def decodeRfcProFieldHeader (data : Bytes) (maxValueLength : Int := rfcProValueLengthMax) :
    Except String RfcProFieldHeader := do
  boundedInteger maxValueLength 0 rfcProValueLengthMax "maxValueLength"
  let bytes := data.take 8
  require (2 ≤ bytes.length)
    s!"RFCPRO field header.tag: need 2 bytes at offset 0; {bytes.length} remain"
  let tag := Bytes.number (Bytes.slice bytes 0 2)
  require (4 ≤ bytes.length)
    s!"RFCPRO field header.length: need 2 bytes at offset 2; {bytes.length - 2} remain"
  let compactLength := Bytes.number (Bytes.slice bytes 2 2)
  if compactLength ≠ rfcProExtendedLengthSentinel then
    require (compactLength ≤ maxValueLength)
      s!"RFCPRO length {compactLength} exceeds configured limit {maxValueLength}"
    .ok ⟨tag, compactLength, .compact, 4⟩
  else do
    require (8 ≤ bytes.length)
      s!"RFCPRO field header.extendedLength: need 4 bytes at offset 4; {bytes.length - 4} remain"
    let extendedLength := readInt32BE (Bytes.slice bytes 4 4)
    require (0 ≤ extendedLength) s!"RFCPRO extended length {extendedLength} is negative"
    require (extendedLength ≤ maxValueLength)
      s!"RFCPRO length {extendedLength} exceeds configured limit {maxValueLength}"
    .ok ⟨tag, extendedLength.toNat, .extended, 8⟩

section Header
variable {tag length : Nat}

/-- The number of bytes of a header, where there is one. -/
def headerLength (length : Nat) : Nat := if length ≤ rfcProCompactLengthMax then 4 else 8

def headerBytes (tag length : Nat) : Bytes :=
  Bytes.bigEndian 2 tag ++
    if length ≤ rfcProCompactLengthMax then Bytes.bigEndian 2 length
    else Bytes.bigEndian 2 rfcProExtendedLengthSentinel ++ Bytes.bigEndian 4 length

@[simp] theorem length_headerBytes : (headerBytes tag length).length = headerLength length := by
  unfold headerBytes headerLength
  split
  · simp
  · simp

theorem boundedInteger_eq_ok {value minimum maximum : Int} {field : String} {u : Unit} :
    boundedInteger value minimum maximum field = .ok u ↔ minimum ≤ value ∧ value ≤ maximum :=
  require_eq_ok

theorem rfcProFieldHeaderByteLength_eq_ok {byteLength : Nat} :
    rfcProFieldHeaderByteLength length = .ok byteLength ↔
      length ≤ rfcProValueLengthMax ∧ headerLength length = byteLength := by
  simp only [rfcProFieldHeaderByteLength, validateValueLength, bind_eq_ok, boundedInteger_eq_ok,
    exists_const, Except.ok.injEq, headerLength]
  apply and_congr_left'
  omega

theorem encodeRfcProFieldHeader_ok (htag : tag ≤ 0xffff) (hlength : length ≤ rfcProValueLengthMax) :
    encodeRfcProFieldHeader tag length = .ok (headerBytes tag length) := by
  have hvalid : validateTag tag = .ok () := boundedInteger_eq_ok.mpr (by omega)
  have hbytes := rfcProFieldHeaderByteLength_eq_ok.mpr ⟨hlength, rfl⟩
  rw [encodeRfcProFieldHeader, hvalid, ok_bind, hbytes, ok_bind, headerLength]
  unfold rfcProValueLengthMax at hlength
  split
  · rename_i hcompact
    have hle : length ≤ 0xfffe := hcompact
    rw [if_pos rfl, encodeRecord_ok]
    · simp [headerBytes, hcompact, Field.encode]
    · rfl
    · simp only [List.forall_mem_cons, Field.InRange, List.not_mem_nil, false_implies,
        implies_true, and_true]
      omega
  · rename_i hextended
    rw [if_neg (by decide), encodeRecord_ok]
    · have hmod : ((length : Int) % 4294967296).toNat = length := by omega
      simp [headerBytes, hextended, Field.encode, hmod]
    · rfl
    · simp only [List.forall_mem_cons, Field.InRange, List.not_mem_nil, false_implies,
        implies_true, and_true, rfcProExtendedLengthSentinel]
      omega

theorem readInt32BE_bigEndian (h : length ≤ rfcProValueLengthMax) :
    readInt32BE (Bytes.bigEndian 4 length) = length := by
  unfold rfcProValueLengthMax at h
  have hnumber : Bytes.number (Bytes.bigEndian 4 length) = length :=
    Bytes.number_bigEndian 4 (by omega)
  rw [readInt32BE, hnumber, if_pos (by omega)]

/-- A header which has been written is read, within the limit of its reader. -/
theorem decodeRfcProFieldHeader_headerBytes {maxValueLength : Int} (htag : tag ≤ 0xffff)
    (hlength : length ≤ maxValueLength) (hmax : maxValueLength ≤ rfcProValueLengthMax) :
    ∃ encoding, decodeRfcProFieldHeader (headerBytes tag length) maxValueLength =
      .ok ⟨tag, length, encoding, headerLength length⟩ := by
  have htake : (headerBytes tag length).take 8 = headerBytes tag length := by
    apply List.take_of_length_le
    rw [length_headerBytes, headerLength]
    split
    · omega
    · omega
  have htagNumber : Bytes.number (Bytes.bigEndian 2 tag) = tag :=
    Bytes.number_bigEndian 2 (by omega)
  have hbound : boundedInteger maxValueLength 0 rfcProValueLengthMax "maxValueLength" = .ok () :=
    boundedInteger_eq_ok.mpr (by omega)
  have htagSlice : Bytes.slice (headerBytes tag length) 0 2 = Bytes.bigEndian 2 tag :=
    Bytes.slice_append [] _ _ rfl (Bytes.length_bigEndian 2 tag).symm
  simp only [decodeRfcProFieldHeader, hbound, ok_bind, htake, length_headerBytes, htagSlice,
    htagNumber]
  by_cases hcompact : length ≤ rfcProCompactLengthMax
  · have hle : length ≤ 0xfffe := hcompact
    have hlengthSlice : Bytes.slice (headerBytes tag length) 2 2 = Bytes.bigEndian 2 length := by
      rw [headerBytes, if_pos hcompact, ← List.append_nil (Bytes.bigEndian 2 length),
        ← List.append_assoc]
      exact Bytes.slice_append _ _ _ (Bytes.length_bigEndian 2 tag).symm
        (Bytes.length_bigEndian 2 length).symm
    have hnumber : Bytes.number (Bytes.bigEndian 2 length) = length :=
      Bytes.number_bigEndian 2 (by omega)
    have hsentinel : length ≠ rfcProExtendedLengthSentinel := by
      unfold rfcProExtendedLengthSentinel
      omega
    have hheader : headerLength length = 4 := if_pos hcompact
    refine ⟨.compact, ?_⟩
    rw [hheader, require_of (by omega), ok_bind, require_of (by omega), ok_bind, hlengthSlice,
      hnumber, if_pos hsentinel, require_of hlength, ok_bind]
  · have hheader : headerLength length = 8 := if_neg hcompact
    have hsentinelSlice : Bytes.slice (headerBytes tag length) 2 2 =
        Bytes.bigEndian 2 rfcProExtendedLengthSentinel := by
      rw [headerBytes, if_neg hcompact, ← List.append_assoc]
      exact Bytes.slice_append _ _ _ (Bytes.length_bigEndian 2 tag).symm
        (Bytes.length_bigEndian 2 _).symm
    have hlengthSlice : Bytes.slice (headerBytes tag length) 4 4 = Bytes.bigEndian 4 length := by
      rw [headerBytes, if_neg hcompact, ← List.append_assoc,
        ← List.append_nil (Bytes.bigEndian 4 length), ← List.append_assoc]
      exact Bytes.slice_append _ _ _ (by simp) (Bytes.length_bigEndian 4 length).symm
    have hnumber : readInt32BE (Bytes.bigEndian 4 length) = length :=
      readInt32BE_bigEndian (by omega)
    have hsentinel : ¬ Bytes.number (Bytes.bigEndian 2 rfcProExtendedLengthSentinel) ≠
        rfcProExtendedLengthSentinel := by decide
    refine ⟨.extended, ?_⟩
    rw [hheader, require_of (by omega), ok_bind, require_of (by omega), ok_bind, hsentinelSlice,
      if_neg hsentinel, require_of (by omega), ok_bind, hlengthSlice, hnumber,
      require_of (by omega), ok_bind, require_of hlength, ok_bind, Int.toNat_natCast]

end Header
end OpenRfc.Cpic
