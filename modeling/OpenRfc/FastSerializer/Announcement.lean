import OpenRfc.FastSerializer.Records
import OpenRfc.Foundation.JsString

/-!
Announcements of parameters: the name of a type, and a description of each field. `Buffer.from(s, "ascii")`
keeps the low eight bits of every code unit of a name.
-/

namespace OpenRfc.FastSerializer
open Fallible

inductive FastSerializerTypeCode
  | int1
  | int2
  | int4
  | character
  | date
  | time
  | float
  | raw
  | string
  | xString
deriving DecidableEq, Repr

namespace FastSerializerTypeCode

def toByte : FastSerializerTypeCode → UInt8
  | .int1 => 0x01
  | .int2 => 0x02
  | .int4 => 0x03
  | .character => 0x06
  | .date => 0x0c
  | .time => 0x0e
  | .float => 0x13
  | .raw => 0x17
  | .string => 0x18
  | .xString => 0x19

/-- `knownTypeCode` -/
def ofByte? (value : UInt8) : Option FastSerializerTypeCode :=
  [int1, int2, int4, character, date, time, float, raw, string, xString].find?
    (fun code => code.toByte = value)

theorem ofByte?_toByte (code : FastSerializerTypeCode) : ofByte? code.toByte = some code := by
  cases code <;> rfl

/-- The types whose descriptions have a width. -/
def WidthParameterized (code : FastSerializerTypeCode) : Prop := code = .character ∨ code = .raw

instance (code : FastSerializerTypeCode) : Decidable code.WidthParameterized :=
  inferInstanceAs (Decidable (_ ∨ _))

end FastSerializerTypeCode

structure FastSerializerFieldDescription where
  typeCode : FastSerializerTypeCode
  width : Option Int
  name : JsString
deriving DecidableEq, Repr

structure FastSerializerParameterAnnouncement where
  typeName : JsString
  generated : Bool
  fields : List FastSerializerFieldDescription
  offset : Nat
  bytesConsumed : Nat
deriving DecidableEq, Repr

structure FastSerializerParameterAnnouncementInput where
  typeName : JsString
  fields : List FastSerializerFieldDescription
deriving DecidableEq, Repr

/-- `Buffer.from(s, "ascii")` -/
def toAscii (s : JsString) : Bytes := s.map UInt16.toUInt8

/-- `buffer.toString("ascii")` clears the eighth bit of every byte. -/
def ofAscii (bytes : Bytes) : JsString := bytes.map fun byte => (byte &&& 0x7f).toUInt16

def parameterHeader : UInt8 := 0x44

/-- `\TYPE=` -/
def typeDescriptorPrefix : Bytes := [0x5c, 0x54, 0x59, 0x50, 0x45, 0x3d]

def isPlainByte (byte : UInt8) : Bool :=
  (0x41 ≤ byte && byte ≤ 0x5a) || (0x30 ≤ byte && byte ≤ 0x39) || byte == 0x5f || byte == 0x2f

/-- `isPlainName`; the marker of generated types is allowed in front only. -/
def isPlainName (value : Bytes) (allowGeneratedTypeMarker : Bool) : Bool :=
  match value with
  | [] => false
  | first :: rest =>
    (isPlainByte first || (allowGeneratedTypeMarker && first == 0x25)) && rest.all isPlainByte

def fastSerializerTypeName (record : FastSerializerRecord) : Option JsString :=
  let raw := record.value.drop typeDescriptorPrefix.length
  if record.tag = .descriptor ∧ typeDescriptorPrefix.length < record.value.length ∧
      record.value.take typeDescriptorPrefix.length = typeDescriptorPrefix ∧
      isPlainName raw true then
    some (ofAscii raw)
  else none

/-- `typeName.startsWith("%_T")` -/
def isGenerated (typeName : JsString) : Bool := typeName.take 3 = [0x25, 0x5f, 0x54]

section Decoding

/-- The width in the description of a field, and the number of bytes which it takes. -/
def decodeFieldWidth (typeCode : FastSerializerTypeCode) (cursor : Nat) (source : Bytes) :
    Except FastSerializerProtocolError (Option Int × Nat) :=
  if typeCode.WidthParameterized then do
    requireBytes source cursor 2 "fast-serializer field width"
    .ok (some (Bytes.number (source.take 2).reverse : Int), 2)
  else .ok (none, 0)

/-- The round of the loop over the fields: a description, and the number of its bytes. -/
def decodeField (cursor : Nat) (source : Bytes) :
    Except FastSerializerProtocolError (FastSerializerFieldDescription × Nat) := do
  requireBytes source cursor 1 "fast-serializer field type code"
  let rawTypeCode := source.headD 0
  match FastSerializerTypeCode.ofByte? rawTypeCode with
  | none => .error ⟨.unsupportedTypeCode,
      s!"fast-serializer type code 0x{hexByte rawTypeCode} is unsupported", cursor⟩
  | some typeCode => do
    let (width, widthLength) ← decodeFieldWidth typeCode (cursor + 1) (source.drop 1)
    let source := (source.drop 1).drop widthLength
    let cursor := cursor + 1 + widthLength
    requireBytes source cursor 1 "fast-serializer field name length"
    let nameLength := (source.headD 0).toNat
    requireBytes (source.drop 1) (cursor + 1) nameLength "fast-serializer field name"
    let rawName := Bytes.slice source 1 nameLength
    require (isPlainName rawName false)
      ⟨.malformedParameter, "fast-serializer field name is not a plain protocol identifier",
        cursor + 1⟩
    .ok (⟨typeCode, width, ofAscii rawName⟩, 1 + widthLength + 1 + nameLength)

def decodeFields (cursor : Nat) (source : Bytes) : Nat →
    Except FastSerializerProtocolError (List FastSerializerFieldDescription × Nat)
  | 0 => .ok ([], 0)
  | fieldCount + 1 => do
    let (field, length) ← decodeField cursor source
    let (fields, rest) ← decodeFields (cursor + length) (source.drop length) fieldCount
    .ok (field :: fields, length + rest)

def decodeParameterFromSnapshot (offset : Nat) (source : Bytes) :
    Except FastSerializerProtocolError FastSerializerParameterAnnouncement := do
  requireBytes source offset 2 "fast-serializer parameter header"
  require (source.headD 0 = parameterHeader)
    ⟨.malformedParameter,
      "fast-serializer parameter does not begin with its description header", offset⟩
  let fieldCount := ((source.drop 1).headD 0).toNat
  let descriptor ← decodeRecordFromSnapshot (offset + 2) (source.drop 2)
  match fastSerializerTypeName descriptor with
  | none => .error ⟨.malformedParameter,
      "fast-serializer parameter lacks a valid type descriptor", offset + 2⟩
  | some typeName => do
    let (fields, length) ← decodeFields (offset + 2 + descriptor.bytesConsumed)
      ((source.drop 2).drop descriptor.bytesConsumed) fieldCount
    .ok ⟨typeName, isGenerated typeName, fields, offset, 2 + descriptor.bytesConsumed + length⟩

def decodeFastSerializerParameterAnnouncement (input : Bytes) (offset : Int) :
    Except FastSerializerProtocolError FastSerializerParameterAnnouncement := do
  let offset ← inputOffset offset input.length
  decodeParameterFromSnapshot offset (input.drop offset)

end Decoding

section Encoding

def encodeFieldWidth (field : FastSerializerFieldDescription) :
    Except FastSerializerProtocolError Bytes :=
  if field.typeCode.WidthParameterized then
    let error : FastSerializerProtocolError := ⟨.malformedParameter,
      "fast-serializer character and raw fields require a width in 0..65535", 0⟩
    match field.width with
    | none => .error error
    | some width => do
      require (0 ≤ width ∧ width ≤ 0xffff) error
      .ok (Bytes.bigEndian 2 width.toNat).reverse
  else do
    require (field.width = none)
      ⟨.malformedParameter,
        "fast-serializer fixed-width field type must not declare a width", 0⟩
    .ok []

def encodeField (field : FastSerializerFieldDescription) :
    Except FastSerializerProtocolError Bytes := do
  let name := toAscii field.name
  require (name.length = field.name.length ∧ name.length ≤ 0xff ∧ isPlainName name false)
    ⟨.malformedParameter,
      "fast-serializer field name must be a 1..255-byte plain protocol identifier", 0⟩
  let width ← encodeFieldWidth field
  .ok (field.typeCode.toByte :: (width ++ (UInt8.ofNat name.length :: name)))

def encodeFastSerializerParameterAnnouncement
    (announcement : FastSerializerParameterAnnouncementInput) :
    Except FastSerializerProtocolError Bytes := do
  let typeName := toAscii announcement.typeName
  require (typeName.length = announcement.typeName.length ∧ isPlainName typeName true)
    ⟨.malformedParameter, "fast-serializer type name must be a plain protocol identifier", 0⟩
  require (typeDescriptorPrefix.length + typeName.length ≤ 0xff)
    ⟨.malformedParameter, "fast-serializer type name exceeds the descriptor wire limit", 0⟩
  require (announcement.fields.length ≤ 0xff)
    ⟨.malformedParameter, "fast-serializer field count exceeds the 255-field wire limit", 0⟩
  let descriptor ← encodeFastSerializerRecord .descriptor (typeDescriptorPrefix ++ typeName)
  let fields ← Frames.encodeAll encodeField announcement.fields
  .ok (parameterHeader :: UInt8.ofNat announcement.fields.length :: (descriptor ++ fields))

end Encoding

section Names

/-- What is left of a name: the low bytes of its code units. -/
def lowBytes (s : JsString) : JsString := ofAscii (toAscii s)

/-- No code unit lies outside of the first page. -/
def FirstPage (s : JsString) : Prop := ∀ unit ∈ s, unit < 0x100

instance (s : JsString) : Decidable (FirstPage s) :=
  List.decidableBAll (fun unit => unit < 0x100) s

/-- A byte which may stand in a name has its eighth bit clear. -/
theorem and_of_isPlainByte {byte : UInt8} (h : isPlainByte byte ∨ byte = 0x25) :
    byte &&& 0x7f = byte := by
  have hall : ∀ n : Fin 256, isPlainByte (UInt8.ofNat n) ∨ UInt8.ofNat n = 0x25 →
      UInt8.ofNat n &&& 0x7f = UInt8.ofNat n := by
    decide +kernel
  have hbyte := hall ⟨byte.toNat, UInt8.toNat_lt byte⟩
  rw [UInt8.ofNat_toNat] at hbyte
  exact hbyte h

theorem and_of_isPlainName {value : Bytes} {marker : Bool} (h : isPlainName value marker) :
    ∀ byte ∈ value, byte &&& 0x7f = byte := by
  cases value with
  | nil => cases h
  | cons first rest =>
      simp only [isPlainName, Bool.and_eq_true, Bool.or_eq_true, beq_iff_eq,
        List.all_eq_true] at h
      intro byte hb
      rcases List.mem_cons.mp hb with rfl | hb
      · exact and_of_isPlainByte (h.1.imp id And.right)
      · exact and_of_isPlainByte (.inl (h.2 byte hb))

/-- A name which has been accepted is kept if and only if it lies in the first page. -/
theorem lowBytes_eq_iff {s : JsString} {marker : Bool} (h : isPlainName (toAscii s) marker) :
    lowBytes s = s ↔ FirstPage s := by
  have hplain := and_of_isPlainName h
  have hunit : ∀ unit ∈ s, (unit.toUInt8 &&& 0x7f).toUInt16 = unit ↔ unit < 0x100 := by
    intro unit hu
    rw [hplain _ (List.mem_map_of_mem hu)]
    constructor
    · intro he
      rw [← he, UInt16.lt_iff_toNat_lt, UInt8.toNat_toUInt16]
      exact UInt8.toNat_lt _
    · intro hlt
      apply UInt16.toNat_inj.mp
      rw [UInt8.toNat_toUInt16, UInt16.toNat_toUInt8]
      exact Nat.mod_eq_of_lt (UInt16.lt_iff_toNat_lt.mp hlt)
  have hmap : lowBytes s = s.map fun unit => (unit.toUInt8 &&& 0x7f).toUInt16 := by
    rw [lowBytes, ofAscii, toAscii, List.map_map]
    rfl
  rw [hmap]
  constructor
  · intro he unit hu
    apply (hunit unit hu).mp
    exact List.map_eq_map_iff.mp (he.trans (List.map_id s).symm) unit hu
  · intro hpage
    refine (List.map_congr_left fun unit hu => ?_).trans (List.map_id s)
    exact (hunit unit hu).mpr (hpage unit hu)

theorem toAscii_lowBytes {s : JsString} {marker : Bool} (h : isPlainName (toAscii s) marker) :
    toAscii (lowBytes s) = toAscii s := by
  have hplain := and_of_isPlainName h
  have hbytes : ∀ bytes : Bytes, (∀ byte ∈ bytes, byte &&& 0x7f = byte) →
      toAscii (ofAscii bytes) = bytes := by
    intro bytes hplain
    unfold toAscii ofAscii
    rw [List.map_map]
    refine (List.map_congr_left fun byte hb => ?_).trans (List.map_id bytes)
    show ((byte &&& 0x7f).toUInt16).toUInt8 = byte
    rw [hplain byte hb, UInt8.toUInt8_toUInt16]
  exact hbytes _ hplain

theorem length_lowBytes (s : JsString) : (lowBytes s).length = s.length := by
  rw [lowBytes, ofAscii, toAscii, List.length_map, List.length_map]

end Names

section Fields

def FastSerializerFieldDescription.lowBytes (field : FastSerializerFieldDescription) :
    FastSerializerFieldDescription := { field with name := FastSerializer.lowBytes field.name }

theorem decodeFieldWidth_encodeFieldWidth {field : FastSerializerFieldDescription}
    {width : Bytes} (h : encodeFieldWidth field = .ok width) (cursor : Nat) (rest : Bytes) :
    decodeFieldWidth field.typeCode cursor (width ++ rest) = .ok (field.width, width.length) := by
  unfold encodeFieldWidth at h
  unfold decodeFieldWidth
  split at h
  · rename_i hcode
    rw [if_pos hcode]
    cases hw : field.width with
    | none =>
        rw [hw] at h
        cases h
    | some value =>
        rw [hw] at h
        simp only [bind_eq_ok, require_eq_ok, exists_const, Except.ok.injEq] at h
        obtain ⟨hrange, rfl⟩ := h
        have hlength : (Bytes.bigEndian 2 value.toNat).reverse.length = 2 := by
          rw [List.length_reverse, Bytes.length_bigEndian]
        rw [requireBytes_of (by rw [List.length_append, hlength]; omega), ok_bind,
          List.take_left' hlength, List.reverse_reverse, Bytes.number_bigEndian 2 (by omega),
          Int.toNat_of_nonneg hrange.1, hlength]
  · rename_i hcode
    rw [if_neg hcode]
    simp only [bind_eq_ok, require_eq_ok, exists_const, Except.ok.injEq] at h
    obtain ⟨hnone, rfl⟩ := h
    rw [hnone]
    rfl

theorem decodeField_encodeField {field : FastSerializerFieldDescription} {bytes : Bytes}
    (h : encodeField field = .ok bytes) (cursor : Nat) (rest : Bytes) :
    decodeField cursor (bytes ++ rest) = .ok (field.lowBytes, bytes.length) := by
  simp only [encodeField, bind_eq_ok, require_eq_ok, exists_const, Except.ok.injEq] at h
  obtain ⟨⟨-, hlength, hplain⟩, width, hwidth, rfl⟩ := h
  have hdecode := decodeFieldWidth_encodeFieldWidth hwidth (cursor + 1)
    (UInt8.ofNat (toAscii field.name).length :: (toAscii field.name ++ rest))
  have hname : (UInt8.ofNat (toAscii field.name).length).toNat = (toAscii field.name).length := by
    rw [UInt8.toNat_ofNat']
    exact Nat.mod_eq_of_lt (by omega)
  have hslice : Bytes.slice (UInt8.ofNat (toAscii field.name).length ::
      (toAscii field.name ++ rest)) 1 (toAscii field.name).length = toAscii field.name :=
    Bytes.slice_append [_] _ rest rfl rfl
  unfold decodeField
  simp only [List.cons_append, List.append_assoc, List.headD_cons, List.drop_succ_cons,
    List.drop_zero, FastSerializerTypeCode.ofByte?_toByte]
  rw [requireBytes_of (by rw [List.length_cons]; omega), ok_bind, hdecode]
  simp only [ok_bind, List.drop_left, List.headD_cons, hname, hslice, List.drop_succ_cons,
    List.drop_zero]
  rw [requireBytes_of (by rw [List.length_cons]; omega), ok_bind,
    requireBytes_of (by rw [List.length_append]; omega), ok_bind, require_of hplain, ok_bind]
  simp only [List.length_cons, List.length_append]
  congr 2
  omega

theorem encodeField_lowBytes {field : FastSerializerFieldDescription}
    (h : isPlainName (toAscii field.name) false) :
    encodeField field.lowBytes = encodeField field := by
  unfold encodeField FastSerializerFieldDescription.lowBytes
  rw [toAscii_lowBytes h, length_lowBytes]
  rfl

theorem decodeFields_encodeAll {fields : List FastSerializerFieldDescription} {bytes : Bytes}
    (h : Frames.encodeAll encodeField fields = .ok bytes) (cursor : Nat) (rest : Bytes) :
    decodeFields cursor (bytes ++ rest) fields.length =
      .ok (fields.map FastSerializerFieldDescription.lowBytes, bytes.length) := by
  induction fields generalizing bytes cursor with
  | nil =>
      cases h
      rfl
  | cons field fields ih =>
      obtain ⟨first, others, hfirst, hothers, rfl⟩ := Frames.encodeAll_cons_eq_ok.mp h
      rw [List.length_cons, decodeFields, List.append_assoc, decodeField_encodeField hfirst]
      simp only [ok_bind, List.drop_left]
      rw [ih hothers]
      simp only [ok_bind, List.map_cons, List.length_append]

end Fields

section Announcements

theorem fastSerializerTypeName_descriptor {typeName : Bytes} {offset consumed : Nat}
    (h : isPlainName typeName true) :
    fastSerializerTypeName ⟨.descriptor, typeDescriptorPrefix ++ typeName, offset, consumed⟩ =
      some (ofAscii typeName) := by
  have hne : 0 < typeName.length := by
    cases typeName with
    | nil => cases h
    | cons byte rest => exact Nat.succ_pos _
  unfold fastSerializerTypeName
  simp only [List.drop_left, List.take_left, List.length_append]
  exact if_pos ⟨trivial, by omega, trivial, h⟩

def FastSerializerParameterAnnouncementInput.lowBytes
    (announcement : FastSerializerParameterAnnouncementInput) :
    FastSerializerParameterAnnouncementInput :=
  ⟨FastSerializer.lowBytes announcement.typeName,
    announcement.fields.map FastSerializerFieldDescription.lowBytes⟩

def FastSerializerParameterAnnouncement.input
    (announcement : FastSerializerParameterAnnouncement) :
    FastSerializerParameterAnnouncementInput := ⟨announcement.typeName, announcement.fields⟩

/-- What an accepted announcement consists of. -/
theorem of_encodeParameterAnnouncement {announcement : FastSerializerParameterAnnouncementInput}
    {bytes : Bytes} (h : encodeFastSerializerParameterAnnouncement announcement = .ok bytes) :
    isPlainName (toAscii announcement.typeName) true ∧
      (∀ field ∈ announcement.fields, isPlainName (toAscii field.name) false) ∧
      ∃ descriptor fields,
        encodeFastSerializerRecord .descriptor
          (typeDescriptorPrefix ++ toAscii announcement.typeName) = .ok descriptor ∧
        Frames.encodeAll encodeField announcement.fields = .ok fields ∧
        announcement.fields.length ≤ 0xff ∧
        bytes = parameterHeader :: UInt8.ofNat announcement.fields.length ::
          (descriptor ++ fields) := by
  simp only [encodeFastSerializerParameterAnnouncement, bind_eq_ok, require_eq_ok, exists_const,
    Except.ok.injEq] at h
  obtain ⟨⟨-, hname⟩, -, hcount, descriptor, hdescriptor, fields, hfields, rfl⟩ := h
  refine ⟨hname, ?_, descriptor, fields, hdescriptor, hfields, hcount, rfl⟩
  clear hcount
  intro field hf
  obtain ⟨bytes, hbytes⟩ := Frames.encode_of_mem hfields hf
  simp only [encodeField, bind_eq_ok, require_eq_ok, exists_const] at hbytes
  exact hbytes.1.2.2

/-- An announcement is decoded to the low bytes of its names. -/
theorem decode_encodeParameterAnnouncement
    {announcement : FastSerializerParameterAnnouncementInput} {bytes : Bytes}
    (h : encodeFastSerializerParameterAnnouncement announcement = .ok bytes) :
    ∃ decoded, decodeFastSerializerParameterAnnouncement bytes 0 = .ok decoded ∧
      decoded.input = announcement.lowBytes ∧ decoded.bytesConsumed = bytes.length := by
  obtain ⟨hname, -, descriptor, fields, hdescriptor, hfields, hcount, rfl⟩ :=
    of_encodeParameterAnnouncement h
  have hrecord := decodeRecord_encodeRecord hdescriptor 2 fields
  have hcount' : (UInt8.ofNat announcement.fields.length).toNat = announcement.fields.length := by
    rw [UInt8.toNat_ofNat']
    exact Nat.mod_eq_of_lt (by omega)
  have hdecode := decodeFields_encodeAll hfields (2 + descriptor.length) []
  rw [List.append_nil] at hdecode
  refine ⟨⟨lowBytes announcement.typeName, isGenerated (lowBytes announcement.typeName),
    announcement.fields.map FastSerializerFieldDescription.lowBytes, 0,
    2 + descriptor.length + fields.length⟩, ?_, rfl, ?_⟩
  · simp only [decodeFastSerializerParameterAnnouncement, inputOffset]
    rw [require_of ⟨le_rfl, Int.natCast_nonneg _⟩]
    simp only [ok_bind, Int.toNat_zero, List.drop_zero, decodeParameterFromSnapshot,
      List.headD_cons, List.drop_succ_cons, hcount']
    rw [requireBytes_of (by simp), ok_bind, require_of trivial, ok_bind, hrecord]
    simp only [ok_bind, fastSerializerTypeName_descriptor hname, List.drop_left, Nat.zero_add]
    rw [hdecode]
    rfl
  · simp only [List.length_cons, List.length_append]
    omega

theorem encodeParameterAnnouncement_lowBytes
    {announcement : FastSerializerParameterAnnouncementInput} {bytes : Bytes}
    (h : encodeFastSerializerParameterAnnouncement announcement = .ok bytes) :
    encodeFastSerializerParameterAnnouncement announcement.lowBytes = .ok bytes := by
  obtain ⟨hname, hfields, -⟩ := of_encodeParameterAnnouncement h
  have hencode : Frames.encodeAll encodeField
      (announcement.fields.map FastSerializerFieldDescription.lowBytes) =
        Frames.encodeAll encodeField announcement.fields := by
    apply Frames.encodeAll_map
    intro field hf
    exact encodeField_lowBytes (hfields field hf)
  rw [← h]
  unfold encodeFastSerializerParameterAnnouncement
    FastSerializerParameterAnnouncementInput.lowBytes
  simp only [toAscii_lowBytes hname, length_lowBytes, List.length_map, hencode]

def FastSerializerParameterAnnouncementInput.FirstPage
    (announcement : FastSerializerParameterAnnouncementInput) : Prop :=
  FastSerializer.FirstPage announcement.typeName ∧
    ∀ field ∈ announcement.fields, FastSerializer.FirstPage field.name

instance (announcement : FastSerializerParameterAnnouncementInput) :
    Decidable announcement.FirstPage :=
  inferInstanceAs (Decidable (_ ∧ ∀ field ∈ announcement.fields, _))

theorem announcement_lowBytes_eq_iff
    {announcement : FastSerializerParameterAnnouncementInput} {bytes : Bytes}
    (h : encodeFastSerializerParameterAnnouncement announcement = .ok bytes) :
    announcement.lowBytes = announcement ↔ announcement.FirstPage := by
  obtain ⟨hname, hfields, -⟩ := of_encodeParameterAnnouncement h
  have hfield : ∀ field ∈ announcement.fields,
      field.lowBytes = field ↔ FirstPage field.name := by
    intro field hf
    rw [← lowBytes_eq_iff (hfields field hf)]
    constructor
    · exact congrArg FastSerializerFieldDescription.name
    · intro he
      rw [FastSerializerFieldDescription.lowBytes, he]
  constructor
  · intro he
    obtain ⟨hlow, hlows⟩ := FastSerializerParameterAnnouncementInput.mk.injEq .. |>.mp he
    refine ⟨(lowBytes_eq_iff hname).mp hlow, fun field hf => (hfield field hf).mp ?_⟩
    exact List.map_eq_map_iff.mp (hlows.trans (List.map_id _).symm) field hf
  · intro hpage
    have hlows : announcement.fields.map FastSerializerFieldDescription.lowBytes =
        announcement.fields :=
      (List.map_congr_left fun field hf => (hfield field hf).mpr (hpage.2 field hf)).trans
        (List.map_id _)
    rw [FastSerializerParameterAnnouncementInput.lowBytes, hlows,
      (lowBytes_eq_iff hname).mpr hpage.1]

end Announcements
end OpenRfc.FastSerializer
