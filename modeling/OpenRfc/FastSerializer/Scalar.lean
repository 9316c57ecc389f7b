import OpenRfc.FastSerializer.Announcement
import OpenRfc.FastSerializer.Compression

/-!
Elementary parameters: the description of one field, and its value. A long value makes the
whole parameter a compressed block.
-/

namespace OpenRfc.FastSerializer
open Fallible Lz4

structure FastSerializerScalarParameter where
  typeName : JsString
  generated : Bool
  compressed : Bool
  typeCode : FastSerializerTypeCode
  width : Option Int
  value : Bytes
  bytesConsumed : Nat
deriving DecidableEq, Repr

structure FastSerializerScalarParameterInput where
  typeName : JsString
  typeCode : FastSerializerTypeCode
  width : Option Int
  value : Bytes
deriving DecidableEq, Repr

def maxLiteralScalarValueLength : Nat := 512

/-- `TABLE_LINE` -/
def scalarFieldName : Bytes := [0x54, 0x41, 0x42, 0x4c, 0x45, 0x5f, 0x4c, 0x49, 0x4e, 0x45]

structure FastSerializerScalarRule where
  valueTag : FastSerializerRecordTag
  terminalEnd : Bool
deriving DecidableEq, Repr

def scalarRule : FastSerializerTypeCode → Option FastSerializerScalarRule
  | .int4 => some ⟨.int4, true⟩
  | .character => some ⟨.character, true⟩
  | .string => some ⟨.string, false⟩
  | _ => none

def isExactCompressedEnvelope (input : Bytes) : Bool :=
  let uncompressedLength := Bytes.number (input.take 4).reverse
  let compressedLength := Bytes.number (Bytes.slice input 4 4).reverse
  compressionHeaderLength ≤ input.length && 0 < uncompressedLength &&
    uncompressedLength ≤ maxLz4BlockLength && 0 < compressedLength &&
    compressedLength ≤ uncompressedLength && compressedLength ≤ maxLz4BlockLength &&
    compressionHeaderLength + compressedLength == input.length

section Decoding

def unsupportedElementaryType (rawTypeCode : UInt8) (offset : Nat) :
    FastSerializerProtocolError :=
  ⟨.unsupportedTypeCode, s!"fast-serializer type code 0x{hexByte rawTypeCode} is unsupported " ++
    "for an elementary parameter", offset⟩

/-- The rule of the type code at the cursor. -/
def decodeScalarRule (cursor : Nat) (rawTypeCode : UInt8) :
    Except FastSerializerProtocolError (FastSerializerTypeCode × FastSerializerScalarRule) :=
  match FastSerializerTypeCode.ofByte? rawTypeCode with
  | none => .error (unsupportedElementaryType rawTypeCode cursor)
  | some typeCode =>
    match scalarRule typeCode with
    | none => .error (unsupportedElementaryType rawTypeCode cursor)
    | some rule => .ok (typeCode, rule)

/-- The width of a character type, and the number of bytes which it takes. -/
def decodeScalarWidth (typeCode : FastSerializerTypeCode) (cursor : Nat) (source : Bytes) :
    Except FastSerializerProtocolError (Option Int × Nat) :=
  if typeCode = .character then do
    requireBytes source cursor 2 "scalar parameter character width"
    let width := Bytes.number (source.take 2).reverse
    require (width ≠ 0 ∧ width % 2 = 0)
      ⟨.malformedParameter,
        "fast-serializer scalar character width must be a positive even byte count", cursor⟩
    .ok (some (width : Int), 2)
  else .ok (none, 0)

/-- The end record, where the rule asks for one: the number of its bytes. -/
def decodeTerminal (rule : FastSerializerScalarRule) (cursor : Nat) (source : Bytes) :
    Except FastSerializerProtocolError Nat :=
  if rule.terminalEnd then do
    let terminal ← decodeRecordFromSnapshot cursor source
    require (terminal.tag = .end)
      ⟨.malformedParameter, "fast-serializer scalar parameter lacks its terminal end record",
        cursor⟩
    .ok terminal.bytesConsumed
  else .ok 0

/-- The value record and what follows it, to the end of the parameter. -/
def decodeScalarValue (rule : FastSerializerScalarRule) (compressed : Bool) (cursor : Nat)
    (source : Bytes) : Except FastSerializerProtocolError Bytes := do
  let value ← decodeRecordFromSnapshot cursor source
  require (value.tag = rule.valueTag)
    ⟨.malformedParameter, "fast-serializer scalar value record does not match its type code",
      cursor⟩
  require (compressed ∨ value.value.length ≤ maxLiteralScalarValueLength)
    ⟨.compressionLimitExceeded, "fast-serializer scalar value requires compression support",
      cursor⟩
  let cursor := cursor + value.bytesConsumed
  let source := source.drop value.bytesConsumed
  let terminal ← decodeTerminal rule cursor source
  require (terminal = source.length)
    ⟨.malformedParameter, "fast-serializer scalar parameter has trailing bytes",
      cursor + terminal⟩
  .ok value.value

def decodeScalarParameterFromSnapshot (input : Bytes) (compressed : Bool) (bytesConsumed : Nat) :
    Except FastSerializerProtocolError FastSerializerScalarParameter := do
  let descriptor ← decodeRecordFromSnapshot 0 input
  match fastSerializerTypeName descriptor with
  | none => .error ⟨.malformedParameter,
      "fast-serializer scalar parameter lacks a valid type descriptor", 0⟩
  | some typeName => do
    let cursor := descriptor.bytesConsumed
    let source := input.drop descriptor.bytesConsumed
    requireBytes source cursor 1 "scalar parameter type code"
    let (typeCode, rule) ← decodeScalarRule cursor (source.headD 0)
    let (width, widthLength) ← decodeScalarWidth typeCode (cursor + 1) (source.drop 1)
    let cursor := cursor + 1 + widthLength
    let source := (source.drop 1).drop widthLength
    requireBytes source cursor 1 "scalar parameter field-name length"
    let nameLength := (source.headD 0).toNat
    requireBytes (source.drop 1) (cursor + 1) nameLength "scalar parameter field name"
    require (Bytes.slice source 1 nameLength = scalarFieldName)
      ⟨.malformedParameter, "fast-serializer elementary parameter field must be TABLE_LINE",
        cursor + 1⟩
    let value ← decodeScalarValue rule compressed (cursor + 1 + nameLength)
      ((source.drop 1).drop nameLength)
    .ok ⟨typeName, isGenerated typeName, compressed, typeCode, width, value, bytesConsumed⟩

def decodeFastSerializerScalarParameter (input : Bytes) :
    Except FastSerializerProtocolError FastSerializerScalarParameter :=
  if isExactCompressedEnvelope input then do
    let compressed ← decodeFastSerializerCompressedBlock input 0 {}
    require (compressed.bytesConsumed = input.length)
      ⟨.malformedCompression, "fast-serializer compressed parameter has trailing bytes",
        compressed.bytesConsumed⟩
    decodeScalarParameterFromSnapshot compressed.data true input.length
  else decodeScalarParameterFromSnapshot input false input.length

end Decoding

section Encoding

/-- The parameter without compression. -/
def encodeLiteralParameter (parameter : FastSerializerScalarParameterInput)
    (rule : FastSerializerScalarRule) : Except FastSerializerProtocolError Bytes := do
  let announcement ← encodeFastSerializerParameterAnnouncement
    ⟨parameter.typeName, [⟨parameter.typeCode, parameter.width, ofAscii scalarFieldName⟩]⟩
  let value ← encodeFastSerializerRecord rule.valueTag parameter.value
  let terminal := if rule.terminalEnd then [FastSerializerRecordTag.end.toByte] else []
  .ok (announcement.drop 2 ++ value ++ terminal)

def encodeFastSerializerScalarParameter (parameter : FastSerializerScalarParameterInput) :
    Except FastSerializerProtocolError Bytes :=
  match scalarRule parameter.typeCode with
  | none => .error (unsupportedElementaryType parameter.typeCode.toByte 0)
  | some rule => do
    require (parameter.typeCode = .character →
        ∃ width ∈ parameter.width, width ≠ 0 ∧ width % 2 = 0)
      ⟨.malformedParameter,
        "fast-serializer scalar character width must be a positive even byte count", 0⟩
    let literal ← encodeLiteralParameter parameter rule
    if parameter.value.length ≤ maxLiteralScalarValueLength then .ok literal
    else encodeFastSerializerCompressedBlock literal {}

end Encoding

section Literal
variable {parameter : FastSerializerScalarParameterInput} {rule : FastSerializerScalarRule}
  {literal : Bytes}

def FastSerializerScalarRule.terminal (rule : FastSerializerScalarRule) : Bytes :=
  if rule.terminalEnd then [FastSerializerRecordTag.end.toByte] else []

/-- The parts of a literal parameter. -/
theorem of_encodeLiteralParameter (h : encodeLiteralParameter parameter rule = .ok literal) :
    isPlainName (toAscii parameter.typeName) true ∧
      ∃ descriptor width value,
        encodeFastSerializerRecord .descriptor
          (typeDescriptorPrefix ++ toAscii parameter.typeName) = .ok descriptor ∧
        encodeFieldWidth ⟨parameter.typeCode, parameter.width, ofAscii scalarFieldName⟩ =
          .ok width ∧
        encodeFastSerializerRecord rule.valueTag parameter.value = .ok value ∧
        literal = descriptor ++ (parameter.typeCode.toByte ::
          (width ++ (10 :: (scalarFieldName ++ (value ++ rule.terminal))))) := by
  simp only [encodeLiteralParameter, bind_eq_ok, Except.ok.injEq] at h
  obtain ⟨announcement, hannouncement, value, hvalue, rfl⟩ := h
  obtain ⟨hname, -, descriptor, fields, hdescriptor, hfields, -, rfl⟩ :=
    of_encodeParameterAnnouncement hannouncement
  obtain ⟨field, others, hfield, hothers, rfl⟩ := Frames.encodeAll_cons_eq_ok.mp hfields
  cases hothers
  simp only [encodeField, bind_eq_ok, require_eq_ok, exists_const, Except.ok.injEq] at hfield
  obtain ⟨-, width, hwidth, rfl⟩ := hfield
  have hfieldName : toAscii (ofAscii scalarFieldName) = scalarFieldName := by decide
  refine ⟨hname, descriptor, width, value, hdescriptor, hwidth, hvalue, ?_⟩
  rw [hfieldName, FastSerializerScalarRule.terminal]
  simp only [List.drop_succ_cons, List.drop_zero, List.append_assoc, List.cons_append,
    List.append_nil]
  rfl

theorem decodeScalarRule_toByte {typeCode : FastSerializerTypeCode}
    (h : scalarRule typeCode = some rule) (cursor : Nat) :
    decodeScalarRule cursor typeCode.toByte = .ok (typeCode, rule) := by
  unfold decodeScalarRule
  rw [FastSerializerTypeCode.ofByte?_toByte]
  simp only [h]

theorem widthParameterized_iff {typeCode : FastSerializerTypeCode}
    (h : scalarRule typeCode = some rule) :
    typeCode.WidthParameterized ↔ typeCode = .character := by
  constructor
  · rintro (rfl | rfl)
    · rfl
    · cases h
  · exact .inl

theorem decodeScalarWidth_encodeFieldWidth {width : Bytes} {name : JsString}
    (hrule : scalarRule parameter.typeCode = some rule)
    (heven : parameter.typeCode = .character →
      ∃ width ∈ parameter.width, width ≠ 0 ∧ width % 2 = 0)
    (h : encodeFieldWidth ⟨parameter.typeCode, parameter.width, name⟩ = .ok width) (cursor : Nat)
    (rest : Bytes) :
    decodeScalarWidth parameter.typeCode cursor (width ++ rest) =
      .ok (parameter.width, width.length) := by
  have hfield := decodeFieldWidth_encodeFieldWidth h cursor rest
  unfold decodeFieldWidth at hfield
  unfold decodeScalarWidth
  by_cases hcode : parameter.typeCode = .character
  · rw [if_pos ((widthParameterized_iff hrule).mpr hcode)] at hfield
    simp only [bind_eq_ok, requireBytes_eq_ok, exists_const, Except.ok.injEq,
      Prod.mk.injEq] at hfield
    obtain ⟨hlength, hwidth, htwo⟩ := hfield
    obtain ⟨value, hvalue, hne, hmod⟩ := heven hcode
    have hnumber := hwidth.trans hvalue
    rw [Option.some.injEq] at hnumber
    rw [if_pos hcode, requireBytes_of hlength, ok_bind]
    dsimp only
    rw [require_of (by omega), ok_bind, hwidth, htwo]
  · rw [if_neg (mt (widthParameterized_iff hrule).mp hcode)] at hfield
    rw [if_neg hcode]
    exact hfield

theorem decodeTerminal_terminal (cursor : Nat) :
    decodeTerminal rule cursor rule.terminal = .ok rule.terminal.length := by
  unfold decodeTerminal FastSerializerScalarRule.terminal
  cases rule.terminalEnd <;> rfl

theorem decodeScalarValue_value {value bytes : Bytes} {compressed : Bool}
    (h : encodeFastSerializerRecord rule.valueTag value = .ok bytes)
    (hc : compressed ∨ value.length ≤ maxLiteralScalarValueLength) (cursor : Nat) :
    decodeScalarValue rule compressed cursor (bytes ++ rule.terminal) = .ok value := by
  unfold decodeScalarValue
  rw [decodeRecord_encodeRecord h]
  simp only [ok_bind, List.drop_left]
  rw [require_of trivial, ok_bind, require_of hc, ok_bind, decodeTerminal_terminal, ok_bind,
    require_of rfl, ok_bind]

/-- A literal parameter is decoded to the low bytes of its type name. -/
theorem decodeScalarParameter_literal {compressed : Bool}
    (hrule : scalarRule parameter.typeCode = some rule)
    (heven : parameter.typeCode = .character →
      ∃ width ∈ parameter.width, width ≠ 0 ∧ width % 2 = 0)
    (h : encodeLiteralParameter parameter rule = .ok literal)
    (hc : compressed ∨ parameter.value.length ≤ maxLiteralScalarValueLength)
    (bytesConsumed : Nat) :
    decodeScalarParameterFromSnapshot literal compressed bytesConsumed =
      .ok ⟨lowBytes parameter.typeName, isGenerated (lowBytes parameter.typeName), compressed,
        parameter.typeCode, parameter.width, parameter.value, bytesConsumed⟩ := by
  obtain ⟨hname, descriptor, width, value, hdescriptor, hwidth, hvalue, rfl⟩ :=
    of_encodeLiteralParameter h
  have hslice : Bytes.slice (10 :: (scalarFieldName ++ (value ++ rule.terminal))) 1 10 =
      scalarFieldName := Bytes.slice_append [10] scalarFieldName _ rfl rfl
  unfold decodeScalarParameterFromSnapshot
  rw [decodeRecord_encodeRecord hdescriptor, ok_bind]
  simp only [fastSerializerTypeName_descriptor hname, List.drop_left, List.headD_cons,
    List.drop_succ_cons, List.drop_zero]
  rw [requireBytes_of (by rw [List.length_cons]; omega), ok_bind, decodeScalarRule_toByte hrule]
  simp only [ok_bind]
  rw [decodeScalarWidth_encodeFieldWidth hrule heven hwidth]
  have hten : (10 : UInt8).toNat = 10 := rfl
  have hdrop : (scalarFieldName ++ (value ++ rule.terminal)).drop 10 = value ++ rule.terminal :=
    List.drop_left' rfl
  simp only [ok_bind, List.drop_left, List.headD_cons, List.drop_succ_cons, List.drop_zero,
    hten, hslice, hdrop]
  rw [requireBytes_of (by rw [List.length_cons]; omega), ok_bind,
    requireBytes_of (by rw [List.length_append]; exact Nat.le_add_right 10 _), ok_bind,
    require_of trivial, ok_bind, decodeScalarValue_value hvalue hc, ok_bind]
  rfl

end Literal

section Parameters
variable {parameter parameter' : FastSerializerScalarParameterInput} {bytes : Bytes}

/-- The four bytes in front of a literal parameter are too large for a length. -/
theorem not_envelope_of_descriptor {typeName descriptor rest : Bytes}
    (h : encodeFastSerializerRecord .descriptor (typeDescriptorPrefix ++ typeName) =
      .ok descriptor) : isExactCompressedEnvelope (descriptor ++ rest) = false := by
  obtain ⟨-, rfl⟩ := encodeFastSerializerRecord_eq_ok.mp h
  generalize (typeDescriptorPrefix ++ typeName).length = length
  have htake : ∃ byte : UInt8, ((FastSerializerRecordTag.descriptor.toByte ::
      (FastSerializerRecordTag.descriptor.lengthBytes length ++
        (typeDescriptorPrefix ++ typeName))) ++ rest).take 4 = [0x50, byte, 0x5c, 0x54] :=
    ⟨UInt8.ofNat length, rfl⟩
  obtain ⟨byte, hbytes⟩ := htake
  have hlarge : maxLz4BlockLength < Bytes.number [0x54, 0x5c, byte, 0x50] := by
    have hmax : maxLz4BlockLength = 16777216 := rfl
    have hnumber : Bytes.number [0x54, 0x5c, byte, 0x50] =
        ((84 * 256 + 92) * 256 + byte.toNat) * 256 + 80 := by
      simp [Bytes.number]
    omega
  unfold isExactCompressedEnvelope
  rw [hbytes]
  simp only [List.reverse_cons, List.reverse_nil, List.nil_append, List.cons_append]
  simp [Nat.not_le.mpr hlarge]

theorem envelope_of_encodeCompressedBlock {input : Bytes}
    (h : encodeFastSerializerCompressedBlock input {} = .ok bytes) :
    isExactCompressedEnvelope bytes = true := by
  obtain ⟨block, hblock, hne, hinput, hbeneficial, -, -, rfl⟩ := of_encodeCompressedBlock h
  have hmax : maxLz4BlockLength = 16777216 := rfl
  obtain ⟨hnil, -, -⟩ := decodeSequences_encode hinput hblock
  have hpos : 0 < block.length := List.length_pos_iff.mpr hnil
  dsimp only at hinput
  obtain ⟨hU, hC, hlength, -⟩ :=
    compressedHeader block (by omega : input.length < 256 ^ 4) (by omega)
  unfold isExactCompressedEnvelope
  rw [hU, hC, hlength]
  simp only [Bool.and_eq_true, decide_eq_true_eq, beq_iff_eq]
  exact ⟨by omega, trivial⟩

/-- A parameter is decoded to the low bytes of its type name. -/
theorem decode_encodeScalarParameter
    (h : encodeFastSerializerScalarParameter parameter = .ok bytes) :
    decodeFastSerializerScalarParameter bytes =
      .ok ⟨lowBytes parameter.typeName, isGenerated (lowBytes parameter.typeName),
        decide (maxLiteralScalarValueLength < parameter.value.length), parameter.typeCode,
        parameter.width, parameter.value, bytes.length⟩ := by
  unfold encodeFastSerializerScalarParameter at h
  split at h
  · cases h
  · rename_i rule hrule
    simp only [bind_eq_ok, require_eq_ok, exists_const] at h
    obtain ⟨heven, literal, hliteral, h⟩ := h
    split at h
    · rename_i hshort
      cases h
      obtain ⟨-, descriptor, width, value, hdescriptor, -, -, hbytes⟩ :=
        of_encodeLiteralParameter hliteral
      have hplain : isExactCompressedEnvelope bytes = false := by
        rw [hbytes]
        exact not_envelope_of_descriptor hdescriptor
      rw [decodeFastSerializerScalarParameter, hplain, if_neg Bool.false_ne_true,
        decodeScalarParameter_literal hrule heven hliteral (.inr hshort),
        decide_eq_false (Nat.not_lt.mpr hshort)]
    · rename_i hlong
      obtain ⟨-, -, -, -, -, hc, hu, -⟩ := of_encodeCompressedBlock h
      have hblock := decode_encodeCompressedBlock h ⟨le_rfl, hc⟩ ⟨le_rfl, hu⟩
      rw [decodeFastSerializerScalarParameter, envelope_of_encodeCompressedBlock h, if_pos rfl,
        hblock, ok_bind, require_of rfl, ok_bind,
        decodeScalarParameter_literal hrule heven hliteral (.inl rfl),
        decide_eq_true (Nat.not_le.mp hlong)]

def FastSerializerScalarParameterInput.lowBytes
    (parameter : FastSerializerScalarParameterInput) : FastSerializerScalarParameterInput :=
  { parameter with typeName := FastSerializer.lowBytes parameter.typeName }

def FastSerializerScalarParameter.input (parameter : FastSerializerScalarParameter) :
    FastSerializerScalarParameterInput :=
  ⟨parameter.typeName, parameter.typeCode, parameter.width, parameter.value⟩

theorem isPlainName_of_encodeScalarParameter
    (h : encodeFastSerializerScalarParameter parameter = .ok bytes) :
    isPlainName (toAscii parameter.typeName) true := by
  unfold encodeFastSerializerScalarParameter at h
  split at h
  · cases h
  · obtain ⟨-, -, h⟩ := bind_eq_ok.mp h
    obtain ⟨literal, hliteral, -⟩ := bind_eq_ok.mp h
    exact (of_encodeLiteralParameter hliteral).1

theorem encodeScalarParameter_lowBytes
    (h : encodeFastSerializerScalarParameter parameter = .ok bytes) :
    encodeFastSerializerScalarParameter parameter.lowBytes = .ok bytes := by
  have hname := isPlainName_of_encodeScalarParameter h
  have hliteral : ∀ rule, encodeLiteralParameter parameter.lowBytes rule =
      encodeLiteralParameter parameter rule := by
    intro rule
    unfold encodeLiteralParameter encodeFastSerializerParameterAnnouncement
      FastSerializerScalarParameterInput.lowBytes
    simp only [toAscii_lowBytes hname, length_lowBytes]
  rw [← h]
  unfold encodeFastSerializerScalarParameter
  simp only [hliteral]
  rfl

theorem parameter_lowBytes_eq_iff
    (h : encodeFastSerializerScalarParameter parameter = .ok bytes) :
    parameter.lowBytes = parameter ↔ FirstPage parameter.typeName := by
  rw [← lowBytes_eq_iff (isPlainName_of_encodeScalarParameter h)]
  constructor
  · exact congrArg FastSerializerScalarParameterInput.typeName
  · intro he
    rw [FastSerializerScalarParameterInput.lowBytes, he]

end Parameters

section Faithful
variable {Input Decoded : Type} (encode : Input → Except FastSerializerProtocolError Bytes)
  (decode : Bytes → Except FastSerializerProtocolError Decoded) (input : Decoded → Input)
  (low : Input → Input)

/-- A decoder which gives the low part of an input gives back what has no other part. -/
theorem decodes_iff (hdecode : ∀ {x bytes}, encode x = .ok bytes →
      ∃ decoded, decode bytes = .ok decoded ∧ input decoded = low x)
    {x : Input} {bytes : Bytes} (hx : encode x = .ok bytes) :
    (∃ decoded, decode bytes = .ok decoded ∧ input decoded = x) ↔ low x = x := by
  obtain ⟨decoded, hdecoded, hinput⟩ := hdecode hx
  rw [← hinput, hdecoded]
  constructor
  · rintro ⟨decoded', he, hinput'⟩
    cases he
    exact hinput'
  · exact fun he => ⟨decoded, rfl, he⟩

/-- Two encodings are the same if and only if the low parts of their inputs are. -/
theorem encoding_eq_iff (hdecode : ∀ {x bytes}, encode x = .ok bytes →
      ∃ decoded, decode bytes = .ok decoded ∧ input decoded = low x)
    (hlow : ∀ {x bytes}, encode x = .ok bytes → encode (low x) = .ok bytes)
    {x y : Input} {bytes bytes' : Bytes} (hx : encode x = .ok bytes) (hy : encode y = .ok bytes') :
    bytes = bytes' ↔ low x = low y := by
  constructor
  · rintro rfl
    obtain ⟨decoded, hd, hdx⟩ := hdecode hx
    obtain ⟨decoded', hd', hdy⟩ := hdecode hy
    rw [hd] at hd'
    cases hd'
    exact hdx.symm.trans hdy
  · intro he
    have hsame := (hlow hx).symm.trans ((congrArg encode he).trans (hlow hy))
    exact Except.ok.inj hsame

end Faithful

theorem decodes_announcement {announcement : FastSerializerParameterAnnouncementInput}
    {bytes : Bytes} (h : encodeFastSerializerParameterAnnouncement announcement = .ok bytes) :
    ∃ decoded, decodeFastSerializerParameterAnnouncement bytes 0 = .ok decoded ∧
      decoded.input = announcement.lowBytes := by
  obtain ⟨decoded, hdecoded, hinput, -⟩ := decode_encodeParameterAnnouncement h
  exact ⟨decoded, hdecoded, hinput⟩

theorem decodes_parameter {parameter : FastSerializerScalarParameterInput} {bytes : Bytes}
    (h : encodeFastSerializerScalarParameter parameter = .ok bytes) :
    ∃ decoded, decodeFastSerializerScalarParameter bytes = .ok decoded ∧
      decoded.input = parameter.lowBytes :=
  ⟨_, decode_encodeScalarParameter h, rfl⟩

/-- Announcements and elementary parameters are decoded to what has been encoded if and only if
no code unit of a name lies outside of the first page; and encodings are told apart up to the
high bytes of such code units, of which nothing is left. -/
theorem parameters_faithful_iff (announcement : FastSerializerParameterAnnouncementInput)
    (parameter : FastSerializerScalarParameterInput) (bytes : Bytes) :
    (encodeFastSerializerParameterAnnouncement announcement = .ok bytes →
      ((∃ decoded, decodeFastSerializerParameterAnnouncement bytes 0 = .ok decoded ∧
        decoded.input = announcement) ↔ announcement.FirstPage)) ∧
    (encodeFastSerializerScalarParameter parameter = .ok bytes →
      ((∃ decoded, decodeFastSerializerScalarParameter bytes = .ok decoded ∧
        decoded.input = parameter) ↔ FirstPage parameter.typeName)) ∧
    (∀ announcement' bytes',
      encodeFastSerializerParameterAnnouncement announcement = .ok bytes →
      encodeFastSerializerParameterAnnouncement announcement' = .ok bytes' →
      (bytes = bytes' ↔ announcement.lowBytes = announcement'.lowBytes) ∧
        (announcement.FirstPage → announcement'.FirstPage → bytes = bytes' →
          announcement = announcement')) ∧
    (∀ parameter' bytes',
      encodeFastSerializerScalarParameter parameter = .ok bytes →
      encodeFastSerializerScalarParameter parameter' = .ok bytes' →
      (bytes = bytes' ↔ parameter.lowBytes = parameter'.lowBytes) ∧
        (FirstPage parameter.typeName → FirstPage parameter'.typeName → bytes = bytes' →
          parameter = parameter')) := by
  refine ⟨?_, ?_, ?_, ?_⟩
  · intro h
    rw [← announcement_lowBytes_eq_iff h]
    exact decodes_iff _ _ FastSerializerParameterAnnouncement.input
      FastSerializerParameterAnnouncementInput.lowBytes decodes_announcement h
  · intro h
    rw [← parameter_lowBytes_eq_iff h]
    exact decodes_iff _ _ FastSerializerScalarParameter.input
      FastSerializerScalarParameterInput.lowBytes decodes_parameter h
  · intro announcement' bytes' h h'
    have hiff := encoding_eq_iff encodeFastSerializerParameterAnnouncement _
      FastSerializerParameterAnnouncement.input FastSerializerParameterAnnouncementInput.lowBytes
      decodes_announcement encodeParameterAnnouncement_lowBytes h h'
    refine ⟨hiff, fun hpage hpage' he => ?_⟩
    rw [← (announcement_lowBytes_eq_iff h).mpr hpage,
      ← (announcement_lowBytes_eq_iff h').mpr hpage']
    exact hiff.mp he
  · intro parameter' bytes' h h'
    have hiff := encoding_eq_iff encodeFastSerializerScalarParameter _
      FastSerializerScalarParameter.input FastSerializerScalarParameterInput.lowBytes
      decodes_parameter encodeScalarParameter_lowBytes h h'
    refine ⟨hiff, fun hpage hpage' he => ?_⟩
    rw [← (parameter_lowBytes_eq_iff h).mpr hpage, ← (parameter_lowBytes_eq_iff h').mpr hpage']
    exact hiff.mp he

/-- The type names `A` and `Ł` have the same encoding, from which `A` is decoded. -/
theorem announcement_collision :
    encodeFastSerializerParameterAnnouncement ⟨[0x141], []⟩ =
        encodeFastSerializerParameterAnnouncement ⟨[0x41], []⟩ ∧
      encodeFastSerializerParameterAnnouncement ⟨[0x141], []⟩ =
        .ok [0x44, 0, 0x50, 7, 0x5c, 0x54, 0x59, 0x50, 0x45, 0x3d, 0x41] ∧
      decodeFastSerializerParameterAnnouncement
          [0x44, 0, 0x50, 7, 0x5c, 0x54, 0x59, 0x50, 0x45, 0x3d, 0x41] 0 =
        .ok ⟨[0x41], false, [], 0, 11⟩ := by
  decide

/-- An announcement and an elementary parameter whose names are kept. -/
theorem parameters_faithful_samples :
    (∃ decoded, decodeFastSerializerParameterAnnouncement
        [0x44, 0, 0x50, 7, 0x5c, 0x54, 0x59, 0x50, 0x45, 0x3d, 0x41] 0 = .ok decoded ∧
      decoded.input = ⟨[0x41], []⟩) ∧
    (∃ decoded, decodeFastSerializerScalarParameter ([0x50, 7, 0x5c, 0x54, 0x59, 0x50, 0x45, 0x3d,
        0x49, 3, 10] ++ scalarFieldName ++ [0x4e, 42, 0, 0, 0, 0x45]) = .ok decoded ∧
      decoded.input = ⟨[0x49], .int4, none, [42, 0, 0, 0]⟩) := by
  have faithful := parameters_faithful_iff ⟨[0x41], []⟩ ⟨[0x49], .int4, none, [42, 0, 0, 0]⟩
  constructor
  · exact ((faithful _).1 (by decide +kernel)).mpr (by decide +kernel)
  · exact ((faithful _).2.1 (by decide +kernel)).mpr (by decide +kernel)

end OpenRfc.FastSerializer
