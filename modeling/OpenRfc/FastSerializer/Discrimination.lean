import OpenRfc.FastSerializer.Scalar

/-!
An elementary parameter has two forms on the wire, its literal block and a compressed block of it,
and no tag in front of it says which. The bytes with which a literal block starts are too large
for a length, and this is what tells the two apart.
-/

namespace OpenRfc.FastSerializer
open Fallible Lz4

variable {input bytes : Bytes} {parameter : FastSerializerScalarParameterInput}

/-- A block of the literal grammar, be its value too long for a block on its own or not. -/
def IsLiteralBlock (input : Bytes) : Prop :=
  ∃ compressed bytesConsumed parameter,
    decodeScalarParameterFromSnapshot input compressed bytesConsumed = .ok parameter

/-- A compressed block without anything behind it. -/
def IsCompressedBlock (input : Bytes) : Prop :=
  ∃ block, decodeFastSerializerCompressedBlock input 0 {} = .ok block ∧
    block.bytesConsumed = input.length

/-- The type name of a descriptor is what follows the prefix. -/
theorem of_fastSerializerTypeName {record : FastSerializerRecord} {typeName : JsString}
    (h : fastSerializerTypeName record = some typeName) :
    record.tag = .descriptor ∧
      record.value = typeDescriptorPrefix ++ record.value.drop typeDescriptorPrefix.length := by
  unfold fastSerializerTypeName at h
  dsimp only at h
  split at h
  · rename_i hname
    obtain ⟨htag, -, htake, -⟩ := hname
    refine ⟨htag, ?_⟩
    conv_lhs => rw [← List.take_append_drop typeDescriptorPrefix.length record.value, htake]
  · cases h

/-- No literal block looks like a compressed one. -/
theorem IsLiteralBlock.not_envelope (h : IsLiteralBlock input) :
    isExactCompressedEnvelope input = false := by
  obtain ⟨compressed, bytesConsumed, parameter, h⟩ := h
  unfold decodeScalarParameterFromSnapshot at h
  obtain ⟨descriptor, hdescriptor, h⟩ := bind_eq_ok.mp h
  cases hname : fastSerializerTypeName descriptor with
  | none =>
      rw [hname] at h
      cases h
  | some typeName =>
      obtain ⟨htag, hvalue⟩ := of_fastSerializerTypeName hname
      obtain ⟨frame, hframe, -, rest, rfl⟩ := encodeRecord_decodeRecord hdescriptor
      rw [htag, hvalue] at hframe
      exact not_envelope_of_descriptor hframe

/-- Every compressed block looks like one. -/
theorem IsCompressedBlock.envelope (h : IsCompressedBlock input) :
    isExactCompressedEnvelope input = true := by
  obtain ⟨block, h, hconsumed⟩ := h
  simp only [decodeFastSerializerCompressedBlock, inputOffset, configuredInteger, bind_eq_ok,
    require_eq_ok, requireBytes_eq_ok, mapError_eq_ok, exists_const, Except.ok.injEq] at h
  obtain ⟨start, ⟨-, rfl⟩, hheader, -, -, hsizes, hlimits, -, data, -, rfl⟩ := h
  rw [Int.toNat_zero, List.drop_zero] at hheader hsizes hlimits hconsumed
  have hmax : maxLz4BlockLength = 16777216 := rfl
  unfold isExactCompressedEnvelope
  simp only [Bool.and_eq_true, decide_eq_true_eq, beq_iff_eq]
  dsimp only at hlimits hconsumed
  omega

theorem isLiteralBlock_of_literal {rule : FastSerializerScalarRule} {literal : Bytes}
    (hrule : scalarRule parameter.typeCode = some rule)
    (heven : parameter.typeCode = .character →
      ∃ width ∈ parameter.width, width ≠ 0 ∧ width % 2 = 0)
    (h : encodeLiteralParameter parameter rule = .ok literal) : IsLiteralBlock literal :=
  ⟨true, literal.length, _, decodeScalarParameter_literal hrule heven h (.inl rfl) _⟩

/-- What is encoded has the form which its length asks for. -/
theorem form_of_encodeScalarParameter
    (h : encodeFastSerializerScalarParameter parameter = .ok bytes) :
    (parameter.value.length ≤ maxLiteralScalarValueLength ∧ IsLiteralBlock bytes) ∨
      (maxLiteralScalarValueLength < parameter.value.length ∧ IsCompressedBlock bytes) := by
  unfold encodeFastSerializerScalarParameter at h
  split at h
  · cases h
  · rename_i rule hrule
    simp only [bind_eq_ok, require_eq_ok, exists_const] at h
    obtain ⟨heven, literal, hliteral, h⟩ := h
    split at h
    · rename_i hshort
      cases h
      exact .inl ⟨hshort, isLiteralBlock_of_literal hrule heven hliteral⟩
    · rename_i hlong
      obtain ⟨-, -, -, -, -, hc, hu, -⟩ := of_encodeCompressedBlock h
      have hblock := decode_encodeCompressedBlock h ⟨le_rfl, hc⟩ ⟨le_rfl, hu⟩
      exact .inr ⟨Nat.not_le.mp hlong, _, hblock, rfl⟩

/-- A whole number in its literal block. -/
def int4Block : Bytes :=
  [0x50, 7, 0x5c, 0x54, 0x59, 0x50, 0x45, 0x3d, 0x49, 3, 10] ++ scalarFieldName ++
    [0x4e, 42, 0, 0, 0, 0x45]

end OpenRfc.FastSerializer
