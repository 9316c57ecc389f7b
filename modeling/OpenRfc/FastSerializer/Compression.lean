import OpenRfc.FastSerializer.Records
import OpenRfc.Lz4.RoundTrip

/-!
Compressed blocks of the fast serializer: both sizes, and a raw block.
-/

namespace OpenRfc.FastSerializer
open Fallible Lz4

structure FastSerializerCompressedBlock where
  data : Bytes
  offset : Nat
  compressedLength : Nat
  uncompressedLength : Nat
  bytesConsumed : Nat
deriving DecidableEq, Repr

structure FastSerializerCompressionOptions where
  maxCompressedLength : Int := maxLz4BlockLength
  maxUncompressedLength : Int := maxLz4BlockLength
deriving DecidableEq, Repr

def compressionHeaderLength : Nat := 8

def decodeFastSerializerCompressedBlock (input : Bytes) (offset : Int)
    (options : FastSerializerCompressionOptions) :
    Except FastSerializerProtocolError FastSerializerCompressedBlock := do
  let start ← inputOffset offset input.length
  let source := input.drop start
  requireBytes source start compressionHeaderLength "compression header"
  let uncompressedLength := Bytes.number (source.take 4).reverse
  let compressedLength := Bytes.number (Bytes.slice source 4 4).reverse
  configuredInteger options.maxCompressedLength "maxCompressedLength" maxLz4BlockLength
  configuredInteger options.maxUncompressedLength "maxUncompressedLength" maxLz4BlockLength
  require (compressedLength ≠ 0 ∧ uncompressedLength ≠ 0 ∧ compressedLength ≤ uncompressedLength)
    ⟨.malformedCompression, "fast-serializer compression sizes are inconsistent", start⟩
  require ((compressedLength : Int) ≤ options.maxCompressedLength ∧
      (uncompressedLength : Int) ≤ options.maxUncompressedLength)
    ⟨.compressionLimitExceeded, "fast-serializer compressed block exceeds configured limits",
      start⟩
  let blockOffset := start + compressionHeaderLength
  requireBytes (source.drop compressionHeaderLength) blockOffset compressedLength
    "fast-serializer compressed block"
  let data ← (decodeLz4Block (Bytes.slice source compressionHeaderLength compressedLength)
    uncompressedLength ⟨options.maxCompressedLength, options.maxUncompressedLength⟩).mapError
      fun _ => (⟨.malformedCompression, "fast-serializer LZ4 block is malformed", blockOffset⟩ :
        FastSerializerProtocolError)
  .ok ⟨data, start, compressedLength, uncompressedLength,
    compressionHeaderLength + compressedLength⟩

def encodeFastSerializerCompressedBlock (input : Bytes)
    (options : FastSerializerCompressionOptions) :
    Except FastSerializerProtocolError Bytes := do
  configuredInteger options.maxCompressedLength "maxCompressedLength" maxLz4BlockLength
  configuredInteger options.maxUncompressedLength "maxUncompressedLength" maxLz4BlockLength
  require (input.length ≠ 0)
    ⟨.malformedCompression, "fast-serializer compression input must not be empty", 0⟩
  require ((input.length : Int) ≤ options.maxUncompressedLength)
    ⟨.compressionLimitExceeded, "fast-serializer compression input exceeds configured limits", 0⟩
  let block ← (encodeLz4Block input
    ⟨options.maxUncompressedLength, options.maxCompressedLength⟩).mapError
      fun _ => (⟨.compressionLimitExceeded,
        "fast-serializer compressed block exceeds configured limits", 0⟩ :
          FastSerializerProtocolError)
  require (block.length ≤ input.length)
    ⟨.compressionNotBeneficial,
      "fast-serializer input does not fit the compressed-size contract", 0⟩
  .ok ((Bytes.bigEndian 4 input.length).reverse ++ (Bytes.bigEndian 4 block.length).reverse ++
    block)

section Compression
variable {input encoded : Bytes} {options decodeOptions : FastSerializerCompressionOptions}

/-- What `encodeFastSerializerCompressedBlock` returns. -/
theorem of_encodeCompressedBlock
    (h : encodeFastSerializerCompressedBlock input options = .ok encoded) :
    ∃ block, encodeLz4Block input
        ⟨options.maxUncompressedLength, options.maxCompressedLength⟩ = .ok block ∧
      input.length ≠ 0 ∧ (input.length : Int) ≤ options.maxUncompressedLength ∧
      block.length ≤ input.length ∧
      options.maxCompressedLength ≤ maxLz4BlockLength ∧
      options.maxUncompressedLength ≤ maxLz4BlockLength ∧
      encoded = (Bytes.bigEndian 4 input.length).reverse ++
        (Bytes.bigEndian 4 block.length).reverse ++ block := by
  simp only [encodeFastSerializerCompressedBlock, configuredInteger, bind_eq_ok, require_eq_ok,
    exists_const, mapError_eq_ok, Except.ok.injEq] at h
  obtain ⟨hc, hu, hne, hinput, block, hblock, hbeneficial, rfl⟩ := h
  exact ⟨block, hblock, hne, hinput, hbeneficial, hc.2, hu.2, rfl⟩

/-- The two sizes in front of a block, and the block behind them. -/
theorem compressedHeader {length : Nat} (block : Bytes) (hlength : length < 256 ^ 4)
    (hblock : block.length < 256 ^ 4) :
    let encoded := (Bytes.bigEndian 4 length).reverse ++
      (Bytes.bigEndian 4 block.length).reverse ++ block
    Bytes.number (encoded.take 4).reverse = length ∧
      Bytes.number (Bytes.slice encoded 4 4).reverse = block.length ∧
      encoded.length = compressionHeaderLength + block.length ∧
      Bytes.slice encoded compressionHeaderLength block.length = block := by
  have hU : (Bytes.bigEndian 4 length).reverse.length = 4 := by
    rw [List.length_reverse, Bytes.length_bigEndian]
  have hC : (Bytes.bigEndian 4 block.length).reverse.length = 4 := by
    rw [List.length_reverse, Bytes.length_bigEndian]
  have hheader : ((Bytes.bigEndian 4 length).reverse ++
      (Bytes.bigEndian 4 block.length).reverse).length = compressionHeaderLength := by
    rw [List.length_append, hU, hC]
    rfl
  refine ⟨?_, ?_, ?_, ?_⟩
  · rw [List.append_assoc, List.take_left' hU, List.reverse_reverse]
    exact Bytes.number_bigEndian 4 hlength
  · rw [Bytes.slice_append _ _ block hU.symm hC.symm, List.reverse_reverse]
    exact Bytes.number_bigEndian 4 hblock
  · rw [List.length_append, hheader]
  · have hslice := Bytes.slice_append ((Bytes.bigEndian 4 length).reverse ++
      (Bytes.bigEndian 4 block.length).reverse) block [] hheader.symm rfl
    rwa [List.append_nil] at hslice

/-- A block is decoded under any limits which are not below those of its encoder. -/
theorem decode_encodeCompressedBlock
    (h : encodeFastSerializerCompressedBlock input options = .ok encoded)
    (hc : options.maxCompressedLength ≤ decodeOptions.maxCompressedLength ∧
      decodeOptions.maxCompressedLength ≤ maxLz4BlockLength)
    (hu : options.maxUncompressedLength ≤ decodeOptions.maxUncompressedLength ∧
      decodeOptions.maxUncompressedLength ≤ maxLz4BlockLength) :
    decodeFastSerializerCompressedBlock encoded 0 decodeOptions =
      .ok ⟨input, 0, encoded.length - compressionHeaderLength, input.length, encoded.length⟩ := by
  obtain ⟨block, hblock, hne, hinput, hbeneficial, -, -, rfl⟩ := of_encodeCompressedBlock h
  have hmax : maxLz4BlockLength = 16777216 := rfl
  obtain ⟨hnil, hlength, -⟩ := decodeSequences_encode hinput hblock
  dsimp only at hlength
  have hpos : block.length ≠ 0 := fun hzero => hnil (List.length_eq_zero_iff.mp hzero)
  have hdecode : decodeLz4Block block input.length
      ⟨decodeOptions.maxCompressedLength, decodeOptions.maxUncompressedLength⟩ = .ok input :=
    decode_of_encode hblock ⟨hc.1, hc.2.trans (by decide)⟩ ⟨hinput.trans hu.1, hu.2⟩
  obtain ⟨hUnumber, hCnumber, hlengths, hbody⟩ :=
    compressedHeader block (by omega : input.length < 256 ^ 4) (by omega)
  generalize (Bytes.bigEndian 4 input.length).reverse ++
    (Bytes.bigEndian 4 block.length).reverse ++ block = encoded at hUnumber hCnumber hlengths hbody
  simp only [decodeFastSerializerCompressedBlock, inputOffset, configuredInteger]
  rw [require_of ⟨le_rfl, Int.natCast_nonneg _⟩]
  simp only [ok_bind, Int.toNat_zero, List.drop_zero, hUnumber, hCnumber]
  rw [requireBytes_of (by rw [hlengths]; exact Nat.le_add_right _ _), ok_bind,
    require_of (by omega), ok_bind, require_of (by omega), ok_bind,
    require_of ⟨hpos, hne, hbeneficial⟩, ok_bind, require_of (by omega), ok_bind,
    requireBytes_of (by rw [List.length_drop, hlengths]; exact (Nat.add_sub_cancel_left ..).ge),
    ok_bind, hbody, hdecode, hlengths, Nat.add_sub_cancel_left]
  rfl

end Compression

/-- Items, records and compressed blocks: what is encoded is decoded, and a stream which is
decoded is the only one which encodes its contents. -/
theorem framing_bijective :
    (∀ contents stream options, encodeItems contents = .ok stream → options.Admit contents →
      ∃ items, decodeFastSerializerItems stream options = .ok items ∧
        items.map FastSerializerItem.content = contents) ∧
    (∀ input options items, decodeFastSerializerItems input options = .ok items →
      encodeItems (items.map FastSerializerItem.content) = .ok input) ∧
    (∀ records maxRecords decodeMaxRecords stream,
      encodeFastSerializerRecords records maxRecords = .ok stream →
      (records.length : Int) ≤ decodeMaxRecords →
      decodeMaxRecords ≤ defaultMaxFastSerializerRecords →
      ∃ decoded, decodeFastSerializerRecords stream decodeMaxRecords = .ok decoded ∧
        decoded.map FastSerializerRecord.content = records) ∧
    (∀ input maxRecords decoded, decodeFastSerializerRecords input maxRecords = .ok decoded →
      encodeFastSerializerRecords (decoded.map FastSerializerRecord.content) maxRecords =
        .ok input) ∧
    (∀ input options encoded, encodeFastSerializerCompressedBlock input options = .ok encoded →
      ∃ compressedLength,
        decodeFastSerializerCompressedBlock encoded 0 {} =
          .ok ⟨input, 0, compressedLength, input.length, encoded.length⟩ ∧
        decodeFastSerializerCompressedBlock encoded 0 options =
          .ok ⟨input, 0, compressedLength, input.length, encoded.length⟩) := by
  refine ⟨fun _ _ _ => decodeItems_encodeItems, fun _ _ _ => encodeItems_decodeItems,
    fun _ _ _ _ => decodeRecords_encodeRecords, fun _ _ _ => encodeRecords_decodeRecords, ?_⟩
  intro input options encoded h
  obtain ⟨-, -, -, -, -, hc, hu, -⟩ := of_encodeCompressedBlock h
  exact ⟨_, decode_encodeCompressedBlock h ⟨hc, le_rfl⟩ ⟨hu, le_rfl⟩,
    decode_encodeCompressedBlock h ⟨le_rfl, hc⟩ ⟨le_rfl, hu⟩⟩

/-- Two items of different lengths, and a record of each of three kinds. -/
theorem framing_bijective_samples :
    (∃ items, decodeFastSerializerItems [0, 1, 0, 1, 7, 0, 1, 0, 2, 0, 0, 0, 2] {} = .ok items ∧
      items.map FastSerializerItem.content = [(1, [7]), (2, [])]) ∧
    (∃ decoded, decodeFastSerializerRecords [0x43, 1, 0x80, 65, 0x53, 2, 0xc0, 2, 0, 66, 67, 0x45]
        10 = .ok decoded ∧
      decoded.map FastSerializerRecord.content =
        [⟨.character, [65]⟩, ⟨.string, [66, 67]⟩, ⟨.end, []⟩]) :=
  ⟨framing_bijective.1 _ _ _ (by decide) (by simp [FastSerializerItemDecodeOptions.Admit,
      defaultMaxFastSerializerItems, defaultMaxFastSerializerItemLength]),
    framing_bijective.2.2.1 _ 10 10 _ (by decide) (by decide) (by decide)⟩

end OpenRfc.FastSerializer
