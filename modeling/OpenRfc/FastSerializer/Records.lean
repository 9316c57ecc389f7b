import OpenRfc.Foundation.Bytes
import OpenRfc.Foundation.Streams

/-!
Items of the fast serializer. An item has its identifier in front of its data and behind it.
What a decoder has not read yet is passed on together with its offset in the input.
-/

namespace OpenRfc.FastSerializer
open Fallible Frames

inductive FastSerializerProtocolErrorCode
  | invalidArgument
  | truncatedInput
  | itemLimitExceeded
  | malformedItem
  | compressionLimitExceeded
  | compressionNotBeneficial
  | malformedCompression
  | recordLimitExceeded
  | unsupportedRecordTag
  | malformedRecord
  | malformedParameter
  | unsupportedTypeCode
deriving DecidableEq, Repr

structure FastSerializerProtocolError where
  code : FastSerializerProtocolErrorCode
  message : String
  offset : Nat
deriving DecidableEq, Repr

def defaultMaxFastSerializerItemLength : Nat := 0xffff
def defaultMaxFastSerializerItems : Nat := 1024
def defaultMaxFastSerializerRecords : Nat := 65536

def configuredInteger (selected : Int) (label : String) (maximum : Nat) :
    Except FastSerializerProtocolError Unit :=
  require (0 ≤ selected ∧ selected ≤ maximum)
    ⟨.invalidArgument, s!"{label} must be an integer in 0..{maximum}", 0⟩

def inputOffset (value : Int) (length : Nat) : Except FastSerializerProtocolError Nat := do
  require (0 ≤ value ∧ value ≤ length)
    ⟨.invalidArgument, s!"offset must be an integer in 0..{length}", 0⟩
  .ok value.toNat

def requireBytes (source : Bytes) (offset length : Nat) (context : String) :
    Except FastSerializerProtocolError Unit :=
  require (length ≤ source.length)
    ⟨.truncatedInput, s!"{context} is truncated at offset {offset}", offset⟩

theorem requireBytes_of {source : Bytes} {offset length : Nat} {context : String}
    (h : length ≤ source.length) : requireBytes source offset length context = .ok () :=
  require_of h

theorem requireBytes_eq_ok {source : Bytes} {offset length : Nat} {context : String} {u : Unit} :
    requireBytes source offset length context = .ok u ↔ length ≤ source.length :=
  require_eq_ok

section Items

structure FastSerializerItem where
  id : Int
  data : Bytes
  offset : Nat
  bytesConsumed : Nat
deriving DecidableEq, Repr

structure FastSerializerItemDecodeOptions where
  maxItemLength : Int := defaultMaxFastSerializerItemLength
  maxItems : Int := defaultMaxFastSerializerItems
deriving DecidableEq, Repr

def decodeItemFromSnapshot (maxItemLength : Int) (offset : Nat) (source : Bytes) :
    Except FastSerializerProtocolError FastSerializerItem := do
  requireBytes source offset 4 "fast-serializer item header"
  let id := Bytes.number (source.take 2)
  let dataLength := Bytes.number (Bytes.slice source 2 2)
  require ((dataLength : Int) ≤ maxItemLength)
    ⟨.itemLimitExceeded,
      s!"fast-serializer item length {dataLength} exceeds configured limit {maxItemLength}",
      offset⟩
  requireBytes (source.drop 4) (offset + 4) (dataLength + 2) "fast-serializer item payload"
  require (Bytes.number (Bytes.slice source (4 + dataLength) 2) = id)
    ⟨.malformedItem,
      "fast-serializer item closing identifier does not match its opening identifier",
      offset + 4 + dataLength⟩
  .ok ⟨id, Bytes.slice source 4 dataLength, offset, 6 + dataLength⟩

def decodeFastSerializerItems (input : Bytes) (options : FastSerializerItemDecodeOptions) :
    Except FastSerializerProtocolError (List FastSerializerItem) := do
  configuredInteger options.maxItemLength "maxItemLength" 0xffff
  configuredInteger options.maxItems "maxItems" defaultMaxFastSerializerItems
  decodeAll (decodeItemFromSnapshot options.maxItemLength) FastSerializerItem.bytesConsumed
    (fun offset => ⟨.itemLimitExceeded,
      s!"fast-serializer item count exceeds configured limit {options.maxItems}", offset⟩)
    options.maxItems.toNat 0 input

def encodeFastSerializerItem (id : Int) (data : Bytes) :
    Except FastSerializerProtocolError Bytes := do
  require (0 ≤ id ∧ id ≤ 0xffff)
    ⟨.invalidArgument, "fast-serializer item identifier must be an integer in 0..65535", 0⟩
  require (data.length ≤ 0xffff)
    ⟨.itemLimitExceeded, "fast-serializer item data exceeds the 65535-byte wire limit", 0⟩
  .ok (Bytes.bigEndian 2 id.toNat ++ Bytes.bigEndian 2 data.length ++ data ++
    Bytes.bigEndian 2 id.toNat)

/-- What an item carries, whatever the place at which it stands. -/
def FastSerializerItem.content (item : FastSerializerItem) : Int × Bytes := (item.id, item.data)

theorem encodeFastSerializerItem_eq_ok {id : Int} {data frame : Bytes} :
    encodeFastSerializerItem id data = .ok frame ↔
      (0 ≤ id ∧ id ≤ 0xffff) ∧ data.length ≤ 0xffff ∧
        Bytes.bigEndian 2 id.toNat ++ Bytes.bigEndian 2 data.length ++ data ++
          Bytes.bigEndian 2 id.toNat = frame := by
  unfold encodeFastSerializerItem
  simp only [bind_eq_ok, require_eq_ok, exists_const, Except.ok.injEq]

theorem decodeItem_encodeItem {maxItemLength : Int} {id : Int} {data frame : Bytes}
    (h : encodeFastSerializerItem id data = .ok frame) (hmax : (data.length : Int) ≤ maxItemLength)
    (offset : Nat) (rest : Bytes) :
    decodeItemFromSnapshot maxItemLength offset (frame ++ rest) =
      .ok ⟨id, data, offset, 6 + data.length⟩ := by
  obtain ⟨hid, hlength, rfl⟩ := encodeFastSerializerItem_eq_ok.mp h
  have hid' : Bytes.number (Bytes.bigEndian 2 id.toNat) = id.toNat :=
    Bytes.number_bigEndian 2 (by omega)
  have hsize : Bytes.number (Bytes.bigEndian 2 data.length) = data.length :=
    Bytes.number_bigEndian 2 (by omega)
  generalize hA : Bytes.bigEndian 2 id.toNat = opening at hid' ⊢
  generalize hB : Bytes.bigEndian 2 data.length = size at hsize ⊢
  have hAlength : opening.length = 2 := by rw [← hA, Bytes.length_bigEndian]
  have hBlength : size.length = 2 := by rw [← hB, Bytes.length_bigEndian]
  have hslices : Bytes.slice (opening ++ size ++ data ++ opening ++ rest) 2 2 = size ∧
      Bytes.slice (opening ++ size ++ data ++ opening ++ rest) 4 data.length = data ∧
      Bytes.slice (opening ++ size ++ data ++ opening ++ rest) (4 + data.length) 2 = opening := by
    refine ⟨?_, ?_, ?_⟩
    · rw [List.append_assoc, List.append_assoc]
      exact Bytes.slice_append opening size _ hAlength.symm hBlength.symm
    · rw [List.append_assoc]
      exact Bytes.slice_append (opening ++ size) data _ (by simp [hAlength, hBlength]) rfl
    · apply Bytes.slice_append (opening ++ size ++ data) opening rest
      · simp only [List.length_append, hAlength, hBlength]
      · exact hAlength.symm
  have htake : (opening ++ size ++ data ++ opening ++ rest).take 2 = opening := by
    simp [hAlength]
  unfold decodeItemFromSnapshot
  simp only [htake, hslices, hid', hsize]
  rw [requireBytes_of (by simp [hAlength, hBlength]; omega), ok_bind, require_of hmax, ok_bind,
    requireBytes_of (by simp [hAlength, hBlength]; omega), ok_bind, require_of trivial, ok_bind,
    Int.toNat_of_nonneg hid.1]

theorem encodeItem_decodeItem {maxItemLength : Int} {offset : Nat} {source : Bytes}
    {item : FastSerializerItem}
    (h : decodeItemFromSnapshot maxItemLength offset source = .ok item) :
    ∃ frame, encodeFastSerializerItem item.id item.data = .ok frame ∧
      item.bytesConsumed = frame.length ∧ frame <+: source := by
  unfold decodeItemFromSnapshot at h
  simp only [bind_eq_ok, require_eq_ok, requireBytes_eq_ok, exists_const, Except.ok.injEq, List.length_drop] at h
  obtain ⟨hheader, -, hpayload, hclosing, rfl⟩ := h
  generalize hn : Bytes.number (Bytes.slice source 2 2) = dataLength at *
  have hopening : (source.take 2).length = 2 := by
    rw [List.length_take]
    omega
  have hsize : (Bytes.slice source 2 2).length = 2 := Bytes.length_slice (by omega)
  have hdata : (Bytes.slice source 4 dataLength).length = dataLength :=
    Bytes.length_slice (by omega)
  have hend : (Bytes.slice source (4 + dataLength) 2).length = 2 := Bytes.length_slice (by omega)
  have hid := Bytes.number_lt (source.take 2)
  have hlength := Bytes.number_lt (Bytes.slice source 2 2)
  rw [hopening] at hid
  rw [hsize, hn] at hlength
  have hframe : source.take 2 ++ Bytes.slice source 2 2 ++ Bytes.slice source 4 dataLength ++
      Bytes.slice source (4 + dataLength) 2 = source.take (4 + dataLength + 2) := by
    rw [Bytes.take_append_slice, Bytes.take_append_slice, Bytes.take_append_slice]
  refine ⟨source.take (4 + dataLength + 2), ?_, ?_, List.take_prefix _ _⟩
  · refine encodeFastSerializerItem_eq_ok.mpr ⟨by dsimp only; omega, by dsimp only; omega, ?_⟩
    rw [← hframe, Int.toNat_natCast, Bytes.bigEndian_number hopening, hdata]
    conv_lhs =>
      rw [← hn, Bytes.bigEndian_number hsize]
    rw [← Bytes.bigEndian_number hend, hclosing, Bytes.bigEndian_number hopening, hn]
  · rw [List.length_take]
    show 6 + dataLength = _
    omega

theorem lawful_item (maxItemLength : Int) :
    Lawful (fun content : Int × Bytes => encodeFastSerializerItem content.1 content.2)
      (decodeItemFromSnapshot maxItemLength) FastSerializerItem.content
      FastSerializerItem.bytesConsumed
      (fun content => (content.2.length : Int) ≤ maxItemLength) where
  ne_nil h := by
    obtain ⟨-, -, rfl⟩ := encodeFastSerializerItem_eq_ok.mp h
    simp [Bytes.bigEndian]
  decode_encode h hmax offset rest := by
    refine ⟨_, decodeItem_encodeItem h hmax offset rest, rfl, ?_⟩
    obtain ⟨-, -, rfl⟩ := encodeFastSerializerItem_eq_ok.mp h
    simp only [List.length_append, Bytes.length_bigEndian]
    omega
  encode_decode h := encodeItem_decodeItem h

/-- The encodings of items, concatenated. -/
def encodeItems (contents : List (Int × Bytes)) : Except FastSerializerProtocolError Bytes :=
  encodeAll (fun content => encodeFastSerializerItem content.1 content.2) contents

/-- Options under which these items may be decoded. -/
def FastSerializerItemDecodeOptions.Admit (options : FastSerializerItemDecodeOptions)
    (contents : List (Int × Bytes)) : Prop :=
  options.maxItemLength ≤ 0xffff ∧ options.maxItems ≤ defaultMaxFastSerializerItems ∧
    0 ≤ options.maxItemLength ∧ (contents.length : Int) ≤ options.maxItems ∧
      ∀ content ∈ contents, (content.2.length : Int) ≤ options.maxItemLength

theorem decodeItems_encodeItems {contents : List (Int × Bytes)} {stream : Bytes}
    {options : FastSerializerItemDecodeOptions} (h : encodeItems contents = .ok stream)
    (hadmitted : options.Admit contents) :
    ∃ items, decodeFastSerializerItems stream options = .ok items ∧
      items.map FastSerializerItem.content = contents := by
  obtain ⟨hlength, hitems, hpos, hcount, hfits⟩ := hadmitted
  obtain ⟨items, hdecode, hcontents⟩ :=
    decodeAll_encodeAll (lawful_item options.maxItemLength) 0 h
      (by omega : contents.length ≤ options.maxItems.toNat) hfits
  refine ⟨items, ?_, hcontents⟩
  unfold decodeFastSerializerItems configuredInteger
  rw [require_of ⟨hpos, hlength⟩, ok_bind, require_of (by omega), ok_bind]
  exact hdecode

theorem encodeItems_decodeItems {input : Bytes} {options : FastSerializerItemDecodeOptions}
    {items : List FastSerializerItem} (h : decodeFastSerializerItems input options = .ok items) :
    encodeItems (items.map FastSerializerItem.content) = .ok input := by
  simp only [decodeFastSerializerItems, bind_eq_ok] at h
  obtain ⟨-, -, -, -, h⟩ := h
  exact (encodeAll_decodeAll (lawful_item options.maxItemLength) h).1

end Items
/-!
Records of the fast serializer: a tag, the length of the value in the form which the tag
prescribes, and the value.
-/

inductive FastSerializerRecordTag
  | padded
  | character
  | end
  | int4
  | descriptor
  | string
deriving DecidableEq, Repr

def FastSerializerRecordTag.toByte : FastSerializerRecordTag → UInt8
  | .padded => 0x30
  | .character => 0x43
  | .end => 0x45
  | .int4 => 0x4e
  | .descriptor => 0x50
  | .string => 0x53

def FastSerializerRecordTag.ofByte? (byte : UInt8) : Option FastSerializerRecordTag :=
  if byte = 0x30 then some .padded
  else if byte = 0x43 then some .character
  else if byte = 0x45 then some .end
  else if byte = 0x4e then some .int4
  else if byte = 0x50 then some .descriptor
  else if byte = 0x53 then some .string
  else none

structure FastSerializerRecord where
  tag : FastSerializerRecordTag
  value : Bytes
  offset : Nat
  bytesConsumed : Nat
deriving DecidableEq, Repr

structure FastSerializerRecordInput where
  tag : FastSerializerRecordTag
  value : Bytes
deriving DecidableEq, Repr

def characterFlag : UInt8 := 0x80
def stringLengthFlag : Nat := 0xc000
def maxStringRecordLength : Nat := 0x3fff

/-- `value.toString(16).padStart(2, "0")` -/
def hexByte (byte : UInt8) : String :=
  String.ofList [Nat.digitChar (byte.toNat / 16), Nat.digitChar (byte.toNat % 16)]

/-- What the tag of a value record is followed by: the length of the value, and the number of
bytes in front of it. -/
def readValueLength (tag : FastSerializerRecordTag) (offset : Nat) (source : Bytes) :
    Except FastSerializerProtocolError (Nat × Nat) :=
  match tag with
  | .end => .ok (0, 0)
  | .int4 => .ok (4, 0)
  | .descriptor => do
    requireBytes source offset 1 "descriptor record length"
    .ok (Bytes.number (source.take 1), 1)
  | .character => do
    requireBytes source offset 2 "character record header"
    require (source[1]? = some characterFlag)
      ⟨.malformedRecord, "fast-serializer character record has an invalid flag", offset + 1⟩
    .ok (Bytes.number (source.take 1), 2)
  | .padded => do
    requireBytes source offset 2 "padded record length"
    .ok (Bytes.number (source.take 2), 2)
  | .string => do
    requireBytes source offset 4 "string record lengths"
    let flaggedLength := Bytes.number (source.take 2).reverse
    let plainLength := Bytes.number (Bytes.slice source 2 2).reverse
    require (flaggedLength &&& stringLengthFlag = stringLengthFlag ∧
        flaggedLength &&& 0x3fff = plainLength)
      ⟨.malformedRecord, "fast-serializer string record length fields disagree", offset⟩
    .ok (plainLength, 4)

def decodeRecordFromSnapshot (offset : Nat) :
    Bytes → Except FastSerializerProtocolError FastSerializerRecord
  | [] => .error ⟨.truncatedInput,
      s!"fast-serializer record tag is truncated at offset {offset}", offset⟩
  | byte :: source =>
    match FastSerializerRecordTag.ofByte? byte with
    | none => .error ⟨.unsupportedRecordTag,
        s!"fast-serializer record tag 0x{hexByte byte} is unsupported", offset⟩
    | some .end => .ok ⟨.end, [], offset, 1⟩
    | some tag => do
      let (valueLength, headerLength) ← readValueLength tag (offset + 1) source
      require (valueLength ≠ 0)
        ⟨.malformedRecord, "fast-serializer value record must not have an empty value", offset⟩
      requireBytes (source.drop headerLength) (offset + 1 + headerLength) valueLength
        "fast-serializer record value"
      .ok ⟨tag, Bytes.slice source headerLength valueLength, offset,
        1 + headerLength + valueLength⟩

def decodeFastSerializerRecords (input : Bytes) (maxRecords : Int) :
    Except FastSerializerProtocolError (List FastSerializerRecord) := do
  configuredInteger maxRecords "maxRecords" defaultMaxFastSerializerRecords
  decodeAll decodeRecordFromSnapshot FastSerializerRecord.bytesConsumed
    (fun offset => ⟨.recordLimitExceeded,
      s!"fast-serializer record count exceeds configured limit {maxRecords}", offset⟩)
    maxRecords.toNat 0 input

/-- The lengths which a value may have, and the text which says so. -/
def FastSerializerRecordTag.valueLengths : FastSerializerRecordTag → Nat × Nat × String
  | .end => (0, 0, "fast-serializer end record must not carry a value")
  | .int4 => (4, 4, "fast-serializer INT4 record value must be exactly four bytes")
  | .descriptor => (1, 0xff, "fast-serializer descriptor value must be 1..255 bytes")
  | .character => (1, 0xff, "fast-serializer character value must be 1..255 bytes")
  | .padded => (1, 0xffff, "fast-serializer padded value must be 1..65535 bytes")
  | .string => (1, maxStringRecordLength, "fast-serializer string value must be 1..16383 bytes")

/-- The bytes between a tag and its value. -/
def FastSerializerRecordTag.lengthBytes (tag : FastSerializerRecordTag) (length : Nat) : Bytes :=
  match tag with
  | .end => []
  | .int4 => []
  | .descriptor => Bytes.bigEndian 1 length
  | .character => Bytes.bigEndian 1 length ++ [characterFlag]
  | .padded => Bytes.bigEndian 2 length
  | .string => (Bytes.bigEndian 2 (stringLengthFlag ||| length)).reverse ++
      (Bytes.bigEndian 2 length).reverse

def encodeFastSerializerRecord (tag : FastSerializerRecordTag) (value : Bytes) :
    Except FastSerializerProtocolError Bytes := do
  let (minimum, maximum, message) := tag.valueLengths
  require (minimum ≤ value.length ∧ value.length ≤ maximum) ⟨.malformedRecord, message, 0⟩
  .ok (tag.toByte :: (tag.lengthBytes value.length ++ value))

def encodeFastSerializerRecords (records : List FastSerializerRecordInput) (maxRecords : Int) :
    Except FastSerializerProtocolError Bytes := do
  configuredInteger maxRecords "maxRecords" defaultMaxFastSerializerRecords
  require ((records.length : Int) ≤ maxRecords)
    ⟨.recordLimitExceeded,
      s!"fast-serializer record count exceeds configured limit {maxRecords}", 0⟩
  encodeAll (fun record : FastSerializerRecordInput =>
    encodeFastSerializerRecord record.tag record.value) records

/-- What a record carries, whatever the place at which it stands. -/
def FastSerializerRecord.content (record : FastSerializerRecord) : FastSerializerRecordInput :=
  ⟨record.tag, record.value⟩

theorem FastSerializerRecordTag.ofByte?_toByte (tag : FastSerializerRecordTag) :
    ofByte? tag.toByte = some tag := by
  cases tag <;> rfl

theorem FastSerializerRecordTag.toByte_of_ofByte? {byte : UInt8} {tag : FastSerializerRecordTag}
    (h : ofByte? byte = some tag) : tag.toByte = byte := by
  unfold ofByte? at h
  repeat' split at h
  all_goals
    first
    | cases h
      symm
      assumption
    | cases h

section Flag

/-- A length with the flag above it shows both. -/
theorem flagged_length {length : Nat} (h : length ≤ maxStringRecordLength) :
    (stringLengthFlag ||| length) &&& stringLengthFlag = stringLengthFlag ∧
      (stringLengthFlag ||| length) &&& 0x3fff = length ∧
      stringLengthFlag ||| length < 256 ^ 2 := by
  have hlow : length &&& 0x3fff = length := by
    rw [Nat.and_two_pow_sub_one_eq_mod length 14]
    apply Nat.mod_eq_of_lt
    unfold maxStringRecordLength at h
    omega
  have hhigh : length &&& stringLengthFlag = 0 := by
    rw [← hlow, Nat.and_assoc]
    exact Nat.and_zero length
  refine ⟨?_, ?_, ?_⟩
  · rw [Nat.and_or_distrib_right, hhigh, Nat.and_self, Nat.or_zero]
  · rw [Nat.and_or_distrib_right, hlow]
    exact Nat.zero_or length
  · show stringLengthFlag ||| length < 2 ^ 16
    apply Nat.or_lt_two_pow
    · decide
    · unfold maxStringRecordLength at h
      omega

theorem flagged_of_and {flagged : Nat} (hlt : flagged < 256 ^ 2)
    (h : flagged &&& stringLengthFlag = stringLengthFlag) :
    stringLengthFlag ||| (flagged &&& 0x3fff) = flagged := by
  have hall : flagged &&& (stringLengthFlag ||| 0x3fff) = flagged := by
    show flagged &&& (2 ^ 16 - 1) = flagged
    rw [Nat.and_two_pow_sub_one_eq_mod]
    exact Nat.mod_eq_of_lt hlt
  calc stringLengthFlag ||| (flagged &&& 0x3fff)
      = (flagged &&& stringLengthFlag) ||| (flagged &&& 0x3fff) := by rw [h]
    _ = flagged &&& (stringLengthFlag ||| 0x3fff) := (Nat.and_or_distrib_left ..).symm
    _ = flagged := hall

end Flag

section Lengths
variable {tag : FastSerializerRecordTag} {length : Nat}

def FastSerializerRecordTag.InRange (tag : FastSerializerRecordTag) (length : Nat) : Prop :=
  tag.valueLengths.1 ≤ length ∧ length ≤ tag.valueLengths.2.1

/-- The length which is written is read. -/
theorem readValueLength_lengthBytes (offset : Nat) (hne : tag ≠ .end) (h : tag.InRange length)
    (rest : Bytes) :
    readValueLength tag offset (tag.lengthBytes length ++ rest) =
      .ok (length, (tag.lengthBytes length).length) := by
  cases tag with
  | «end» => exact absurd rfl hne
  | int4 =>
      have he : length = 4 := Nat.le_antisymm h.2 h.1
      rw [he]
      rfl
  | descriptor =>
      have hnumber := Bytes.number_bigEndian 1 (Nat.lt_succ_of_le h.2 : length < 256)
      simp only [readValueLength, FastSerializerRecordTag.lengthBytes]
      rw [requireBytes_of (by simp), ok_bind, List.take_left' (Bytes.length_bigEndian 1 length),
        hnumber, Bytes.length_bigEndian]
  | character =>
      have hnumber := Bytes.number_bigEndian 1 (Nat.lt_succ_of_le h.2 : length < 256)
      have htake : (Bytes.bigEndian 1 length ++ ([characterFlag] ++ rest)).take 1 =
          Bytes.bigEndian 1 length := List.take_left' (Bytes.length_bigEndian 1 length)
      simp only [readValueLength, FastSerializerRecordTag.lengthBytes, List.append_assoc]
      rw [requireBytes_of (by simp; omega), ok_bind, require_of (by simp [Bytes.bigEndian]),
        ok_bind, htake, hnumber]
      simp
  | padded =>
      have hnumber := Bytes.number_bigEndian 2 (Nat.lt_succ_of_le h.2 : length < 65536)
      simp only [readValueLength, FastSerializerRecordTag.lengthBytes]
      rw [requireBytes_of (by simp), ok_bind, List.take_left' (Bytes.length_bigEndian 2 length),
        hnumber, Bytes.length_bigEndian]
  | string =>
      obtain ⟨hflag, hplain, hlt⟩ := flagged_length h.2
      have hflagged := Bytes.number_bigEndian 2 hlt
      have hnumber := Bytes.number_bigEndian 2
        (Nat.lt_of_le_of_lt h.2 (by decide) : length < 256 ^ 2)
      generalize hF : (Bytes.bigEndian 2 (stringLengthFlag ||| length)).reverse = flagged
      generalize hP : (Bytes.bigEndian 2 length).reverse = plain
      have hFlength : flagged.length = 2 := by
        rw [← hF, List.length_reverse, Bytes.length_bigEndian]
      have hPlength : plain.length = 2 := by
        rw [← hP, List.length_reverse, Bytes.length_bigEndian]
      have htake : (flagged ++ plain ++ rest).take 2 = flagged := by
        rw [List.append_assoc]
        exact List.take_left' hFlength
      have hslice : Bytes.slice (flagged ++ plain ++ rest) 2 2 = plain :=
        Bytes.slice_append flagged plain rest hFlength.symm hPlength.symm
      simp only [readValueLength, FastSerializerRecordTag.lengthBytes, hF, hP, htake, hslice]
      rw [requireBytes_of (by simp [hFlength, hPlength]; omega), ok_bind, ← hF, ← hP,
        List.reverse_reverse, List.reverse_reverse, hflagged, hnumber,
        require_of ⟨hflag, hplain⟩, ok_bind, hF, hP, List.length_append, hFlength, hPlength]

/-- The length which is read is the one which would be written. -/
theorem lengthBytes_of_readValueLength {source : Bytes} {offset headerLength : Nat}
    (h : readValueLength tag offset source = .ok (length, headerLength)) (hne : length ≠ 0) :
    tag.InRange length ∧ headerLength = (tag.lengthBytes length).length ∧
      tag.lengthBytes length = source.take headerLength := by
  cases tag with
  | «end» =>
      cases h
      exact absurd rfl hne
  | int4 =>
      cases h
      exact ⟨⟨le_rfl, le_rfl⟩, rfl, rfl⟩
  | descriptor =>
      simp only [readValueLength, bind_eq_ok, requireBytes_eq_ok, exists_const,
        Except.ok.injEq, Prod.mk.injEq] at h
      obtain ⟨hlength, rfl, rfl⟩ := h
      have htake : (source.take 1).length = 1 := List.length_take_of_le hlength
      have hlt := Bytes.number_lt (source.take 1)
      rw [htake] at hlt
      refine ⟨⟨Nat.pos_of_ne_zero hne, Nat.le_of_lt_succ hlt⟩, ?_, ?_⟩
      · exact (Bytes.length_bigEndian 1 _).symm
      · exact Bytes.bigEndian_number htake
  | character =>
      simp only [readValueLength, bind_eq_ok, requireBytes_eq_ok, require_eq_ok, exists_const,
        Except.ok.injEq, Prod.mk.injEq] at h
      obtain ⟨hlength, hflag, rfl, rfl⟩ := h
      have htake : (source.take 1).length = 1 := List.length_take_of_le (by omega)
      have hlt := Bytes.number_lt (source.take 1)
      rw [htake] at hlt
      refine ⟨⟨Nat.pos_of_ne_zero hne, Nat.le_of_lt_succ hlt⟩, ?_, ?_⟩
      · simp [FastSerializerRecordTag.lengthBytes]
      · simp only [FastSerializerRecordTag.lengthBytes]
        have hnext : source.take (1 + 1) = source.take 1 ++ source[1]?.toList := List.take_add_one
        rw [Bytes.bigEndian_number htake, hnext, hflag]
        rfl
  | padded =>
      simp only [readValueLength, bind_eq_ok, requireBytes_eq_ok, exists_const,
        Except.ok.injEq, Prod.mk.injEq] at h
      obtain ⟨hlength, rfl, rfl⟩ := h
      have htake : (source.take 2).length = 2 := List.length_take_of_le hlength
      have hlt := Bytes.number_lt (source.take 2)
      rw [htake] at hlt
      refine ⟨⟨Nat.pos_of_ne_zero hne, Nat.le_of_lt_succ hlt⟩, ?_, ?_⟩
      · exact (Bytes.length_bigEndian 2 _).symm
      · exact Bytes.bigEndian_number htake
  | string =>
      simp only [readValueLength, bind_eq_ok, requireBytes_eq_ok, require_eq_ok, exists_const,
        Except.ok.injEq, Prod.mk.injEq] at h
      obtain ⟨hlength, ⟨hflag, hplain⟩, rfl, rfl⟩ := h
      have htake : (source.take 2).reverse.length = 2 := by
        rw [List.length_reverse]
        exact List.length_take_of_le (by omega)
      have hslice : (Bytes.slice source 2 2).reverse.length = 2 := by
        rw [List.length_reverse]
        exact Bytes.length_slice (by omega)
      have hlt := Bytes.number_lt (source.take 2).reverse
      rw [htake] at hlt
      refine ⟨⟨Nat.pos_of_ne_zero hne, ?_⟩, ?_, ?_⟩
      · rw [← hplain]
        exact Nat.and_le_right
      · simp [FastSerializerRecordTag.lengthBytes]
      · simp only [FastSerializerRecordTag.lengthBytes]
        rw [Bytes.bigEndian_number hslice, ← hplain, flagged_of_and hlt hflag,
          Bytes.bigEndian_number htake, List.reverse_reverse, List.reverse_reverse,
          Bytes.take_append_slice]

end Lengths

section Records

theorem encodeFastSerializerRecord_eq_ok {tag : FastSerializerRecordTag} {value frame : Bytes} :
    encodeFastSerializerRecord tag value = .ok frame ↔
      tag.InRange value.length ∧
        tag.toByte :: (tag.lengthBytes value.length ++ value) = frame := by
  simp only [encodeFastSerializerRecord, bind_eq_ok, require_eq_ok, exists_const,
    Except.ok.injEq]
  rfl

/-- The reader of value records. -/
theorem decodeRecord_value {tag : FastSerializerRecordTag} (hne : tag ≠ .end) (offset : Nat)
    (source : Bytes) :
    decodeRecordFromSnapshot offset (tag.toByte :: source) = (do
      let (valueLength, headerLength) ← readValueLength tag (offset + 1) source
      require (valueLength ≠ 0)
        ⟨.malformedRecord, "fast-serializer value record must not have an empty value", offset⟩
      requireBytes (source.drop headerLength) (offset + 1 + headerLength) valueLength
        "fast-serializer record value"
      .ok ⟨tag, Bytes.slice source headerLength valueLength, offset,
        1 + headerLength + valueLength⟩) := by
  rw [decodeRecordFromSnapshot, FastSerializerRecordTag.ofByte?_toByte]
  cases tag with
  | «end» => exact absurd rfl hne
  | _ => rfl

theorem decodeRecord_encodeRecord {tag : FastSerializerRecordTag} {value frame : Bytes}
    (h : encodeFastSerializerRecord tag value = .ok frame) (offset : Nat) (rest : Bytes) :
    decodeRecordFromSnapshot offset (frame ++ rest) = .ok ⟨tag, value, offset, frame.length⟩ := by
  obtain ⟨hrange, rfl⟩ := encodeFastSerializerRecord_eq_ok.mp h
  by_cases hend : tag = .end
  · subst hend
    have hnil : value = [] := List.length_eq_zero_iff.mp (Nat.le_zero.mp hrange.2)
    rw [hnil]
    rfl
  · have hread := readValueLength_lengthBytes (offset + 1) hend hrange (value ++ rest)
    have hpos : value.length ≠ 0 := by
      intro hzero
      rw [hzero] at hrange
      have hmin := hrange.1
      cases tag <;> first | exact absurd rfl hend | exact absurd hmin (by decide)
    rw [List.cons_append, List.append_assoc, decodeRecord_value hend, hread]
    simp only [ok_bind]
    rw [require_of hpos, ok_bind, List.drop_left,
      requireBytes_of (by rw [List.length_append]; omega), ok_bind, ← List.append_assoc,
      Bytes.slice_append _ value rest rfl rfl, List.length_cons, List.length_append]
    congr 2
    omega

theorem encodeRecord_decodeRecord {offset : Nat} {source : Bytes} {record : FastSerializerRecord}
    (h : decodeRecordFromSnapshot offset source = .ok record) :
    ∃ frame, encodeFastSerializerRecord record.tag record.value = .ok frame ∧
      record.bytesConsumed = frame.length ∧ frame <+: source := by
  cases source with
  | nil => cases h
  | cons byte source =>
      cases htag : FastSerializerRecordTag.ofByte? byte with
      | none =>
          rw [decodeRecordFromSnapshot, htag] at h
          cases h
      | some tag =>
          have hbyte := FastSerializerRecordTag.toByte_of_ofByte? htag
          subst hbyte
          by_cases hend : tag = .end
          · subst hend
            cases h
            exact ⟨[0x45], rfl, rfl, source, rfl⟩
          · rw [decodeRecord_value hend] at h
            obtain ⟨⟨valueLength, headerLength⟩, hread, h⟩ := bind_eq_ok.mp h
            simp only [bind_eq_ok, require_eq_ok, requireBytes_eq_ok, exists_const,
              Except.ok.injEq, List.length_drop] at h
            obtain ⟨hne, hfits, rfl⟩ := h
            obtain ⟨hrange, hheader, hbytes⟩ := lengthBytes_of_readValueLength hread hne
            have hslice : (Bytes.slice source headerLength valueLength).length = valueLength :=
              Bytes.length_slice (by omega)
            have hframe : tag.lengthBytes valueLength ++
                Bytes.slice source headerLength valueLength =
                  source.take (headerLength + valueLength) := by
              rw [hbytes, Bytes.take_append_slice]
            refine ⟨tag.toByte :: source.take (headerLength + valueLength), ?_, ?_, ?_⟩
            · refine encodeFastSerializerRecord_eq_ok.mpr ⟨?_, ?_⟩
              · rw [hslice]
                exact hrange
              · rw [hslice, hframe]
            · rw [← hframe, List.length_cons, List.length_append, hslice, ← hheader]
              show 1 + headerLength + valueLength = _
              omega
            · exact List.cons_prefix_cons.mpr ⟨rfl, List.take_prefix _ _⟩

theorem lawful_record :
    Lawful (fun record : FastSerializerRecordInput =>
        encodeFastSerializerRecord record.tag record.value)
      decodeRecordFromSnapshot FastSerializerRecord.content FastSerializerRecord.bytesConsumed
      (fun _ => True) where
  ne_nil h := by
    obtain ⟨-, rfl⟩ := encodeFastSerializerRecord_eq_ok.mp h
    exact List.cons_ne_nil _ _
  decode_encode h _ offset rest :=
    ⟨_, decodeRecord_encodeRecord h offset rest, rfl, rfl⟩
  encode_decode h := encodeRecord_decodeRecord h

theorem decodeRecords_encodeRecords {records : List FastSerializerRecordInput}
    {maxRecords decodeMaxRecords : Int} {stream : Bytes}
    (h : encodeFastSerializerRecords records maxRecords = .ok stream)
    (hcount : (records.length : Int) ≤ decodeMaxRecords)
    (hmax : decodeMaxRecords ≤ defaultMaxFastSerializerRecords) :
    ∃ decoded, decodeFastSerializerRecords stream decodeMaxRecords = .ok decoded ∧
      decoded.map FastSerializerRecord.content = records := by
  simp only [encodeFastSerializerRecords, bind_eq_ok] at h
  obtain ⟨-, -, -, -, h⟩ := h
  obtain ⟨decoded, hdecode, hcontents⟩ := decodeAll_encodeAll lawful_record 0 h
    (by omega : records.length ≤ decodeMaxRecords.toNat) (fun _ _ => trivial)
  refine ⟨decoded, ?_, hcontents⟩
  unfold decodeFastSerializerRecords configuredInteger
  rw [require_of (by omega), ok_bind]
  exact hdecode

theorem encodeRecords_decodeRecords {input : Bytes} {maxRecords : Int}
    {decoded : List FastSerializerRecord}
    (h : decodeFastSerializerRecords input maxRecords = .ok decoded) :
    encodeFastSerializerRecords (decoded.map FastSerializerRecord.content) maxRecords =
      .ok input := by
  simp only [decodeFastSerializerRecords, configuredInteger, bind_eq_ok, require_eq_ok,
    exists_const] at h
  obtain ⟨hmax, h⟩ := h
  obtain ⟨hencode, hlength⟩ := encodeAll_decodeAll lawful_record h
  unfold encodeFastSerializerRecords configuredInteger
  rw [require_of hmax, ok_bind, require_of (by rw [List.length_map]; omega), ok_bind]
  exact hencode

end Records
end OpenRfc.FastSerializer
