import OpenRfc.Cpic.RfcPro

/-!
The chained fields of CPIC. Each record names the tag of the field in front of it and its own
tag, so that a reader notices a field which is missing or out of order.
-/

namespace OpenRfc.Cpic
open Fallible

def defaultMaxCpicFieldLength : Nat := 256 * 1024 * 1024
def defaultMaxCpicFieldChainLength : Nat := 256 * 1024 * 1024
def defaultMaxCpicFieldCount : Nat := 100000

structure CpicField where
  tag : Int
  value : Bytes
deriving DecidableEq, Repr

structure CpicFieldChainLimits where
  maxFieldLength : Option Int := none
  maxChainLength : Option Int := none
  maxFieldCount : Option Int := none
deriving DecidableEq, Repr

structure ResolvedCpicFieldChainLimits where
  maxFieldLength : Nat
  maxChainLength : Nat
  maxFieldCount : Nat
deriving DecidableEq, Repr

/-- `tagText`: `0x` and four hexadecimal digits -/
def tagText (tag : Int) : String :=
  "0x" ++ String.ofList ((Nat.toDigits 16 tag.toNat).leftpad 4 '0')

/-- `uint16` -/
def uint16 (value : Int) (field : String) : Except String Unit :=
  require (0 ≤ value ∧ value ≤ 0xffff) s!"{field} must be an integer in 0..65535"

def resolveCpicFieldChainLimits (limits : CpicFieldChainLimits) :
    Except String ResolvedCpicFieldChainLimits := do
  let maxFieldLength := limits.maxFieldLength.getD defaultMaxCpicFieldLength
  let maxChainLength := limits.maxChainLength.getD defaultMaxCpicFieldChainLength
  let maxFieldCount := limits.maxFieldCount.getD defaultMaxCpicFieldCount
  boundedInteger maxFieldLength 0 rfcProValueLengthMax "maxFieldLength"
  boundedInteger maxChainLength 0 rfcProValueLengthMax "maxChainLength"
  boundedInteger maxFieldCount 0 (2 ^ 53 - 1) "maxFieldCount"
  .ok ⟨maxFieldLength.toNat, maxChainLength.toNat, maxFieldCount.toNat⟩

section Encoder

/-- The loop over the fields, with the bytes which the fields in front of them take. -/
def addFieldLengths (limits : ResolvedCpicFieldChainLimits) :
    Nat → List CpicField → Except String Nat
  | byteLength, [] => .ok byteLength
  | byteLength, field :: fields => do
    uint16 field.tag "tag"
    require (field.value.length ≤ limits.maxFieldLength)
      s!"CPIC field length {field.value.length} exceeds configured limit {limits.maxFieldLength}"
    let headerLength ← rfcProFieldHeaderByteLength field.value.length
    let byteLength := byteLength + (2 + headerLength + field.value.length)
    require (byteLength ≤ limits.maxChainLength)
      s!"CPIC field chain length exceeds configured limit {limits.maxChainLength}"
    addFieldLengths limits byteLength fields

def cpicFieldChainByteLength (initialPreviousTag : Int) (fields : List CpicField)
    (limits : CpicFieldChainLimits) : Except String Nat := do
  uint16 initialPreviousTag "initialPreviousTag"
  let limits ← resolveCpicFieldChainLimits limits
  require (fields.length ≤ limits.maxFieldCount)
    s!"CPIC field count {fields.length} exceeds configured limit {limits.maxFieldCount}"
  addFieldLengths limits 0 fields

/-- The records behind a previous tag. -/
def encodeFields : Int → List CpicField → Except String Bytes
  | _, [] => .ok []
  | previousTag, field :: fields => do
    let header ← encodeRfcProFieldHeader field.tag field.value.length
    let encoded ← encodeFields field.tag fields
    .ok (Bytes.bigEndian 2 previousTag.toNat ++ header ++ field.value ++ encoded)

def encodeCpicFieldChain (initialPreviousTag : Int) (fields : List CpicField)
    (limits : CpicFieldChainLimits := {}) : Except String Bytes := do
  let _ ← cpicFieldChainByteLength initialPreviousTag fields limits
  encodeFields initialPreviousTag fields

end Encoder

section Decoder

structure DecodedCpicFieldChainPrefix where
  fields : List CpicField
  bytesConsumed : Nat
deriving DecidableEq, Repr

def enforceCpicChainLength (byteLength maximum : Nat) : Except String Unit :=
  require (byteLength ≤ maximum)
    s!"CPIC field chain length {byteLength} exceeds configured limit {maximum}"

/-- `requireCpicInput`, over the bytes behind an offset -/
def requireCpicInput (remaining : Bytes) (offset byteLength : Nat) (field : String) :
    Except String Unit :=
  require (byteLength ≤ remaining.length)
    s!"CPIC field chain.{field}: need {byteLength} bytes at offset {offset}; {remaining.length} remain"

/-- The header behind the previous tag. -/
def readHeaderSnapshot (limits : ResolvedCpicFieldChainLimits) (offset : Nat)
    (remaining : Bytes) : Except String Bytes :=
  if Bytes.number (Bytes.slice remaining 4 2) = rfcProExtendedLengthSentinel then do
    enforceCpicChainLength (offset + 10) limits.maxChainLength
    requireCpicInput (remaining.drop 6) (offset + 6) 4 "extendedLength"
    .ok (Bytes.slice remaining 2 8)
  else .ok (Bytes.slice remaining 2 4)

/-- The record at an offset, and how many bytes it takes. -/
def readField (limits : ResolvedCpicFieldChainLimits) (expectedPreviousTag : Int) (offset : Nat)
    (remaining : Bytes) : Except String (CpicField × Nat) := do
  enforceCpicChainLength (offset + 6) limits.maxChainLength
  requireCpicInput remaining offset 6 "fieldHeader"
  let previousTag := Bytes.number (Bytes.slice remaining 0 2)
  require ((previousTag : Int) = expectedPreviousTag)
    s!"CPIC field chain expected previous tag {tagText expectedPreviousTag}; received {tagText previousTag}"
  let headerSnapshot ← readHeaderSnapshot limits offset remaining
  let header ← decodeRfcProFieldHeader headerSnapshot limits.maxFieldLength
  let valueOffset := 2 + header.bytesConsumed
  let nextOffset := valueOffset + header.length
  enforceCpicChainLength (offset + nextOffset) limits.maxChainLength
  requireCpicInput (remaining.drop valueOffset) (offset + valueOffset) header.length "value"
  .ok (⟨header.tag, Bytes.slice remaining valueOffset header.length⟩, nextOffset)

/-- The end of the data. -/
def endOfData (offset : Nat) : Option Int → Except String DecodedCpicFieldChainPrefix
  | some terminalTag => .error s!"CPIC field chain ended before terminal tag {tagText terminalTag}"
  | none => .ok ⟨[], offset⟩

/-- The loop over the records, with the number of fields for which there is still room. -/
def readFields (limits : ResolvedCpicFieldChainLimits) (terminalTag : Option Int) :
    Nat → Int → Nat → Bytes → Except String DecodedCpicFieldChainPrefix
  | 0, _, offset, remaining =>
    if remaining = [] then endOfData offset terminalTag
    else .error s!"CPIC field count exceeds configured limit {limits.maxFieldCount}"
  | count + 1, expectedPreviousTag, offset, remaining =>
    if remaining = [] then endOfData offset terminalTag
    else do
      let (field, byteLength) ← readField limits expectedPreviousTag offset remaining
      if terminalTag = some field.tag then .ok ⟨[field], offset + byteLength⟩
      else do
        let decoded ← readFields limits terminalTag count field.tag (offset + byteLength)
          (remaining.drop byteLength)
        .ok ⟨field :: decoded.fields, decoded.bytesConsumed⟩

def decodeCpicFieldChainRegion (data : Bytes) (initialPreviousTag : Int)
    (terminalTag : Option Int) (limits : CpicFieldChainLimits) :
    Except String DecodedCpicFieldChainPrefix := do
  uint16 initialPreviousTag "initialPreviousTag"
  let limits ← resolveCpicFieldChainLimits limits
  require (terminalTag.isSome ∨ data.length ≤ limits.maxChainLength)
    s!"CPIC field chain length {data.length} exceeds configured limit {limits.maxChainLength}"
  readFields limits terminalTag limits.maxFieldCount initialPreviousTag 0 data

/-- Decode a complete chain. -/
def decodeCpicFieldChain (data : Bytes) (initialPreviousTag : Int)
    (limits : CpicFieldChainLimits := {}) : Except String (List CpicField) := do
  let decoded ← decodeCpicFieldChainRegion data initialPreviousTag none limits
  require (decoded.bytesConsumed = data.length) "CPIC field-chain decoder invariant failed"
  .ok decoded.fields

/-- Decode the fields up to a terminal tag; what follows is left to the caller. -/
def decodeCpicFieldChainPrefix (data : Bytes) (initialPreviousTag terminalTag : Int)
    (limits : CpicFieldChainLimits := {}) : Except String DecodedCpicFieldChainPrefix := do
  uint16 terminalTag "terminalTag"
  decodeCpicFieldChainRegion data initialPreviousTag (some terminalTag) limits

end Decoder

section Chain

/-- The bytes of one record, and of a chain. -/
def recordBytes (previousTag : Nat) (tag : Nat) (value : Bytes) : Bytes :=
  Bytes.bigEndian 2 previousTag ++ headerBytes tag value.length ++ value

def chainBytes : Int → List CpicField → Bytes
  | _, [] => []
  | previousTag, field :: fields =>
    recordBytes previousTag.toNat field.tag.toNat field.value ++ chainBytes field.tag fields

def recordLength (field : CpicField) : Nat := 2 + headerLength field.value.length + field.value.length

def chainLength (fields : List CpicField) : Nat := (fields.map recordLength).sum

/-- The tag which the record behind a list of fields has to name. -/
def lastTag (previousTag : Int) (fields : List CpicField) : Int :=
  (fields.getLast?.map CpicField.tag).getD previousTag

/-- A field which a record can hold. -/
def FieldFits (limits : ResolvedCpicFieldChainLimits) (field : CpicField) : Prop :=
  (0 ≤ field.tag ∧ field.tag ≤ 0xffff) ∧ field.value.length ≤ limits.maxFieldLength

theorem uint16_eq_ok {value : Int} {field : String} {u : Unit} :
    uint16 value field = .ok u ↔ 0 ≤ value ∧ value ≤ 0xffff :=
  require_eq_ok

theorem uint16_of {value : Int} {field : String} (h : 0 ≤ value ∧ value ≤ 0xffff) :
    uint16 value field = .ok () :=
  require_of h

theorem length_recordBytes (previousTag : Nat) (field : CpicField) :
    (recordBytes previousTag field.tag.toNat field.value).length = recordLength field := by
  simp [recordBytes, recordLength, Nat.add_assoc]

theorem recordBytes_append_ne_nil (previousTag : Nat) (field : CpicField) (rest : Bytes) :
    recordBytes previousTag field.tag.toNat field.value ++ rest ≠ [] := by
  apply List.append_ne_nil_of_left_ne_nil
  apply List.ne_nil_of_length_pos
  rw [length_recordBytes, recordLength]
  omega

theorem length_chainBytes (previousTag : Int) (fields : List CpicField) :
    (chainBytes previousTag fields).length = chainLength fields := by
  induction fields generalizing previousTag with
  | nil => rfl
  | cons field fields ih =>
      rw [chainBytes, List.length_append, length_recordBytes, ih]
      rfl

theorem chainLength_cons (field : CpicField) (fields : List CpicField) :
    chainLength (field :: fields) = recordLength field + chainLength fields := rfl

theorem chainLength_append (fields fields' : List CpicField) :
    chainLength (fields ++ fields') = chainLength fields + chainLength fields' := by
  simp [chainLength]

theorem lastTag_cons (previousTag : Int) (field : CpicField) (fields : List CpicField) :
    lastTag previousTag (field :: fields) = lastTag field.tag fields := by
  rw [lastTag, lastTag, List.getLast?_cons]
  cases fields.getLast? with
  | none => rfl
  | some last => rfl

theorem lastTag_pos {previousTag : Int} {fields : List CpicField} (hprevious : 0 < previousTag)
    (hfields : ∀ field ∈ fields, 0 < field.tag) : 0 < lastTag previousTag fields := by
  unfold lastTag
  cases hlast : fields.getLast? with
  | none => exact hprevious
  | some last => exact hfields last (List.mem_of_getLast? hlast)

theorem lastTag_le {previousTag : Int} {fields : List CpicField}
    (hprevious : 0 ≤ previousTag ∧ previousTag ≤ 0xffff)
    (hfields : ∀ field ∈ fields, 0 ≤ field.tag ∧ field.tag ≤ 0xffff) :
    0 ≤ lastTag previousTag fields ∧ lastTag previousTag fields ≤ 0xffff := by
  unfold lastTag
  cases hlast : fields.getLast? with
  | none => exact hprevious
  | some last => exact hfields last (List.mem_of_getLast? hlast)

theorem chainBytes_append (previousTag : Int) (fields fields' : List CpicField) :
    chainBytes previousTag (fields ++ fields') =
      chainBytes previousTag fields ++ chainBytes (lastTag previousTag fields) fields' := by
  induction fields generalizing previousTag with
  | nil => rfl
  | cons field fields ih =>
      rw [List.cons_append, chainBytes, chainBytes, ih, List.append_assoc, lastTag_cons]

variable {limits : ResolvedCpicFieldChainLimits} {field : CpicField} {fields : List CpicField}

theorem le_of_resolve {limits : CpicFieldChainLimits} {resolved : ResolvedCpicFieldChainLimits}
    (h : resolveCpicFieldChainLimits limits = .ok resolved) :
    resolved.maxFieldLength ≤ rfcProValueLengthMax ∧
      resolved.maxChainLength ≤ rfcProValueLengthMax := by
  simp only [resolveCpicFieldChainLimits, bind_eq_ok, boundedInteger_eq_ok, exists_const,
    Except.ok.injEq] at h
  obtain ⟨hfield, hchain, -, rfl⟩ := h
  exact ⟨Int.toNat_le.mpr hfield.2, Int.toNat_le.mpr hchain.2⟩

theorem addFieldLengths_eq_ok {byteLength total : Nat}
    (hmax : limits.maxFieldLength ≤ rfcProValueLengthMax)
    (hlength : byteLength ≤ limits.maxChainLength) :
    addFieldLengths limits byteLength fields = .ok total ↔
      (∀ field ∈ fields, FieldFits limits field) ∧
        byteLength + chainLength fields ≤ limits.maxChainLength ∧
        byteLength + chainLength fields = total := by
  induction fields generalizing byteLength with
  | nil =>
      rw [addFieldLengths, Except.ok.injEq]
      constructor
      · rintro rfl
        exact ⟨nofun, hlength, rfl⟩
      · exact fun h => h.2.2
  | cons field fields ih =>
      simp only [addFieldLengths, bind_eq_ok, uint16_eq_ok, require_eq_ok,
        rfcProFieldHeaderByteLength_eq_ok, exists_const, List.forall_mem_cons, chainLength_cons]
      constructor
      · rintro ⟨htag, hvalue, headerLength, ⟨-, rfl⟩, hroom, hrest⟩
        obtain ⟨hfields, hchain, rfl⟩ := (ih hroom).mp hrest
        refine ⟨⟨⟨htag, hvalue⟩, hfields⟩, ?_, ?_⟩
        · simp only [recordLength]
          omega
        · simp only [recordLength]
          omega
      · rintro ⟨⟨⟨htag, hvalue⟩, hfields⟩, hchain, rfl⟩
        have hrecord : recordLength field =
            2 + headerLength field.value.length + field.value.length := rfl
        have hroom : byteLength + (2 + headerLength field.value.length + field.value.length) ≤
            limits.maxChainLength := by omega
        exact ⟨htag, hvalue, _, ⟨hvalue.trans hmax, rfl⟩, hroom,
          (ih hroom).mpr ⟨hfields, by omega, by omega⟩⟩

theorem encodeFields_ok (hmax : limits.maxFieldLength ≤ rfcProValueLengthMax)
    (h : ∀ field ∈ fields, FieldFits limits field) (previousTag : Int) :
    encodeFields previousTag fields = .ok (chainBytes previousTag fields) := by
  induction fields generalizing previousTag with
  | nil => rfl
  | cons field fields ih =>
      rw [List.forall_mem_cons] at h
      obtain ⟨⟨htag, hvalue⟩, hfields⟩ := h
      have hheader : encodeRfcProFieldHeader field.tag field.value.length =
          .ok (headerBytes field.tag.toNat field.value.length) := by
        rw [← Int.toNat_of_nonneg htag.1]
        exact encodeRfcProFieldHeader_ok (by omega) (hvalue.trans hmax)
      rw [encodeFields, hheader, ok_bind, ih hfields, ok_bind, chainBytes, recordBytes]

theorem readHeaderSnapshot_headerBytes {previousTag tag offset : Nat} {value : Bytes}
    (hchain : offset + (2 + headerLength value.length) ≤ limits.maxChainLength) (rest : Bytes) :
    readHeaderSnapshot limits offset (recordBytes previousTag tag value ++ rest) =
      .ok (headerBytes tag value.length) := by
  have hbytes : recordBytes previousTag tag value ++ rest =
      Bytes.bigEndian 2 previousTag ++ headerBytes tag value.length ++ (value ++ rest) := by
    rw [recordBytes, List.append_assoc]
  by_cases hcompact : value.length ≤ rfcProCompactLengthMax
  · have hle : value.length ≤ 0xfffe := hcompact
    have hheader : headerLength value.length = 4 := if_pos hcompact
    have hslice : Bytes.slice (recordBytes previousTag tag value ++ rest) 2 4 =
        headerBytes tag value.length := by
      rw [hbytes]
      apply Bytes.slice_append
      · exact (Bytes.length_bigEndian 2 previousTag).symm
      · rw [length_headerBytes, hheader]
    have hlengthSlice : Bytes.slice (recordBytes previousTag tag value ++ rest) 4 2 =
        Bytes.bigEndian 2 value.length := by
      have hsplit : recordBytes previousTag tag value ++ rest =
          (Bytes.bigEndian 2 previousTag ++ Bytes.bigEndian 2 tag) ++
            Bytes.bigEndian 2 value.length ++ (value ++ rest) := by
        simp [recordBytes, headerBytes, hcompact]
      rw [hsplit]
      exact Bytes.slice_append _ _ _ (by simp) (by simp)
    rw [readHeaderSnapshot, hlengthSlice, hslice, if_neg]
    rw [Bytes.number_bigEndian 2 (by omega), rfcProExtendedLengthSentinel]
    omega
  · have hheader : headerLength value.length = 8 := if_neg hcompact
    have hslice : Bytes.slice (recordBytes previousTag tag value ++ rest) 2 8 =
        headerBytes tag value.length := by
      rw [hbytes]
      apply Bytes.slice_append
      · exact (Bytes.length_bigEndian 2 previousTag).symm
      · rw [length_headerBytes, hheader]
    have hsentinelSlice : Bytes.slice (recordBytes previousTag tag value ++ rest) 4 2 =
        Bytes.bigEndian 2 rfcProExtendedLengthSentinel := by
      have hsplit : recordBytes previousTag tag value ++ rest =
          (Bytes.bigEndian 2 previousTag ++ Bytes.bigEndian 2 tag) ++
            Bytes.bigEndian 2 rfcProExtendedLengthSentinel ++
            (Bytes.bigEndian 4 value.length ++ value ++ rest) := by
        simp [recordBytes, headerBytes, hcompact]
      rw [hsplit]
      exact Bytes.slice_append _ _ _ (by simp) (by simp)
    have hroom : 4 ≤ ((recordBytes previousTag tag value ++ rest).drop 6).length := by
      rw [hbytes]
      simp [hheader]
      omega
    rw [readHeaderSnapshot, hsentinelSlice, if_pos (by decide), hslice,
      enforceCpicChainLength, require_of (by omega), ok_bind, requireCpicInput, require_of hroom,
      ok_bind]

/-- A record which fits is read, whatever stands behind it. -/
theorem readField_recordBytes {previousTag : Int} {offset : Nat}
    (hmax : limits.maxFieldLength ≤ rfcProValueLengthMax)
    (hprevious : 0 ≤ previousTag ∧ previousTag ≤ 0xffff) (hfield : FieldFits limits field)
    (hchain : offset + recordLength field ≤ limits.maxChainLength) (rest : Bytes) :
    readField limits previousTag offset
        (recordBytes previousTag.toNat field.tag.toNat field.value ++ rest) =
      .ok (field, recordLength field) := by
  obtain ⟨⟨htag0, htag⟩, hvalue⟩ := hfield
  have htag' : field.tag.toNat ≤ 0xffff := by omega
  obtain ⟨encoding, hheader⟩ := decodeRfcProFieldHeader_headerBytes htag'
    (Int.ofNat_le.mpr hvalue) (Int.ofNat_le.mpr hmax)
  have hlength := length_recordBytes previousTag.toNat field
  have hrecord : recordLength field =
      2 + headerLength field.value.length + field.value.length := rfl
  have hprevNumber : Bytes.number (Bytes.bigEndian 2 previousTag.toNat) = previousTag.toNat :=
    Bytes.number_bigEndian 2 (by omega)
  have hprevSlice : Bytes.slice (recordBytes previousTag.toNat field.tag.toNat field.value ++ rest)
      0 2 = Bytes.bigEndian 2 previousTag.toNat := by
    rw [recordBytes, List.append_assoc, List.append_assoc]
    exact Bytes.slice_append [] _ _ rfl (Bytes.length_bigEndian 2 _).symm
  have hvalueSlice : Bytes.slice (recordBytes previousTag.toNat field.tag.toNat field.value ++ rest)
      (2 + headerLength field.value.length) field.value.length = field.value := by
    rw [recordBytes]
    exact Bytes.slice_append _ _ _ (by simp) rfl
  have hsnapshot : readHeaderSnapshot limits offset
      (recordBytes previousTag.toNat field.tag.toNat field.value ++ rest) =
        .ok (headerBytes field.tag.toNat field.value.length) :=
    readHeaderSnapshot_headerBytes (by omega) rest
  have hroom : (recordBytes previousTag.toNat field.tag.toNat field.value ++ rest).length =
      recordLength field + rest.length := by
    rw [List.length_append, hlength]
  have hmin : 4 ≤ headerLength field.value.length := by
    unfold headerLength
    split
    · exact Nat.le_refl 4
    · omega
  simp only [readField, enforceCpicChainLength, requireCpicInput, List.length_drop, hroom,
    hprevSlice, hprevNumber, hsnapshot, hheader, ok_bind, hvalueSlice]
  rw [require_of (by omega), ok_bind, require_of (by omega), ok_bind, require_of (by omega),
    ok_bind, require_of (by omega), ok_bind, require_of (by omega), ok_bind,
    Int.toNat_of_nonneg htag0, hrecord]

/-- The records in front of the terminal one are read one after the other. -/
theorem readFields_chainBytes {terminalTag : Option Int} {previousTag : Int} {count offset : Nat}
    (hmax : limits.maxFieldLength ≤ rfcProValueLengthMax)
    (hprevious : 0 ≤ previousTag ∧ previousTag ≤ 0xffff)
    (hfields : ∀ field ∈ fields, FieldFits limits field)
    (hterminal : ∀ field ∈ fields, terminalTag ≠ some field.tag)
    (hchain : offset + chainLength fields ≤ limits.maxChainLength) (rest : Bytes) :
    readFields limits terminalTag (fields.length + count) previousTag offset
        (chainBytes previousTag fields ++ rest) =
      readFields limits terminalTag count (lastTag previousTag fields)
          (offset + chainLength fields) rest >>= fun decoded =>
        .ok ⟨fields ++ decoded.fields, decoded.bytesConsumed⟩ := by
  induction fields generalizing previousTag offset with
  | nil =>
      have hlength : ([] : List CpicField).length + count = count := Nat.zero_add count
      rw [hlength]
      change readFields limits terminalTag count previousTag offset rest = _
      cases hread : readFields limits terminalTag count previousTag offset rest with
      | error e =>
          change _ = readFields limits terminalTag count previousTag offset rest >>= _
          rw [hread]
          rfl
      | ok decoded =>
          change _ = readFields limits terminalTag count previousTag offset rest >>= _
          rw [hread]
          rfl
  | cons field fields ih =>
      rw [List.forall_mem_cons] at hfields hterminal
      rw [chainLength_cons] at hchain
      have hroom : offset + recordLength field ≤ limits.maxChainLength := by omega
      have hread := readField_recordBytes hmax hprevious hfields.1 hroom
        (chainBytes field.tag fields ++ rest)
      have hlength : (field :: fields).length + count = (fields.length + count) + 1 := by
        rw [List.length_cons]
        omega
      have hne := recordBytes_append_ne_nil previousTag.toNat field
        (chainBytes field.tag fields ++ rest)
      have hdrop : (recordBytes previousTag.toNat field.tag.toNat field.value ++
          (chainBytes field.tag fields ++ rest)).drop (recordLength field) =
            chainBytes field.tag fields ++ rest := by
        rw [← length_recordBytes previousTag.toNat field, List.drop_left]
      rw [hlength, chainBytes, List.append_assoc, readFields, if_neg hne]
      simp only [hread, ok_bind, if_neg hterminal.1, hdrop]
      rw [ih hfields.1.1 hfields.2 hterminal.2 (by omega), lastTag_cons, chainLength_cons,
        Nat.add_assoc]
      cases readFields limits terminalTag count (lastTag field.tag fields)
          (offset + (recordLength field + chainLength fields)) rest with
      | error e => rfl
      | ok decoded => rfl

/-- What the encoder of a chain accepts, and what it writes. -/
theorem encodeCpicFieldChain_eq_ok {previousTag : Int} {limits : CpicFieldChainLimits}
    {encoded : Bytes} :
    encodeCpicFieldChain previousTag fields limits = .ok encoded ↔
      (0 ≤ previousTag ∧ previousTag ≤ 0xffff) ∧
        ∃ resolved, resolveCpicFieldChainLimits limits = .ok resolved ∧
          fields.length ≤ resolved.maxFieldCount ∧
          (∀ field ∈ fields, FieldFits resolved field) ∧
          chainLength fields ≤ resolved.maxChainLength ∧
          chainBytes previousTag fields = encoded := by
  simp only [encodeCpicFieldChain, cpicFieldChainByteLength, bind_eq_ok, uint16_eq_ok,
    require_eq_ok, exists_const]
  constructor
  · rintro ⟨total, ⟨hprevious, resolved, hresolved, hcount, htotal⟩, hencoded⟩
    have hmax := (le_of_resolve hresolved).1
    obtain ⟨hfields, hchain, -⟩ := (addFieldLengths_eq_ok hmax (Nat.zero_le _)).mp htotal
    rw [encodeFields_ok hmax hfields, Except.ok.injEq] at hencoded
    rw [Nat.zero_add] at hchain
    exact ⟨hprevious, resolved, hresolved, hcount, hfields, hchain, hencoded⟩
  · rintro ⟨hprevious, resolved, hresolved, hcount, hfields, hchain, rfl⟩
    have hmax := (le_of_resolve hresolved).1
    have htotal := (addFieldLengths_eq_ok hmax (Nat.zero_le _)).mpr
      ⟨hfields, by rwa [Nat.zero_add], rfl⟩
    exact ⟨_, ⟨hprevious, resolved, hresolved, hcount, htotal⟩, encodeFields_ok hmax hfields _⟩

theorem resolve_default : resolveCpicFieldChainLimits {} =
    .ok ⟨defaultMaxCpicFieldLength, defaultMaxCpicFieldChainLength, defaultMaxCpicFieldCount⟩ := by
  decide

theorem chainLength_le_of_encoded {previousTag : Int} {encoded : Bytes}
    (h : encodeCpicFieldChain previousTag fields = .ok encoded) :
    chainLength fields ≤ defaultMaxCpicFieldChainLength := by
  obtain ⟨-, resolved, hresolved, -, -, hchain, -⟩ := encodeCpicFieldChain_eq_ok.mp h
  rw [resolve_default, Except.ok.injEq] at hresolved
  subst hresolved
  exact hchain

/-- The length which is computed in advance. -/
theorem cpicFieldChainByteLength_encoded {previousTag : Int} {limits : CpicFieldChainLimits}
    {encoded : Bytes} (h : encodeCpicFieldChain previousTag fields limits = .ok encoded) :
    cpicFieldChainByteLength previousTag fields limits = .ok encoded.length := by
  obtain ⟨hprevious, resolved, hresolved, hcount, hfits, hchain, rfl⟩ :=
    encodeCpicFieldChain_eq_ok.mp h
  have htotal : addFieldLengths resolved 0 fields = .ok (chainLength fields) :=
    (addFieldLengths_eq_ok (le_of_resolve hresolved).1 (Nat.zero_le _)).mpr
      ⟨hfits, by rwa [Nat.zero_add], Nat.zero_add _⟩
  rw [cpicFieldChainByteLength, uint16_of hprevious, ok_bind, hresolved, ok_bind,
    require_of hcount, ok_bind, htotal, length_chainBytes]

/-- A chain whose last field alone has the terminal tag is read up to its end, whatever stands
behind it. -/
theorem decodeCpicFieldChainPrefix_encoded {previousTag : Int} {limits : CpicFieldChainLimits}
    {last : CpicField} {encoded : Bytes}
    (h : encodeCpicFieldChain previousTag (fields ++ [last]) limits = .ok encoded)
    (hterminal : ∀ field ∈ fields, field.tag ≠ last.tag) (rest : Bytes) :
    decodeCpicFieldChainPrefix (encoded ++ rest) previousTag last.tag limits =
      .ok ⟨fields ++ [last], encoded.length⟩ := by
  obtain ⟨hprevious, resolved, hresolved, hcount, hfits, hchain, rfl⟩ :=
    encodeCpicFieldChain_eq_ok.mp h
  have hmax := (le_of_resolve hresolved).1
  rw [List.forall_mem_append, List.forall_mem_singleton] at hfits
  obtain ⟨hfields, hlast⟩ := hfits
  have hterminal' : ∀ field ∈ fields, some last.tag ≠ some field.tag := by
    intro field hfield he
    exact hterminal field hfield (Option.some.inj he).symm
  rw [List.length_append, List.length_singleton] at hcount
  rw [chainLength_append] at hchain
  have hone : chainLength [last] = recordLength last := Nat.add_zero _
  obtain ⟨count, hsplit⟩ : ∃ count, resolved.maxFieldCount = fields.length + (count + 1) :=
    ⟨resolved.maxFieldCount - fields.length - 1, by omega⟩
  have hlastPrevious := lastTag_le hprevious fun field hfield => (hfields field hfield).1
  have hread := readField_recordBytes hmax hlastPrevious hlast
    (by omega : chainLength fields + recordLength last ≤ resolved.maxChainLength) rest
  rw [decodeCpicFieldChainPrefix, uint16_of hlast.1, ok_bind, decodeCpicFieldChainRegion,
    uint16_of hprevious, ok_bind, hresolved, ok_bind, require_of (Or.inl Option.isSome_some),
    ok_bind, hsplit, chainBytes_append, List.append_assoc,
    readFields_chainBytes hmax hprevious hfields hterminal' (by omega)]
  simp only [chainBytes, List.append_nil, readFields,
    if_neg (recordBytes_append_ne_nil _ last rest), hread, ok_bind, if_true, List.length_append,
    length_chainBytes, length_recordBytes, Nat.zero_add]

end Chain
end OpenRfc.Cpic
