import OpenRfc.ErrorEnvelope.Decoder
import OpenRfc.Cpic.LogonGrammar

/-!
The outcome of a logon. The first response of a server has one of three shapes, and no shape is
read as a success unless the status fields which are in it say so.
-/

namespace OpenRfc.Cpic
open Fallible ErrorEnvelope

structure DecodedCpicFunctionResultFields where
  success : Bool
  status : Option Nat
  envelope : RfcErrorEnvelope
  fields : List CpicField
deriving DecidableEq, Repr

def CpicField.toEnvelopeField (field : CpicField) : RfcErrorEnvelopeField :=
  ⟨field.tag, field.value⟩

/-- The value of a hexadecimal digit. -/
def hexDigit (c : Char) : Nat :=
  if c.isDigit then c.toNat - '0'.toNat else c.toNat - 'a'.toNat + 10

/-- `Number.parseInt(text, 16)`, of digits in lower case -/
def parseHex (text : String) : Nat :=
  text.toList.foldl (fun value c => value * 16 + hexDigit c) 0

/-- The number in the only control 0x0420 of a success. -/
def controlStatus (envelope : RfcErrorEnvelope) : Option Nat :=
  match envelope.outcome, envelope.facts.unresolved0420 with
  | .success, [control] =>
    if control.byteLength = 4 then some (parseHex control.valueHex) else none
  | _, _ => none

def decodeCpicFunctionResponseFields (fields : List CpicField)
    (additionalAllowedTags : List Int := []) :
    Except RfcErrorEnvelopeError DecodedCpicFunctionResultFields := do
  let envelope ← decodeRfcErrorEnvelope (fields.map CpicField.toEnvelopeField)
    { maxFieldCount := defaultMaxCpicFieldCount
      additionalAllowedTags := [CpicTag.program, 0x0667] ++ additionalAllowedTags }
  .ok { success := envelope.outcome = .success
        status := controlStatus envelope
        envelope
        fields }

def initialCpicResponsePrefix : Bytes :=
  [0x01, 0x01, 0x00, 0x08, 0x01, 0x01, 0x01, 0x05, 0x04, 0x01, 0x00, 0x03]
def initialCpicErrorResponsePrefix : Bytes :=
  [0x01, 0x01, 0x00, 0x08, 0x01, 0x01, 0x01, 0x01, 0x01, 0x01, 0x00, 0x00]

def initialCpicRegularResponseTags : List Int :=
  [CpicTag.start, CpicTag.protocolVersion, CpicTag.capabilities, CpicTag.logonStatus,
    CpicTag.unresolved0420, initialCpicUnresolved0450, CpicTag.systemCodePage, CpicTag.end]

inductive InitialCpicLogonStructureRule
  | unsupportedField
  | unsupportedFieldZeroLogonStatus
  | invalidEndField
  | invalidStartField
  | malformedVendorLogonControl
  | duplicateControlField
  | malformedOneByteStatus
  | malformedCallStatus
  | missingLogonStatus
  | nonzeroCallStatus
deriving DecidableEq, Repr

inductive InitialCpicLogonParseStage
  | truncated
  | packetPrefix
  | fieldChain
  | trailer
  | protocol
  | errorPreamble
  | errorEnvelope
deriving DecidableEq, Repr

structure StructuralField where
  tag : Int
  byteLength : Nat
deriving DecidableEq, Repr

/-- The errors with what is registered for them. The envelope in a composite response has no stage
of its own. -/
inductive InitialCpicLogonError
  | parse (stage : InitialCpicLogonParseStage) (message : String)
  | structural (rule : InitialCpicLogonStructureRule) (message : String)
      (fields : List StructuralField)
  | envelope (stage : Option InitialCpicLogonParseStage) (error : RfcErrorEnvelopeError)
deriving DecidableEq, Repr

structure DecodedCpicInitialLogonRejection where
  outcome : RfcErrorEnvelopeOutcome
  messageClass : JsString
  messageType : JsString
  messageNumber : JsString
  exceptionKey : JsString
  runtimeId : JsString
  text : JsString
deriving DecidableEq, Repr

structure DecodedCpicInitialLogonResponse where
  success : Bool
  status : Option Nat := none
  rejection : Option DecodedCpicInitialLogonRejection := none
  negotiatedProtocolVersion : Nat
  fields : List StructuralField
deriving DecidableEq, Repr

section Fields
variable (fields : List CpicField)

def fieldsWith (tag : Int) : List CpicField := fields.filter fun field => field.tag == tag

def structuralFields : List StructuralField :=
  fields.map fun field => ⟨field.tag, field.value.length⟩

/-- There is one End field, it is the last one, and it is empty. -/
def EndsOnce : Prop :=
  (fieldsWith fields CpicTag.end).length = 1 ∧
    fields.getLast?.map CpicField.tag = some CpicTag.end ∧
    ∀ field ∈ fieldsWith fields CpicTag.end, field.value.length = 0

/-- The fields for a status, at most one of which is there, have one width. -/
def StatusFits (tag : Int) (byteLength : Nat) : Prop :=
  (fieldsWith fields tag).length ≤ 1 ∧
    ∀ field ∈ fieldsWith fields tag, field.value.length = byteLength

instance : Decidable (EndsOnce fields) := inferInstanceAs (Decidable (_ ∧ _))

instance (tag : Int) (byteLength : Nat) : Decidable (StatusFits fields tag byteLength) :=
  inferInstanceAs (Decidable (_ ∧ _))

/-- The byte of the logon status. A status which is absent counts as zero. -/
def oneByteStatus : Nat :=
  match fieldsWith fields CpicTag.logonStatus with
  | [field] => Bytes.number (Bytes.slice field.value 0 1)
  | _ => 0

/-- The call status, where there is one, is zero. -/
def ZeroCallStatus : Prop :=
  ∀ field ∈ fieldsWith fields CpicTag.unresolved0420, Bytes.number (Bytes.slice field.value 0 4) = 0

instance : Decidable (ZeroCallStatus fields) := List.decidableBAll _ _

end Fields

section Shapes
variable (fields : List CpicField) (protocol : CpicField)

def failInitialCpicLogonStructure (p : Prop) [Decidable p] (rule : InitialCpicLogonStructureRule)
    (message : String) : Except InitialCpicLogonError Unit :=
  require p (.structural rule message (structuralFields fields))

def negotiatedProtocolVersion : Nat := Bytes.number (Bytes.slice protocol.value 0 4)

/-- A composite response, whose call has an embedded response of its own. -/
def decodeRichInitialCpicRfcPingResponse :
    Except InitialCpicLogonError DecodedCpicInitialLogonResponse := do
  failInitialCpicLogonStructure fields (EndsOnce fields) .invalidEndField
    "initial CPIC RFCPING composite response has an invalid End field"
  failInitialCpicLogonStructure fields (StatusFits fields CpicTag.logonStatus 1)
    .malformedOneByteStatus "initial CPIC RFCPING composite response has malformed logon status"
  failInitialCpicLogonStructure fields
    ((fieldsWith fields CpicTag.unresolved0420).length = 1 ∧
      StatusFits fields CpicTag.unresolved0420 4)
    .malformedCallStatus "initial CPIC RFCPING composite response has malformed call status"
  failInitialCpicLogonStructure fields (hasInitialCpicCompositeDuplicate fields = false)
    .duplicateControlField "initial CPIC RFCPING composite response has a duplicate field"
  let status := oneByteStatus fields
  match matchInitialCpicRichGrammar fields with
  | none =>
    .error (.structural
      (if status = 0 then .unsupportedFieldZeroLogonStatus else .unsupportedField)
      "initial CPIC RFCPING composite response does not match the bounded composite shape"
      (structuralFields fields))
  | some grammarMatch =>
    if status ≠ 0 then
      .ok { success := false
            status := some status
            negotiatedProtocolVersion := negotiatedProtocolVersion protocol
            fields := structuralFields fields }
    else do
      failInitialCpicLogonStructure fields (ZeroCallStatus fields) .nonzeroCallStatus
        "initial CPIC RFCPING composite response has nonzero call status"
      let embedded ← (decodeCpicFunctionResponseFields
        (fields.drop (grammarMatch.preambleFieldCount + 1))
        grammarMatch.embeddedAllowedTags).mapError (.envelope none)
      failInitialCpicLogonStructure fields (embedded.success = true) .nonzeroCallStatus
        "initial CPIC RFCPING composite response is not successful"
      .ok { success := true
            status := some status
            negotiatedProtocolVersion := negotiatedProtocolVersion protocol
            fields := structuralFields fields }

/-- The preamble of an error response, behind which there are more fields than the End field. -/
def initialCpicErrorPreamble : Except InitialCpicLogonError InitialCpicErrorPreambleMatch :=
  match matchInitialCpicErrorPreamble fields with
  | some preamble =>
    if fields.length ≤ preamble.fieldCount + 1 then
      .error (.parse .errorPreamble "initial CPIC logon error response has an invalid preamble")
    else .ok preamble
  | none =>
    .error (.parse .errorPreamble "initial CPIC logon error response has an invalid preamble")

/-- An error response: a preamble, and an envelope with what the server says. -/
def decodeInitialCpicErrorResponse :
    Except InitialCpicLogonError DecodedCpicInitialLogonResponse := do
  let preamble ← initialCpicErrorPreamble fields
  require (∀ tag ∈ preamble.allowedTags, (fieldsWith fields tag).length = 1)
    (.parse .errorPreamble "initial CPIC logon error response has duplicate preamble fields")
  -- The width of the code page tells whether the texts are Unicode yet.
  let codePage := fieldsWith fields CpicTag.systemCodePage
  let envelope ← (decodeRfcErrorEnvelope (fields.map CpicField.toEnvelopeField)
    { additionalAllowedTags := preamble.allowedTags
      textEncoding := if codePage.head?.map (·.value.length) = some 4 then .ascii
        else .utf16le }).mapError (.envelope (some .errorEnvelope))
  require (envelope.outcome ≠ .success)
    (.parse .errorEnvelope "initial CPIC logon error response lacks a rejected outcome")
  .ok { success := false
        rejection := some
          { outcome := envelope.outcome
            messageClass := envelope.facts.messageClass
            messageType := envelope.facts.messageType
            messageNumber := envelope.facts.messageNumber
            exceptionKey := envelope.facts.exceptionKey
            runtimeId := envelope.facts.runtimeId
            text := envelope.facts.plainText }
        negotiatedProtocolVersion := negotiatedProtocolVersion protocol
        fields := structuralFields fields }

/-- The first field whose tag is not one of a regular response, with its index. -/
def checkRegularTags : Nat → List CpicField → Except InitialCpicLogonError Unit
  | _, [] => .ok ()
  | index, field :: rest => do
    failInitialCpicLogonStructure fields (field.tag ∈ initialCpicRegularResponseTags)
      .unsupportedField
      s!"initial CPIC logon response contains unsupported field {tagText field.tag} ({field.value.length} bytes) at index {index}"
    checkRegularTags (index + 1) rest

/-- The fields behind the wrapper of a WebSocket. -/
def semanticFields : List CpicField :=
  if (fieldsWith fields CpicTag.start).length = 1 then fields.drop 1 else fields

/-- A regular response: a few controls and at least one status. -/
def decodeInitialCpicRegularResponse :
    Except InitialCpicLogonError DecodedCpicInitialLogonResponse := do
  checkRegularTags fields 0 fields
  failInitialCpicLogonStructure fields (EndsOnce fields) .invalidEndField
    "initial CPIC logon response has an invalid End field"
  let startFields := fieldsWith fields CpicTag.start
  failInitialCpicLogonStructure fields
    (startFields.length ≤ 1 ∧ (startFields.length = 1 →
      fields.head?.map CpicField.tag = some CpicTag.start ∧
        ∀ field ∈ startFields, field.value.length = 0))
    .invalidStartField "initial CPIC logon response has an invalid Start field"
  let observedS4Controls := fieldsWith fields initialCpicUnresolved0450
  failInitialCpicLogonStructure fields
    (observedS4Controls.length ≤ 1 ∧ (observedS4Controls.length = 1 →
      (∀ field ∈ observedS4Controls, field.value.length = 6) ∧
        (semanticFields fields).findIdx (·.tag == initialCpicUnresolved0450) = 4 ∧
        (semanticFields fields)[3]?.map CpicField.tag = some CpicTag.unresolved0420))
    .malformedVendorLogonControl
    "initial CPIC logon response has malformed 0x0450 control"
  failInitialCpicLogonStructure fields
    (∀ singletonTag ∈ [CpicTag.capabilities, CpicTag.systemCodePage],
      (fieldsWith fields singletonTag).length ≤ 1)
    .duplicateControlField "initial CPIC logon response has duplicate control fields"
  failInitialCpicLogonStructure fields (StatusFits fields CpicTag.logonStatus 1)
    .malformedOneByteStatus "initial CPIC logon response has malformed one-byte status"
  failInitialCpicLogonStructure fields (StatusFits fields CpicTag.unresolved0420 4)
    .malformedCallStatus "initial CPIC logon response has malformed call status"
  failInitialCpicLogonStructure fields
    (¬((fieldsWith fields CpicTag.logonStatus).length = 0 ∧
      (fieldsWith fields CpicTag.unresolved0420).length = 0))
    .missingLogonStatus "initial CPIC logon response lacks a recognized logon status"
  failInitialCpicLogonStructure fields (ZeroCallStatus fields) .nonzeroCallStatus
    "initial CPIC logon response has nonzero call status"
  let status := oneByteStatus fields
  .ok { success := status = 0
        status := some status
        negotiatedProtocolVersion := negotiatedProtocolVersion protocol
        fields := structuralFields fields }

end Shapes

/-- The first response of a server. -/
def decodeCpicInitialLogonResponse (data : Bytes) :
    Except InitialCpicLogonError DecodedCpicInitialLogonResponse := do
  require (initialCpicResponsePrefix.length + 8 ≤ data.length)
    (.parse .truncated "initial CPIC logon response is truncated")
  let packetPrefix := data.take initialCpicResponsePrefix.length
  require (packetPrefix = initialCpicResponsePrefix ∨
      packetPrefix = initialCpicErrorResponsePrefix)
    (.parse .packetPrefix "initial CPIC logon response prefix is invalid")
  let decoded ← (decodeCpicFieldChainPrefix (data.drop initialCpicResponsePrefix.length)
    CpicTag.start CpicTag.end).mapError (.parse .fieldChain)
  let trailerOffset := initialCpicResponsePrefix.length + decoded.bytesConsumed
  require (data.length - trailerOffset = 2 ∧
      Bytes.number (Bytes.slice data trailerOffset 2) = CpicTag.end)
    (.parse .trailer "initial CPIC logon response trailer is invalid")
  match fieldsWith decoded.fields CpicTag.protocolVersion with
  | [] =>
    .error (.parse .protocol "initial CPIC logon response lacks its protocol version")
  | protocol :: protocols => do
    require (protocol.value.length = 4)
      (.parse .protocol "initial CPIC logon response lacks its protocol version")
    if packetPrefix = initialCpicErrorResponsePrefix then
      decodeInitialCpicErrorResponse decoded.fields protocol
    else do
      require (protocols = [])
        (.parse .protocol "initial CPIC logon response lacks its protocol version")
      if ∃ field ∈ decoded.fields, field.tag = CpicTag.responseStart then
        decodeRichInitialCpicRfcPingResponse decoded.fields protocol
      else decodeInitialCpicRegularResponse decoded.fields protocol

section Safety
variable {fields : List CpicField} {protocol : CpicField}
  {response : DecodedCpicInitialLogonResponse}

/-- The fields of a logon which has been accepted. -/
structure Accepted (fields : List CpicField) : Prop where
  ending : ∃ before, fields = before ++ [⟨CpicTag.end, []⟩] ∧
    ∀ field ∈ before, field.tag ≠ CpicTag.end
  status : ∃ field ∈ fields, field.tag = CpicTag.logonStatus ∨ field.tag = CpicTag.unresolved0420
  logonStatus : ∀ field ∈ fields, field.tag = CpicTag.logonStatus → field.value = [0]
  callStatus : ∀ field ∈ fields, field.tag = CpicTag.unresolved0420 → field.value = [0, 0, 0, 0]

theorem mem_fieldsWith {tag : Int} {field : CpicField} :
    field ∈ fieldsWith fields tag ↔ field ∈ fields ∧ field.tag = tag := by
  rw [fieldsWith, List.mem_filter, beq_iff_eq]

theorem EndsOnce.ending (h : EndsOnce fields) :
    ∃ before, fields = before ++ [⟨CpicTag.end, []⟩] ∧
      ∀ field ∈ before, field.tag ≠ CpicTag.end := by
  obtain ⟨hcount, hlast, hempty⟩ := h
  obtain ⟨last, hlast, htag⟩ := Option.map_eq_some_iff.mp hlast
  obtain ⟨before, rfl⟩ := List.getLast?_eq_some_iff.mp hlast
  have hmem : last ∈ fieldsWith (before ++ [last]) CpicTag.end :=
    mem_fieldsWith.mpr ⟨List.mem_append_right _ List.mem_cons_self, htag⟩
  have hvalue : last.value = [] := List.length_eq_zero_iff.mp (hempty last hmem)
  have hbefore : fieldsWith before CpicTag.end = [] := by
    rw [fieldsWith, List.filter_append, List.length_append] at hcount
    simp only [List.filter_cons, htag, beq_self_eq_true, if_true, List.filter_nil,
      List.length_singleton] at hcount
    apply List.length_eq_zero_iff.mp
    rw [fieldsWith]
    omega
  refine ⟨before, ?_, ?_⟩
  · rw [← htag, ← hvalue]
  · intro field hfield he
    have hnone : field ∈ fieldsWith before CpicTag.end := mem_fieldsWith.mpr ⟨hfield, he⟩
    rw [hbefore] at hnone
    exact absurd hnone List.not_mem_nil

/-- A value of a fixed width whose number is zero. -/
theorem eq_alloc_of_number {value : Bytes} {width : Nat} (hlength : value.length = width)
    (hzero : Bytes.number (Bytes.slice value 0 width) = 0) : value = Bytes.alloc width := by
  have hslice : Bytes.slice value 0 width = value := by
    rw [Bytes.slice, List.drop_zero, List.take_of_length_le (by omega)]
  rw [hslice] at hzero
  apply Bytes.number_injective
  · rw [hlength, Bytes.length_alloc]
  · rw [hzero, Bytes.number_alloc]

theorem logonStatus_zero (hfits : StatusFits fields CpicTag.logonStatus 1)
    (hzero : oneByteStatus fields = 0) :
    ∀ field ∈ fields, field.tag = CpicTag.logonStatus → field.value = [0] := by
  intro field hfield htag
  have hmem : field ∈ fieldsWith fields CpicTag.logonStatus := mem_fieldsWith.mpr ⟨hfield, htag⟩
  obtain ⟨hcount, hwidth⟩ := hfits
  unfold oneByteStatus at hzero
  cases hwith : fieldsWith fields CpicTag.logonStatus with
  | nil =>
      rw [hwith] at hmem
      exact absurd hmem List.not_mem_nil
  | cons first rest =>
      rw [hwith, List.length_cons] at hcount
      obtain rfl : rest = [] := List.length_eq_zero_iff.mp (by omega)
      rw [hwith] at hmem hzero
      obtain rfl := List.mem_singleton.mp hmem
      rw [hwith] at hwidth
      exact eq_alloc_of_number (hwidth field List.mem_cons_self) hzero

theorem callStatus_zero (hfits : StatusFits fields CpicTag.unresolved0420 4)
    (hzero : ZeroCallStatus fields) :
    ∀ field ∈ fields, field.tag = CpicTag.unresolved0420 → field.value = [0, 0, 0, 0] := by
  intro field hfield htag
  have hmem : field ∈ fieldsWith fields CpicTag.unresolved0420 :=
    mem_fieldsWith.mpr ⟨hfield, htag⟩
  exact eq_alloc_of_number (hfits.2 field hmem) (hzero field hmem)

theorem failStructure_eq_ok {p : Prop} [Decidable p] {rule : InitialCpicLogonStructureRule}
    {message : String} {u : Unit} :
    failInitialCpicLogonStructure fields p rule message = .ok u ↔ p := require_eq_ok

theorem accepted_of_rich
    (h : decodeRichInitialCpicRfcPingResponse fields protocol = .ok response)
    (hsuccess : response.success = true) : Accepted fields := by
  simp only [decodeRichInitialCpicRfcPingResponse, bind_eq_ok, failStructure_eq_ok,
    exists_const] at h
  obtain ⟨hend, hlogon, ⟨hcount, hcall⟩, -, h⟩ := h
  split at h
  · exact absurd h nofun
  · split at h
    · rw [← Except.ok.inj h] at hsuccess
      exact absurd hsuccess nofun
    · rename_i hstatus
      rw [not_not] at hstatus
      simp only [bind_eq_ok, failStructure_eq_ok, exists_const] at h
      obtain ⟨hzero, -⟩ := h
      obtain ⟨field, hfield⟩ := List.length_eq_one_iff.mp hcount
      have hmem : field ∈ fieldsWith fields CpicTag.unresolved0420 := by
        rw [hfield]
        exact List.mem_cons_self
      obtain ⟨hmem, htag⟩ := mem_fieldsWith.mp hmem
      exact ⟨hend.ending, ⟨field, hmem, .inr htag⟩, logonStatus_zero hlogon hstatus,
        callStatus_zero hcall hzero⟩

theorem accepted_of_regular
    (h : decodeInitialCpicRegularResponse fields protocol = .ok response)
    (hsuccess : response.success = true) : Accepted fields := by
  simp only [decodeInitialCpicRegularResponse, bind_eq_ok, failStructure_eq_ok,
    exists_const, Except.ok.injEq] at h
  obtain ⟨_, -, hend, -, -, -, hlogon, hcall, hsome, hzero, rfl⟩ := h
  have hstatus : oneByteStatus fields = 0 := of_decide_eq_true hsuccess
  refine ⟨hend.ending, ?_, logonStatus_zero hlogon hstatus, callStatus_zero hcall hzero⟩
  by_contra hnone
  apply hsome
  constructor
  · rw [List.length_eq_zero_iff, List.eq_nil_iff_forall_not_mem]
    intro field hfield
    obtain ⟨hmem, htag⟩ := mem_fieldsWith.mp hfield
    exact hnone ⟨field, hmem, .inl htag⟩
  · rw [List.length_eq_zero_iff, List.eq_nil_iff_forall_not_mem]
    intro field hfield
    obtain ⟨hmem, htag⟩ := mem_fieldsWith.mp hfield
    exact hnone ⟨field, hmem, .inr htag⟩

theorem success_of_error (h : decodeInitialCpicErrorResponse fields protocol = .ok response) :
    response.success = false := by
  simp only [decodeInitialCpicErrorResponse, bind_eq_ok, Except.ok.injEq] at h
  obtain ⟨_, -, _, -, _, -, _, -, rfl⟩ := h
  rfl

/-- The shapes of a response which is read. -/
theorem shapes_of_ok {data : Bytes} (h : decodeCpicInitialLogonResponse data = .ok response) :
    ∃ decoded protocol,
      decodeCpicFieldChainPrefix (data.drop 12) CpicTag.start CpicTag.end = .ok decoded ∧
        (data.take 12 = initialCpicErrorResponsePrefix ∧
            decodeInitialCpicErrorResponse decoded.fields protocol = .ok response ∨
          data.take 12 = initialCpicResponsePrefix ∧
            (decodeRichInitialCpicRfcPingResponse decoded.fields protocol = .ok response ∨
              decodeInitialCpicRegularResponse decoded.fields protocol = .ok response)) := by
  simp only [decodeCpicInitialLogonResponse, bind_eq_ok, require_eq_ok, exists_const,
    mapError_eq_ok] at h
  obtain ⟨-, hstart, decoded, hdecoded, -, h⟩ := h
  split at h
  · cases h
  · rename_i protocol protocols _
    refine ⟨decoded, protocol, hdecoded, ?_⟩
    obtain ⟨_, -, h⟩ := bind_eq_ok.mp h
    split at h
    · rename_i herror
      exact .inl ⟨herror, h⟩
    · rename_i herror
      refine .inr ⟨hstart.resolve_right herror, ?_⟩
      obtain ⟨_, -, h⟩ := bind_eq_ok.mp h
      split at h
      · exact .inl h
      · exact .inr h

/-- What a successful logon has in its packet. -/
theorem accepted_of_success {data : Bytes} (h : decodeCpicInitialLogonResponse data = .ok response)
    (hsuccess : response.success = true) :
    data.take 12 = initialCpicResponsePrefix ∧
      ∃ decoded, decodeCpicFieldChainPrefix (data.drop 12) CpicTag.start CpicTag.end =
        .ok decoded ∧ Accepted decoded.fields := by
  obtain ⟨decoded, protocol, hdecoded, ⟨-, h⟩ | ⟨hstart, h | h⟩⟩ := shapes_of_ok h
  · rw [success_of_error h] at hsuccess
    exact absurd hsuccess nofun
  · exact ⟨hstart, decoded, hdecoded, accepted_of_rich h hsuccess⟩
  · exact ⟨hstart, decoded, hdecoded, accepted_of_regular h hsuccess⟩

/-- No response is taken for a successful logon unless its fields say so: a success has the
prefix of a regular response and accepting fields, and neither the prefix of an error nor a
status other than zero is a success. -/
theorem logon_outcome_safe (data : Bytes) (response : DecodedCpicInitialLogonResponse)
    (h : decodeCpicInitialLogonResponse data = .ok response) :
    (response.success = true →
      data.take 12 = initialCpicResponsePrefix ∧
        data.take 12 ≠ initialCpicErrorResponsePrefix ∧
        ∃ decoded, decodeCpicFieldChainPrefix (data.drop 12) CpicTag.start CpicTag.end =
          .ok decoded ∧ Accepted decoded.fields) ∧
    (data.take 12 = initialCpicErrorResponsePrefix → response.success = false) ∧
    ∀ decoded, decodeCpicFieldChainPrefix (data.drop 12) CpicTag.start CpicTag.end = .ok decoded →
      (∃ field ∈ decoded.fields,
        (field.tag = CpicTag.logonStatus ∨ field.tag = CpicTag.unresolved0420) ∧
          Bytes.number field.value ≠ 0) →
      response.success = false := by
  refine ⟨fun hsuccess => ?_, fun herror => ?_, fun decoded hdecoded hstatus => ?_⟩
  · obtain ⟨hstart, haccepted⟩ := accepted_of_success h hsuccess
    refine ⟨hstart, ?_, haccepted⟩
    rw [hstart]
    decide
  · by_contra hsuccess
    have hstart := (accepted_of_success h (Bool.eq_true_of_not_eq_false hsuccess)).1
    rw [herror] at hstart
    exact absurd hstart (by decide)
  · by_contra hsuccess
    obtain ⟨-, decoded', hdecoded', haccepted⟩ :=
      accepted_of_success h (Bool.eq_true_of_not_eq_false hsuccess)
    rw [hdecoded, Except.ok.injEq] at hdecoded'
    subst hdecoded'
    obtain ⟨field, hfield, htag | htag, hne⟩ := hstatus
    · rw [haccepted.logonStatus field hfield htag] at hne
      exact hne rfl
    · rw [haccepted.callStatus field hfield htag] at hne
      exact hne rfl

/-- A regular response with a protocol version and a logon status of zero. -/
def sampleLogonResponse : Bytes :=
  initialCpicResponsePrefix ++ [0x01, 0x01, 0x01, 0x03, 0, 4, 0, 0, 0x0e, 0x09] ++
    [0x01, 0x03, 0x01, 0x61, 0, 1, 0] ++ [0x01, 0x61, 0xff, 0xff, 0, 0] ++ [0xff, 0xff]

theorem logon_outcome_safe_sample :
    ∃ response, decodeCpicInitialLogonResponse sampleLogonResponse = .ok response ∧
      response.success = true ∧
      ∃ decoded, decodeCpicFieldChainPrefix (sampleLogonResponse.drop 12) CpicTag.start
        CpicTag.end = .ok decoded ∧ Accepted decoded.fields := by
  have h : decodeCpicInitialLogonResponse sampleLogonResponse = .ok
      { success := true
        status := some 0
        negotiatedProtocolVersion := 0x0e09
        fields := [⟨0x0103, 4⟩, ⟨0x0161, 1⟩, ⟨0xffff, 0⟩] } := by decide +kernel
  exact ⟨_, h, rfl, ((logon_outcome_safe _ _ h).1 rfl).2.2⟩

end Safety
end OpenRfc.Cpic
