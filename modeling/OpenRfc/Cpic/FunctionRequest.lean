import OpenRfc.Appc.Plan
import OpenRfc.Cpic.CutRequest

/-!
The hand-off of a request from the packet codec to the record planner. The planner is given the
application data of a packet and its SAP parameters as the framing of the packet splits them.
-/

namespace OpenRfc.Cpic
open Appc Fallible Wire
open DirectCpic (AppcFunction maxAppcOutgoingMessageLength)

def cpicFunctionRequestPrefix : Bytes :=
  [0x01, 0x01, 0x00, 0x08, 0x03, 0x01, 0x01, 0x05, 0x04, 0x01, 0x00, 0x03]
def initialProtocolVersion : Bytes := [0x00, 0x00, 0x0e, 0x09]
def initialCapabilities : Bytes :=
  [0x04, 0x01, 0x00, 0x03, 0x00, 0x0a, 0x02, 0x00, 0x00, 0x00, 0x23]

structure CpicFunctionRequestInput where
  functionName : JsString
  sessionId : Bytes
  kernelRelease : Option JsString := none
  maximumRfcPacketSize : Option Int := none
deriving DecidableEq, Repr

def CpicFunctionRequestInput.release (input : CpicFunctionRequestInput) : JsString :=
  input.kernelRelease.getD defaultKernelRelease

def exactBytes (value : Bytes) (length : Nat) (field : String) : Except String Bytes := do
  require (value.length = length)
    s!"{field} must contain exactly {length} bytes; received {value.length}"
  .ok value

/-- The first call of a connection. -/
def encodeCpicFunctionRequest (input : CpicFunctionRequestInput) : Except String Bytes := do
  require (isKernelRelease input.release) "kernelRelease must contain exactly three ASCII digits"
  let maximumRfcPacketSize ← checkedMaximumRfcPacketSize input.maximumRfcPacketSize
  let sessionId ← exactBytes input.sessionId 16 "sessionId"
  let functionName ← unicode input.functionName "functionName" 40
  let fields : List CpicField :=
    [⟨CpicTag.protocolVersion, initialProtocolVersion⟩,
      ⟨CpicTag.capabilities, initialCapabilities⟩,
      ⟨CpicTag.logonMarker, []⟩,
      ⟨CpicTag.session, sessionId⟩,
      ⟨CpicTag.contextEnd, []⟩,
      ⟨CpicTag.kernel, input.release.utf16le⟩,
      ⟨CpicTag.function, functionName⟩,
      ⟨CpicTag.callContext, []⟩,
      ⟨CpicTag.end, []⟩]
  let chainByteLength ← cpicFieldChainByteLength CpicTag.start fields {}
  let chain ← encodeCpicFieldChain CpicTag.start fields
  .ok (cpicFunctionRequestPrefix ++ chain ++
    packetTrailer (cpicFunctionRequestPrefix.length + chainByteLength) maximumRfcPacketSize)

section Encoding

/-- The fields of a first request in front of the End field. -/
def CpicFunctionRequestInput.fields (input : CpicFunctionRequestInput) : List CpicField :=
  [⟨CpicTag.protocolVersion, initialProtocolVersion⟩,
    ⟨CpicTag.capabilities, initialCapabilities⟩,
    ⟨CpicTag.logonMarker, []⟩,
    ⟨CpicTag.session, input.sessionId⟩,
    ⟨CpicTag.contextEnd, []⟩,
    ⟨CpicTag.kernel, input.release.utf16le⟩,
    ⟨CpicTag.function, input.functionName.utf16le⟩,
    ⟨CpicTag.callContext, []⟩]

theorem encoded_functionRequest {input : CpicFunctionRequestInput} {packet : Bytes}
    (h : encodeCpicFunctionRequest input = .ok packet) :
    ∃ chain maximumRfcPacketSize,
      encodeCpicFieldChain CpicTag.start (input.fields ++ [endField]) = .ok chain ∧
        cpicFunctionRequestPrefix ++ chain ++
          packetTrailer (cpicFunctionRequestPrefix.length + chain.length) maximumRfcPacketSize =
            packet := by
  simp only [encodeCpicFunctionRequest, exactBytes, bind_eq_ok, unicode_eq_ok, require_eq_ok,
    exists_const, Except.ok.injEq] at h
  obtain ⟨-, maximumRfcPacketSize, -, _, ⟨-, rfl⟩, _, ⟨-, rfl⟩, byteLength, hbyteLength, chain,
    hchain, hpacket⟩ := h
  rw [cpicFieldChainByteLength_encoded hchain, Except.ok.injEq] at hbyteLength
  subst hbyteLength
  exact ⟨chain, maximumRfcPacketSize, hchain, hpacket⟩

theorem encoded_cutFunctionRequest {input : CpicCutFunctionRequestInput} {packet : Bytes}
    (h : encodeCpicCutFunctionRequest input = .ok packet) :
    ∃ chain maximumRfcPacketSize,
      encodeCpicFieldChain CpicTag.contextEnd (input.fields ++ [endField]) = .ok chain ∧
        cpicCutFunctionRequestPrefix ++ chain ++
          packetTrailer (cpicCutFunctionRequestPrefix.length + chain.length)
            maximumRfcPacketSize = packet := by
  obtain ⟨-, chain, hchain, hpacket⟩ := encodeCpicCutFunctionRequest_eq_ok.mp h
  exact ⟨chain, _, hchain, hpacket⟩

theorem tag_pos_functionRequest {input : CpicFunctionRequestInput} :
    ∀ field ∈ input.fields, 0 < field.tag := by
  simp only [CpicFunctionRequestInput.fields, List.forall_mem_cons]
  exact ⟨by decide, by decide, by decide, by decide, by decide, by decide, by decide, by decide,
    nofun⟩

end Encoding

section Planning
variable {packet : Bytes} {framing : CpicRequestAppcFraming}

/-- What a session hands to the planner for a packet. -/
def planInput (packet : Bytes) (framing : CpicRequestAppcFraming) (header : AppcRecordHeaderInput)
    (communicationIndex connectionIndex : Int) : AppcOutgoingDataPlanInput where
  toAppcRecordHeaderInput := header
  applicationData := packet.take framing.applicationDataLength
  finalSapParameters := if framing.finalSapParameterLength = 0 then none
    else some (packet.drop framing.applicationDataLength)
  communicationIndex
  connectionIndex

/-- A record header whose fields fit into their places. -/
structure HeaderFits (header : AppcRecordHeaderInput) : Prop where
  conversationId : (header.conversationId.getD (Bytes.alloc 8)).length = 8
  fields : ∀ field ∈ header.fields .sapSend appcFinalSapParameterLength, field.InRange

/-- Options which allow a plan: streaming is enabled, and the limits allow its size. -/
structure Allows (options : AppcOutgoingDataPlannerOptions) (plan : AppcOutgoingDataPlanInput) :
    Prop where
  cpicStreaming : options.cpicStreaming = .enabled
  maxApplicationDataLength : options.maxApplicationDataLength ≤ maxAppcOutgoingMessageLength
  length : (plan.applicationData.length : Int) ≤ options.maxApplicationDataLength
  fragments : (fragmentCount plan : Int) ≤ options.maxFragments

theorem readUInt16BE_append {bytes : Bytes} {offset : Nat} (before word after : Bytes)
    (hbytes : before ++ word ++ after = bytes) (hoffset : offset = before.length)
    (hword : word.length = 2) : DirectCpic.readUInt16BE bytes offset = Bytes.number word := by
  have hslice := Bytes.slice_append before word after hoffset hword.symm
  rw [hbytes] at hslice
  exact congrArg Bytes.number hslice

/-- The tail of a compact packet. -/
theorem validate_tail {size : Nat} {parameters : Bytes}
    (hsize : size ≤ maxAppcApplicationDataFragmentLength) (hparameters : parameters.length = 4) :
    validateFinalSapParameters ([0, 0] ++ Bytes.bigEndian 2 size ++ parameters) size = .ok () := by
  have hzero : DirectCpic.readUInt16BE ([0, 0] ++ Bytes.bigEndian 2 size ++ parameters) 0 = 0 :=
    readUInt16BE_append [] [0, 0] (Bytes.bigEndian 2 size ++ parameters) (by simp) rfl rfl
  have hword : DirectCpic.readUInt16BE ([0, 0] ++ Bytes.bigEndian 2 size ++ parameters) 2 =
      size := by
    have hoffset : 2 = ([0, 0] : Bytes).length := rfl
    rw [readUInt16BE_append [0, 0] (Bytes.bigEndian 2 size) parameters rfl hoffset
      (Bytes.length_bigEndian 2 _), Bytes.number_bigEndian 2]
    unfold maxAppcApplicationDataFragmentLength at hsize
    omega
  rw [validateFinalSapParameters, require_of, ok_bind, hzero, require_of rfl, ok_bind, hword,
    require_of rfl]
  simp [hparameters, appcFinalSapParameterLength]

/-- What the planner asks of its input, for the two parts of a packet. -/
theorem admitted_planInput {contents : Bytes} {maximumRfcPacketSize : Nat}
    {header : AppcRecordHeaderInput} {communicationIndex connectionIndex : Int}
    (hlength : contents.length + 2 ≤ maxAppcOutgoingMessageLength) (hheader : HeaderFits header)
    (hindices : IndicesInRange communicationIndex connectionIndex) :
    Admitted (planInput (contents ++ packetTrailer contents.length maximumRfcPacketSize)
      (framingOf contents) header communicationIndex connectionIndex) := by
  have hdata : (planInput (contents ++ packetTrailer contents.length maximumRfcPacketSize)
      (framingOf contents) header communicationIndex connectionIndex).applicationData =
        contents ++ [0xff, 0xff] := by
    rw [planInput, applicationDataLength_framingOf, take_packet]
  have hdataLength := congrArg List.length hdata
  rw [List.length_append, List.length_cons, List.length_singleton] at hdataLength
  refine ⟨by omega, ?_, ?_, hheader.conversationId, hindices, _, _, hheader.fields⟩
  · intro parameters hparameters
    rw [hdataLength]
    by_cases hsize : contents.length + 2 ≤ maxAppcApplicationDataFragmentLength
    · rw [planInput, framingOf, if_pos hsize, if_neg (Nat.succ_ne_zero 7), Option.some.injEq,
        packetTrailer_eq, if_neg (by omega), ← List.append_assoc,
        List.drop_left' (by simp)] at hparameters
      rw [← hparameters]
      exact ⟨validate_tail hsize (Bytes.length_bigEndian 4 _), hsize⟩
    · rw [planInput, framingOf, if_neg hsize, if_pos rfl] at hparameters
      cases hparameters
  · intro hnone
    rw [hdataLength]
    by_contra hsize
    rw [planInput, framingOf, if_pos (by omega), if_neg (Nat.succ_ne_zero 7)] at hnone
    cases hnone

end Planning

section HandOff

/-- A packet which is classified by its size alone, and whose two parts the planner accepts. -/
structure HandedOff (contents packet : Bytes) : Prop where
  framing : inspectCpicRequestAppcFraming packet = .ok
    (if contents.length + 2 ≤ 28000 then ⟨.compact, contents.length + 2, 8⟩
    else ⟨.streamed, contents.length + 2, 0⟩)
  applicationData : packet.take (contents.length + 2) = contents ++ [0xff, 0xff]
  tail : (packet.drop (contents.length + 2)).length =
    if contents.length + 2 ≤ 28000 then 8 else 0
  plan : ∀ framing, inspectCpicRequestAppcFraming packet = .ok framing →
    ∀ (header : AppcRecordHeaderInput) (communicationIndex connectionIndex : Int)
      (options : AppcOutgoingDataPlannerOptions), HeaderFits header →
      IndicesInRange communicationIndex connectionIndex →
      Allows options (planInput packet framing header communicationIndex connectionIndex) →
      ∃ fragments, planOutgoingAppcDataFragments
        (planInput packet framing header communicationIndex connectionIndex) options =
          .ok fragments

theorem handedOff_packet (header : Bytes) {chain packet : Bytes} {previousTag : Int}
    {fields : List CpicField} {maximumRfcPacketSize : Nat}
    (hchain : encodeCpicFieldChain previousTag (fields ++ [endField]) = .ok chain)
    (hprevious : 0 < previousTag) (hfields : ∀ field ∈ fields, 0 < field.tag)
    (hpacket : header ++ chain ++
      packetTrailer (header.length + chain.length) maximumRfcPacketSize = packet) :
    HandedOff (header ++ chain) packet := by
  have hframing := inspect_packet header hchain hprevious hfields maximumRfcPacketSize
  rw [hpacket] at hframing
  rw [← List.length_append] at hpacket
  refine ⟨hframing, ?_, ?_, ?_⟩
  · rw [← hpacket, take_packet]
  · rw [← hpacket, packetTrailer_eq, ← List.append_assoc, List.drop_left' (by simp [Nat.add_assoc])]
    unfold maxAppcApplicationDataFragmentLength
    split
    · rw [if_neg (by omega)]
      rfl
    · rw [if_pos (by omega)]
      simp
  · intro framing hinspect header' communicationIndex connectionIndex options hheader hindices
      hallows
    rw [hframing, Except.ok.injEq] at hinspect
    subst hinspect
    rw [← hpacket] at hallows ⊢
    have hlength := hallows.length
    have hmaximum := hallows.maxApplicationDataLength
    rw [planInput, applicationDataLength_framingOf, take_packet, List.length_append] at hlength
    apply planOutgoing_of_admitted _ hmaximum hallows.length (.inr hallows.cpicStreaming)
      hallows.fragments
    apply admitted_planInput _ hheader hindices
    rw [List.length_cons, List.length_singleton] at hlength
    omega

/-- The requests of both encoders pass from the codec to the planner. -/
theorem requests_handed_off :
    (∀ (input : CpicFunctionRequestInput) packet, encodeCpicFunctionRequest input = .ok packet →
      ∃ chain, encodeCpicFieldChain CpicTag.start (input.fields ++ [endField]) = .ok chain ∧
        HandedOff (cpicFunctionRequestPrefix ++ chain) packet) ∧
      ∀ (input : CpicCutFunctionRequestInput) packet,
        encodeCpicCutFunctionRequest input = .ok packet →
        ∃ chain, encodeCpicFieldChain CpicTag.contextEnd (input.fields ++ [endField]) =
            .ok chain ∧
          HandedOff (cpicCutFunctionRequestPrefix ++ chain) packet := by
  constructor
  · intro input packet h
    obtain ⟨chain, maximumRfcPacketSize, hchain, hpacket⟩ := encoded_functionRequest h
    exact ⟨chain, hchain, handedOff_packet _ hchain (by decide) tag_pos_functionRequest hpacket⟩
  · intro input packet h
    obtain ⟨chain, maximumRfcPacketSize, hchain, hpacket⟩ := encoded_cutFunctionRequest h
    refine ⟨chain, hchain, handedOff_packet _ hchain (by decide) ?_ hpacket⟩
    exact fun field hfield => (callTags_spec _ (tag_mem_callTags field hfield)).1

def sampleFunctionRequest : CpicFunctionRequestInput where
  functionName := [0x41]
  sessionId := Bytes.alloc 16

def sampleCutRequest : CpicCutFunctionRequestInput where
  functionName := [0x41]
  imports := [⟨[0x42], [1, 2, 3]⟩]

theorem requests_handed_off_samples :
    (∃ packet, encodeCpicFunctionRequest sampleFunctionRequest = .ok packet ∧
      ∃ chain, encodeCpicFieldChain CpicTag.start
          (sampleFunctionRequest.fields ++ [endField]) = .ok chain ∧
        HandedOff (cpicFunctionRequestPrefix ++ chain) packet) ∧
      ∃ packet, encodeCpicCutFunctionRequest sampleCutRequest = .ok packet ∧
        ∃ chain, encodeCpicFieldChain CpicTag.contextEnd
            (sampleCutRequest.fields ++ [endField]) = .ok chain ∧
          HandedOff (cpicCutFunctionRequestPrefix ++ chain) packet := by
  have hfirst : (encodeCpicFunctionRequest sampleFunctionRequest).isOk = true := by
    decide +kernel
  have hcut : (encodeCpicCutFunctionRequest sampleCutRequest).isOk = true := by
    decide +kernel
  constructor
  · cases h : encodeCpicFunctionRequest sampleFunctionRequest with
    | error e =>
        rw [h] at hfirst
        exact absurd hfirst nofun
    | ok packet => exact ⟨packet, rfl, requests_handed_off.1 _ packet h⟩
  · cases h : encodeCpicCutFunctionRequest sampleCutRequest with
    | error e =>
        rw [h] at hcut
        exact absurd hcut nofun
    | ok packet => exact ⟨packet, rfl, requests_handed_off.2 _ packet h⟩

end HandOff
end OpenRfc.Cpic
