import OpenRfc.DirectCpic.Runtime
import OpenRfc.Wire.CheckedBytes

/-!
The plan of an outgoing message: one `F_SAP_SEND` record for a compact packet, and slices with
a synchronous barrier behind every twenty-one asynchronous ones for a streamed packet. Every
step of a plan is checked again where its record is encoded.
-/

namespace OpenRfc.Appc
open DirectCpic (AppcFunction AppcClientSetupState Cause OutgoingFragmentSemantics
  appcProtocolVersion appcRecordHeaderLength decodeAppcHeader maxAppcOutgoingMessageLength
  outgoingFragmentSemantics)
open Fallible Wire

def appcFinalSapParameterLength : Nat := 8
def maxAppcApplicationDataFragmentLength : Nat := 28000
def defaultMaxAppcOutgoingMessageLength : Nat := 1400000
def defaultMaxAppcOutgoingFragments : Nat := 65536

/-- The optional fields of a record header. -/
structure AppcRecordHeaderInput where
  protocol : Option Int := none
  mode : Option Int := none
  uid : Option Int := none
  gatewayId : Option Int := none
  errorLength : Option Int := none
  info2 : Option Int := none
  traceLevel : Option Int := none
  time : Option Int := none
  info3 : Option Int := none
  timeout : Option Int := none
  info4 : Option Int := none
  sequenceNumber : Option Int := none
  padding : Option Int := none
  info : Option Int := none
  vector : Option Int := none
  appcReturnCode : Option Int := none
  sapReturnCode : Option Int := none
  conversationId : Option Bytes := none
deriving DecidableEq, Repr

structure AppcOutgoingDataPlanInput extends AppcRecordHeaderInput where
  applicationData : Bytes
  /-- Present only for compact packets. -/
  finalSapParameters : Option Bytes := none
  communicationIndex : Int
  connectionIndex : Int
deriving DecidableEq, Repr

inductive AppcCpicStreamingPolicy
  | disabled
  | enabled
deriving DecidableEq, Repr

structure AppcOutgoingDataPlannerOptions where
  maxApplicationDataLength : Int := defaultMaxAppcOutgoingMessageLength
  maxFragments : Int := defaultMaxAppcOutgoingFragments
  cpicStreaming : AppcCpicStreamingPolicy := .disabled
deriving DecidableEq, Repr

/-- One step of a plan. -/
structure AppcOutgoingDataFragment extends AppcRecordHeaderInput where
  functionCode : AppcFunction
  isFinal : Bool
  sapParameterLength : Nat
  fragmentIndex : Nat
  fragmentCount : Nat
  applicationData : Bytes
  finalSapParameters : Bytes
  messageApplicationDataLength : Nat
  communicationIndex : Int
  connectionIndex : Int
deriving DecidableEq, Repr

section Records

structure AppcExtendedInfo where
  shortDestinationName : String := ""
  logicalUnitName : String := ""
  transactionProgramName : String := ""
  connectionType : Int := 0
  clientInfo : Int := 0
  communicationIndex : Int := 0
  connectionIndex : Int := 0
deriving DecidableEq, Repr

def isPrintableAscii (c : Char) : Bool := 0x20 ≤ c.toNat && c.toNat ≤ 0x7e

def encodeFixedAscii (value field : String) : Except String Bytes := do
  require ((value.toList.all isPrintableAscii = true) ∧ value.toList.length ≤ 8)
    s!"{field} must contain at most 8 ASCII bytes"
  let encoded := value.toList.map fun c => UInt8.ofNat c.toNat
  .ok (encoded ++ List.replicate (8 - encoded.length) (if value.toList = [] then 0 else 0x20))

def encodeAppcExtendedInfo (info : AppcExtendedInfo) : Except String Bytes := do
  let shortDestinationName ← encodeFixedAscii info.shortDestinationName "shortDestinationName"
  let logicalUnitName ← encodeFixedAscii info.logicalUnitName "logicalUnitName"
  let transactionProgramName ←
    encodeFixedAscii info.transactionProgramName "transactionProgramName"
  encodeRecord 32 "APPC extended info"
    [.bytes shortDestinationName "shortDestinationName",
      .bytes logicalUnitName "logicalUnitName",
      .bytes transactionProgramName "transactionProgramName",
      .uint 1 info.connectionType "connectionType",
      .uint 1 info.clientInfo "clientInfo",
      .uint 2 0 "reserved",
      .uint 2 info.communicationIndex "communicationIndex",
      .uint 2 info.connectionIndex "connectionIndex"]

def encodeAppcAsyncDataInfo (dataLength : Nat) (communicationIndex connectionIndex : Int) :
    Except String Bytes := do
  require (1 ≤ dataLength ∧ dataLength ≤ maxAppcApplicationDataFragmentLength)
    s!"async APPC data length must be an integer in 1..{maxAppcApplicationDataFragmentLength}"
  encodeRecord 32 "APPC async-send info"
    [.uint 2 0 "reserved",
      .uint 2 dataLength "dataLength",
      .bytes (Bytes.alloc 24) "reserved2",
      .uint 2 communicationIndex "communicationIndex",
      .uint 2 connectionIndex "connectionIndex"]

def outgoingOperationInfo (functionCode : AppcFunction) (dataLength : Nat)
    (communicationIndex connectionIndex : Int) : Except String Bytes :=
  if functionCode = .asyncSendData ∨ functionCode = .sendData then
    encodeAppcAsyncDataInfo dataLength communicationIndex connectionIndex
  else encodeAppcExtendedInfo { communicationIndex, connectionIndex }

/-- The fields of a record header behind the version, with their defaults. -/
def AppcRecordHeaderInput.fields (input : AppcRecordHeaderInput) (functionCode : AppcFunction)
    (sapParameterLength : Nat) : List Field :=
  [.uint 1 functionCode.code.toNat "functionCode",
    .uint 1 (input.protocol.getD 2) "protocol",
    .uint 1 (input.mode.getD 0) "mode",
    .uint 2 (input.uid.getD 0xffff) "uid",
    .uint 2 (input.gatewayId.getD 0) "gatewayId",
    .uint 2 (input.errorLength.getD 0) "errorLength",
    .uint 1 (input.info2.getD 0) "info2",
    .uint 1 (input.traceLevel.getD 0) "traceLevel",
    .uint 4 (input.time.getD 0) "time",
    .uint 1 (input.info3.getD 0) "info3",
    .int32 (input.timeout.getD 0) "timeout",
    .uint 1 (input.info4.getD 0) "info4",
    .uint 4 (input.sequenceNumber.getD 0) "sequenceNumber",
    .uint 2 sapParameterLength "sapParameterLength",
    .uint 2 (input.padding.getD 0) "padding",
    .uint 1 (input.info.getD 0) "info",
    .uint 1 (input.vector.getD 0) "vector",
    .uint 4 (input.appcReturnCode.getD 0) "appcReturnCode",
    .uint 4 (input.sapReturnCode.getD 0) "sapReturnCode"]

def encodeAppcRecord (functionCode : AppcFunction) (input : AppcRecordHeaderInput)
    (operationInfo : Bytes) (sapParameterLength : Nat) (trailingData : List Bytes)
    (context : String) : Except String Bytes := do
  let conversationId := input.conversationId.getD (Bytes.alloc 8)
  require (conversationId.length = 8)
    s!"conversationId must contain exactly 8 bytes; received {conversationId.length}"
  require (operationInfo.length = 32)
    s!"operationInfo must contain exactly 32 bytes; received {operationInfo.length}"
  require (sapParameterLength ≤ 0xffff) "sapParameterLength must be an integer in 0..65535"
  encodeRecord (appcRecordHeaderLength + trailingData.flatten.length) context
    (.uint 1 appcProtocolVersion.toNat "protocolVersion" ::
      input.fields functionCode sapParameterLength ++
      .bytes conversationId "conversationId" :: .bytes operationInfo "operationInfo" ::
      trailingData.map fun part => .bytes part "trailingData")

end Records

section Planning

def validateFinalSapParameters (parameters : Bytes) (applicationDataLength : Nat) :
    Except String Unit := do
  require (parameters.length = appcFinalSapParameterLength)
    s!"finalSapParameters must contain exactly 8 bytes; received {parameters.length}"
  require (DirectCpic.readUInt16BE parameters 0 = 0)
    "finalSapParameters reserved field must be zero"
  require (DirectCpic.readUInt16BE parameters 2 = applicationDataLength)
    s!"finalSapParameters declare {DirectCpic.readUInt16BE parameters 2} application bytes; received {applicationDataLength}"

variable (input : AppcOutgoingDataPlanInput) (options : AppcOutgoingDataPlannerOptions)

/-- The checks of the options and of the lengths. -/
def checkPlanInput : Except String Unit := do
  let messageApplicationDataLength := input.applicationData.length
  require (0 ≤ options.maxApplicationDataLength ∧
      options.maxApplicationDataLength ≤ maxAppcOutgoingMessageLength)
    s!"maxApplicationDataLength must be an integer in 0..{maxAppcOutgoingMessageLength}"
  require (1 ≤ options.maxFragments) "maxFragments must be a positive safe integer"
  require ((messageApplicationDataLength : Int) ≤ options.maxApplicationDataLength)
    s!"CPIC application data length {messageApplicationDataLength} exceeds configured limit {options.maxApplicationDataLength}"
  match input.finalSapParameters with
  | some finalSapParameters => do
    validateFinalSapParameters finalSapParameters messageApplicationDataLength
    require (messageApplicationDataLength ≤ maxAppcApplicationDataFragmentLength)
      "compact CPIC application data cannot exceed 28000 bytes"
  | none =>
    require (maxAppcApplicationDataFragmentLength < messageApplicationDataLength)
      "a streamed CPIC packet without final SAP parameters must exceed 28000 bytes"

/-- A packet with final SAP parameters has passed the length check of a compact one. -/
def useSingleRecord : Bool := input.finalSapParameters.isSome

def dataFragmentCount : Nat :=
  if useSingleRecord input then 1
  else
    (input.applicationData.length + (maxAppcApplicationDataFragmentLength - 1)) /
      maxAppcApplicationDataFragmentLength

def fragmentCount : Nat :=
  if useSingleRecord input then 1 else dataFragmentCount input + 1

/-- The record which is encoded once before a plan is returned. -/
def probeRecord : Except String Bytes := do
  let functionCode : AppcFunction := if useSingleRecord input then .sapSend else .asyncSendData
  let operationInfo ← outgoingOperationInfo functionCode
    (if useSingleRecord input then
      input.applicationData.length + (input.finalSapParameters.getD []).length
    else min input.applicationData.length maxAppcApplicationDataFragmentLength)
    input.communicationIndex input.connectionIndex
  encodeAppcRecord functionCode input.toAppcRecordHeaderInput operationInfo
    (if useSingleRecord input then appcFinalSapParameterLength else 0) [[]]
    "outgoing APPC plan"

def plannedFragment (fragmentIndex : Nat) : AppcOutgoingDataFragment :=
  let semantics := outgoingFragmentSemantics fragmentIndex (fragmentCount input)
  let start := fragmentIndex * maxAppcApplicationDataFragmentLength
  let stop := if semantics.functionCode = .receive then start
    else min input.applicationData.length (start + maxAppcApplicationDataFragmentLength)
  { input.toAppcRecordHeaderInput with
    functionCode := semantics.functionCode
    isFinal := semantics.isFinal
    info := some semantics.info
    vector := some semantics.vector
    sapParameterLength := semantics.sapParameterLength
    fragmentIndex
    fragmentCount := fragmentCount input
    conversationId := some (input.conversationId.getD (Bytes.alloc 8))
    sequenceNumber := some (input.sequenceNumber.getD 0)
    applicationData := (input.applicationData.take stop).drop start
    finalSapParameters := if useSingleRecord input then input.finalSapParameters.getD [] else []
    messageApplicationDataLength := input.applicationData.length
    communicationIndex := input.communicationIndex
    connectionIndex := input.connectionIndex }

def planOutgoingAppcDataFragments : Except String (List AppcOutgoingDataFragment) := do
  checkPlanInput input options
  require (useSingleRecord input = true ∨ options.cpicStreaming = .enabled)
    "CPIC streaming is disabled; enable this destination before sending more than 28000 application bytes"
  require ((fragmentCount input : Int) ≤ options.maxFragments)
    s!"APPC fragment count {fragmentCount input} exceeds configured limit {options.maxFragments}"
  let conversationId := input.conversationId.getD (Bytes.alloc 8)
  require (conversationId.length = 8)
    s!"conversationId must contain exactly 8 bytes; received {conversationId.length}"
  let _ ← probeRecord input
  .ok ((List.range (fragmentCount input)).map (plannedFragment input))

end Planning

section Encoding
variable (fragment : AppcOutgoingDataFragment)

def invalidOutgoingFragment (reason : String) : String :=
  "invalid outgoing APPC fragment: " ++ reason

/-- The checks of `snapshotOutgoingAppcDataFragment`. -/
def checkSnapshot : Except String Unit := do
  require ((fragment.conversationId.getD []).length = 8)
    (invalidOutgoingFragment "conversationId must contain exactly 8 bytes")
  require (fragment.applicationData.length ≤ maxAppcApplicationDataFragmentLength)
    (invalidOutgoingFragment "applicationData exceeds the 28000-byte slice bound")
  require (fragment.finalSapParameters.length ≤ appcFinalSapParameterLength)
    (invalidOutgoingFragment "finalSapParameters exceeds 8 bytes")

/-- What the place of a fragment in its plan demands of its data. -/
def checkFragmentData : Except String Unit :=
  if fragment.fragmentCount = 1 then do
    require (fragment.applicationData.length ≤ maxAppcApplicationDataFragmentLength)
      (invalidOutgoingFragment "compact F_SAP_SEND data length is invalid")
    (validateFinalSapParameters fragment.finalSapParameters
      fragment.messageApplicationDataLength).mapError invalidOutgoingFragment
  else if fragment.functionCode = .asyncSendData ∨ fragment.functionCode = .sendData then do
    require (1 ≤ fragment.applicationData.length ∧
        fragment.applicationData.length ≤ maxAppcApplicationDataFragmentLength)
      (invalidOutgoingFragment (fragment.functionCode.name ++ " slice length is invalid"))
    require (fragment.finalSapParameters.length = 0)
      (invalidOutgoingFragment (fragment.functionCode.name ++ " cannot carry SAP parameters"))
  else
    require (fragment.applicationData.length = 0 ∧ fragment.finalSapParameters.length = 0)
      (invalidOutgoingFragment "the async F_RECEIVE terminator must be empty")

/-- What the place of a fragment in its plan demands of its record. -/
def checkSemantics : Except String Unit :=
  let expected := outgoingFragmentSemantics fragment.fragmentIndex fragment.fragmentCount
  require (fragment.functionCode = expected.functionCode ∧
      fragment.isFinal = expected.isFinal ∧ fragment.info = some (expected.info : Int) ∧
      fragment.vector = some (expected.vector : Int) ∧
      fragment.sapParameterLength = expected.sapParameterLength)
    (invalidOutgoingFragment
      "function, final marker, info, vector, or parameter length is inconsistent")

def checkFragment : Except String Unit := do
  checkSnapshot fragment
  require (1 ≤ fragment.fragmentCount)
    (invalidOutgoingFragment "fragmentCount must be a positive safe integer")
  require (fragment.fragmentIndex < fragment.fragmentCount)
    (invalidOutgoingFragment "fragmentIndex must identify a fragment in the plan")
  require (fragment.messageApplicationDataLength ≤ maxAppcOutgoingMessageLength)
    (invalidOutgoingFragment "messageApplicationDataLength is outside the proven range")
  checkSemantics fragment
  checkFragmentData fragment

/-- The terminator of a streamed message announces a whole slice. -/
def fragmentOperationInfo : Except String Bytes :=
  if fragment.functionCode = .receive ∧ 1 < fragment.fragmentCount then
    encodeAppcAsyncDataInfo maxAppcApplicationDataFragmentLength fragment.communicationIndex
      fragment.connectionIndex
  else
    outgoingOperationInfo fragment.functionCode fragment.applicationData.length
      fragment.communicationIndex fragment.connectionIndex

def encodeOutgoingAppcDataFragment : Except String Bytes := do
  checkFragment fragment
  let operationInfo ← fragmentOperationInfo fragment
  encodeAppcRecord fragment.functionCode fragment.toAppcRecordHeaderInput operationInfo
    fragment.sapParameterLength [fragment.applicationData, fragment.finalSapParameters]
    "outgoing APPC data fragment"

end Encoding
end OpenRfc.Appc
