import Mathlib.Algebra.Group.Int.Defs
import Mathlib.Algebra.Group.Nat.Defs

/-!
The failures of the RFC client core and their policy. The disposition of the physical
connection is resolved from five facts about a failure; call sites cannot weaken it.
-/

namespace OpenRfc.DirectCpic

abbrev Bytes := List UInt8

inductive RfcFailureCategory
  | invalidState
  | invalidParameter
  | conversion
  | serialization
  | unsupported
  | resource
  | communication
  | logon
  | abapRuntime
  | abapException
  | abapMessage
  | canceled
  | timeout
  | malformedProtocol
deriving DecidableEq, Repr

inductive RfcFailureOrigin
  | api
  | codec
  | ni
  | gateway
  | appc
  | cpic
  | sap
  | metadata
  | pool
deriving DecidableEq, Repr

inductive RfcOperationPhase
  | connect
  | gatewaySetup
  | appcSetup
  | logon
  | metadata
  | encode
  | send
  | receive
  | envelopeDecode
  | valueDecode
  | close
  | replacement
deriving DecidableEq, Repr

inductive RfcTransmissionState
  | notStarted
  | partialSend
  | complete
  | unknown
deriving DecidableEq, Repr

/-- Disposition of the physical connection generation which saw the failure. -/
inductive RfcConnectionDisposition
  | reusable
  | close
  | unknownClose
deriving DecidableEq, Repr

/-- Client-level action after the old generation's disposition is applied. -/
inductive RfcRecoveryAction
  | none
  | replace
deriving DecidableEq, Repr

inductive RfcFailureGroup
  | abapApplicationFailure
  | abapRuntimeFailure
  | logonFailure
  | communicationFailure
  | externalRuntimeFailure
deriving DecidableEq, Repr

inductive RfcFailureCode
  | communicationFailure
  | logonFailure
  | abapRuntimeFailure
  | abapMessage
  | abapException
  | canceled
  | timeout
  | memoryInsufficient
  | invalidProtocol
  | serializationFailure
  | notSupported
  | illegalState
  | invalidParameter
  | conversionFailure
deriving DecidableEq, Repr

structure RfcFailurePolicyContext where
  category : RfcFailureCategory
  origin : RfcFailureOrigin
  phase : RfcOperationPhase
  transmission : RfcTransmissionState
  /-- True only after a fully authenticated physical generation exists. -/
  establishedSession : Bool
deriving DecidableEq, Repr

structure CodePolicy where
  group : RfcFailureGroup
  code : RfcFailureCode
  codeString : String
deriving DecidableEq, Repr

/-- `CODE_POLICY` -/
def RfcFailureCategory.codePolicy : RfcFailureCategory → CodePolicy
  | .invalidState => ⟨.externalRuntimeFailure, .illegalState, "RFC_ILLEGAL_STATE"⟩
  | .invalidParameter => ⟨.externalRuntimeFailure, .invalidParameter, "RFC_INVALID_PARAMETER"⟩
  | .conversion => ⟨.externalRuntimeFailure, .conversionFailure, "RFC_CONVERSION_FAILURE"⟩
  | .serialization =>
      ⟨.externalRuntimeFailure, .serializationFailure, "RFC_SERIALIZATION_FAILURE"⟩
  | .unsupported => ⟨.externalRuntimeFailure, .notSupported, "RFC_NOT_SUPPORTED"⟩
  | .resource => ⟨.externalRuntimeFailure, .memoryInsufficient, "RFC_MEMORY_INSUFFICIENT"⟩
  | .communication => ⟨.communicationFailure, .communicationFailure, "RFC_COMMUNICATION_FAILURE"⟩
  | .logon => ⟨.logonFailure, .logonFailure, "RFC_LOGON_FAILURE"⟩
  | .abapRuntime => ⟨.abapRuntimeFailure, .abapRuntimeFailure, "RFC_ABAP_RUNTIME_FAILURE"⟩
  | .abapException => ⟨.abapApplicationFailure, .abapException, "RFC_ABAP_EXCEPTION"⟩
  | .abapMessage => ⟨.abapRuntimeFailure, .abapMessage, "RFC_ABAP_MESSAGE"⟩
  | .canceled => ⟨.communicationFailure, .canceled, "RFC_CANCELED"⟩
  | .timeout => ⟨.communicationFailure, .timeout, "RFC_TIMEOUT"⟩
  | .malformedProtocol => ⟨.externalRuntimeFailure, .invalidProtocol, "RFC_INVALID_PROTOCOL"⟩

/-- `LOCAL_PRE_SEND_PHASES` -/
def RfcOperationPhase.localPreSend : RfcOperationPhase → Bool
  | .metadata | .encode => true
  | _ => false

/-- The origins which make a failure before the send a local one. -/
def RfcFailureOrigin.isLocal : RfcFailureOrigin → Bool
  | .api | .codec | .pool => true
  | _ => false

/-- The switch of `resolveRfcFailurePolicy`. -/
def RfcFailurePolicyContext.disposition (context : RfcFailurePolicyContext) :
    RfcConnectionDisposition :=
  match context.category with
  | .abapException =>
      if context.origin = .sap ∧ context.phase = .envelopeDecode ∧
          context.transmission = .complete ∧ context.establishedSession = true then
        .reusable
      else
        .unknownClose
  | .malformedProtocol => .unknownClose
  | .invalidState | .invalidParameter | .conversion | .serialization | .unsupported
  | .resource =>
      if context.transmission = .notStarted ∧
          (context.origin.isLocal = true ∨ context.phase.localPreSend = true) then
        .reusable
      else
        .unknownClose
  | .communication | .logon | .abapRuntime | .abapMessage | .canceled | .timeout => .close

def replacementFor (establishedSession : Bool) (disposition : RfcConnectionDisposition) :
    RfcRecoveryAction :=
  if establishedSession = true ∧ disposition ≠ .reusable then .replace else .none

structure RfcFailurePolicy extends CodePolicy where
  disposition : RfcConnectionDisposition
  recoveryAction : RfcRecoveryAction
deriving DecidableEq, Repr

def resolveRfcFailurePolicy (context : RfcFailurePolicyContext) : RfcFailurePolicy :=
  { context.category.codePolicy with
    disposition := context.disposition
    recoveryAction := replacementFor context.establishedSession context.disposition }

/-- The facts of a remote error which keys and messages are made of. -/
structure RfcRemoteErrorFacts where
  exceptionKey : String
  plainText : String
  runtimeId : String
  t100Text : String
deriving DecidableEq, Repr

def emptyAbapFacts : RfcRemoteErrorFacts := ⟨"", "", "", ""⟩

/-- The record carries the policy of its own context: it is only built by
`createRfcFailure`. -/
structure RfcFailure extends RfcFailurePolicyContext where
  reasonCode : String
  policy : RfcFailurePolicy
  key : String
  message : String
  abap : RfcRemoteErrorFacts
  resolved : policy = resolveRfcFailurePolicy toRfcFailurePolicyContext
deriving DecidableEq

def RfcFailure.disposition (f : RfcFailure) : RfcConnectionDisposition := f.policy.disposition

structure CreateRfcFailureInput extends RfcFailurePolicyContext where
  reasonCode : String
  key : Option String := none
  message : Option String := none
  abap : RfcRemoteErrorFacts := emptyAbapFacts

def createRfcFailure (input : CreateRfcFailureInput) : RfcFailure where
  toRfcFailurePolicyContext := input.toRfcFailurePolicyContext
  reasonCode := input.reasonCode
  policy := resolveRfcFailurePolicy input.toRfcFailurePolicyContext
  key := input.key.getD (resolveRfcFailurePolicy input.toRfcFailurePolicyContext).codeString
  message := input.message.getD
    (resolveRfcFailurePolicy input.toRfcFailurePolicyContext).codeString
  abap := input.abap
  resolved := rfl

theorem RfcFailure.disposition_eq (f : RfcFailure) :
    f.disposition = f.toRfcFailurePolicyContext.disposition := by
  unfold RfcFailure.disposition
  rw [f.resolved]
  rfl

/-- The outcomes of a decoded envelope, with the facts of the failed ones. -/
inductive RfcOutcome
  | success
  | abapException
  | abapRuntime
  | abapMessage
deriving DecidableEq, Repr

/-- `remoteCategory`; a successful envelope has none. -/
def RfcOutcome.category : RfcOutcome → Option RfcFailureCategory
  | .abapException => some .abapException
  | .abapRuntime => some .abapRuntime
  | .abapMessage => some .abapMessage
  | .success => none

def remoteReasonCode : RfcFailureCategory → String
  | .abapException => "RFC_REMOTE_DECLARED_EXCEPTION"
  | .abapRuntime => "RFC_REMOTE_ABAP_RUNTIME"
  | _ => "RFC_REMOTE_ABAP_MESSAGE"

/-- The first of the strings which is not empty (`||`). -/
def firstNonEmpty : List String → String
  | [] => ""
  | s :: ss => if s = "" then firstNonEmpty ss else s

def remoteKey (category : RfcFailureCategory) (facts : RfcRemoteErrorFacts) : String :=
  match category with
  | .abapException => facts.exceptionKey
  | .abapRuntime =>
      firstNonEmpty [facts.runtimeId, facts.t100Text, facts.plainText,
        "RFC_ABAP_RUNTIME_FAILURE"]
  | _ => firstNonEmpty [facts.t100Text, facts.plainText, "RFC_ABAP_MESSAGE"]

def remoteMessage (category : RfcFailureCategory) (facts : RfcRemoteErrorFacts) : String :=
  firstNonEmpty ([facts.plainText, facts.t100Text] ++
    if category = .abapRuntime then [facts.runtimeId] else [])

/-- `createRemoteRfcFailure`, for the category of a failed outcome. -/
def createRemoteRfcFailure (category : RfcFailureCategory) (facts : RfcRemoteErrorFacts)
    (origin : RfcFailureOrigin) (establishedSession : Bool) : RfcFailure :=
  createRfcFailure
    { category
      origin
      phase := .envelopeDecode
      transmission := .complete
      establishedSession
      reasonCode := remoteReasonCode category
      key := some (remoteKey category facts)
      message := some (remoteMessage category facts)
      abap := facts }

/-- A declared exception leaves the generation reusable only when it reached an
authenticated session from the application server itself. -/
theorem createRemoteRfcFailure_reusable {category : RfcFailureCategory}
    {facts : RfcRemoteErrorFacts} {origin : RfcFailureOrigin} {establishedSession : Bool}
    (hc : category = .abapException ∨ category = .abapRuntime ∨ category = .abapMessage) :
    (createRemoteRfcFailure category facts origin establishedSession).disposition = .reusable ↔
      category = .abapException ∧ origin = .sap ∧ establishedSession = true := by
  rw [RfcFailure.disposition_eq]
  obtain rfl | rfl | rfl := hc
  · simp [createRemoteRfcFailure, createRfcFailure, RfcFailurePolicyContext.disposition]
  · simp [createRemoteRfcFailure, createRfcFailure, RfcFailurePolicyContext.disposition]
  · simp [createRemoteRfcFailure, createRfcFailure, RfcFailurePolicyContext.disposition]

/-!
The client side of the APPC conversation: the records it may send and receive in each state
of the admitted direct-CPIC sequence.
-/

inductive NiTransportErrorCode
  | aborted
  | connectFailed
  | connectTimeout
  | connectionClosed
  | protocolError
  | receiveTimeout
  | writeTimeout
  | writeFailed
deriving DecidableEq, Repr

def NiTransportErrorCode.text : NiTransportErrorCode → String
  | .aborted => "NI_ABORTED"
  | .connectFailed => "NI_CONNECT_FAILED"
  | .connectTimeout => "NI_CONNECT_TIMEOUT"
  | .connectionClosed => "NI_CONNECTION_CLOSED"
  | .protocolError => "NI_PROTOCOL_ERROR"
  | .receiveTimeout => "NI_RECEIVE_TIMEOUT"
  | .writeTimeout => "NI_WRITE_TIMEOUT"
  | .writeFailed => "NI_WRITE_FAILED"

/-- What the code under an exchange throws, as far as the exchange tells it apart. -/
inductive Cause
  /-- `NiTransportError` -/
  | ni (code : NiTransportErrorCode) (message : String)
  /-- `AppcPeerReturnCodeError` -/
  | peerReturnCode (functionName : String) (appcReturnCode sapReturnCode : Nat)
  /-- `AppcNormalDeallocationWithoutDataError` -/
  | normalDeallocationWithoutData
  | error (message : String)
deriving DecidableEq, Repr

def Cause.message : Cause → String
  | .ni _ message | .error message => message
  | .peerReturnCode functionName appcReturnCode sapReturnCode =>
      functionName ++ " failed with APPC return code " ++ toString appcReturnCode ++
        " and SAP return code " ++ toString sapReturnCode
  | .normalDeallocationWithoutData => "connection closed without message (CM_NO_DATA_RECEIVED)"

inductive AppcFunction
  | initialization
  | allocate
  | sendData
  | asyncSendData
  | receive
  | asyncReceive
  | deallocate
  | setTpName
  | setPartnerLuName
  | flush
  | sapSend
  | unknown (functionCode : UInt8)
deriving DecidableEq, Repr

def AppcFunction.ofCode (functionCode : UInt8) : AppcFunction :=
  match functionCode.toNat with
  | 0x01 => .initialization
  | 0x05 => .allocate
  | 0x07 => .sendData
  | 0x08 => .asyncSendData
  | 0x09 => .receive
  | 0x0a => .asyncReceive
  | 0x0b => .deallocate
  | 0x0d => .setTpName
  | 0x0f => .setPartnerLuName
  | 0x1b => .flush
  | 0xcb => .sapSend
  | _ => .unknown functionCode

def AppcFunction.code : AppcFunction → UInt8
  | .initialization => 0x01
  | .allocate => 0x05
  | .sendData => 0x07
  | .asyncSendData => 0x08
  | .receive => 0x09
  | .asyncReceive => 0x0a
  | .deallocate => 0x0b
  | .setTpName => 0x0d
  | .setPartnerLuName => 0x0f
  | .flush => 0x1b
  | .sapSend => 0xcb
  | .unknown functionCode => functionCode

/-- The functions of the records of an outgoing plan. -/
def AppcFunction.isData : AppcFunction → Bool
  | .sapSend | .sendData | .asyncSendData | .receive => true
  | _ => false

/-- `functionName` -/
def AppcFunction.name : AppcFunction → String
  | .initialization => "F_INITIALIZE"
  | .allocate => "F_ALLOCATE"
  | .sendData => "F_SEND_DATA"
  | .asyncSendData => "F_ASEND_DATA"
  | .receive => "F_RECEIVE"
  | .asyncReceive => "F_ARECEIVE"
  | .deallocate => "F_DEALLOCATE"
  | .setTpName => "F_SET_TP_NAME"
  | .setPartnerLuName => "F_SET_PARTNER_LU_NAME"
  | .flush => "F_FLUSH"
  | .sapSend => "F_SAP_SEND"
  | .unknown functionCode => "UNKNOWN_0x" ++
      String.ofList ((Nat.toDigits 16 functionCode.toNat).leftpad 2 '0')

structure AppcHeader where
  functionCode : AppcFunction
  protocol : Nat
  mode : Nat
  uid : Nat
  gatewayId : Nat
  errorLength : Nat
  info2 : Nat
  traceLevel : Nat
  time : Nat
  info3 : Nat
  timeout : Int
  info4 : Nat
  sequenceNumber : Nat
  sapParameterLength : Nat
  padding : Nat
  info : Nat
  vector : Nat
  appcReturnCode : Nat
  sapReturnCode : Nat
  conversationId : Bytes
deriving DecidableEq, Repr

def appcProtocolVersion : UInt8 := 6
def appcCommonHeaderLength : Nat := 48
def appcRecordHeaderLength : Nat := 80
def appcReturnCodeDeallocatedNormal : Nat := 18

def readUIntBE (width : Nat) (data : Bytes) (offset : Nat) : Nat :=
  (data.drop offset).take width |>.foldl (fun n b => n * 256 + b.toNat) 0

def readUInt8 : Bytes → Nat → Nat := readUIntBE 1
def readUInt16BE : Bytes → Nat → Nat := readUIntBE 2
def readUInt32BE : Bytes → Nat → Nat := readUIntBE 4

def readInt32BE (data : Bytes) (offset : Nat) : Int :=
  if readUInt32BE data offset < 2 ^ 31 then
    readUInt32BE data offset
  else
    readUInt32BE data offset - 2 ^ 32

/-- Decode the fixed 48-byte APPC header. -/
def decodeAppcHeader (payload : Bytes) : Except Cause AppcHeader :=
  if payload.length < appcCommonHeaderLength then
    .error (.error ("an APPC common header needs " ++ toString appcCommonHeaderLength ++
      " bytes; received " ++ toString payload.length))
  else
    match payload with
    | protocolVersion :: functionCode :: _ =>
        if protocolVersion = appcProtocolVersion then
          .ok
            { functionCode := .ofCode functionCode
              protocol := readUInt8 payload 2
              mode := readUInt8 payload 3
              uid := readUInt16BE payload 4
              gatewayId := readUInt16BE payload 6
              errorLength := readUInt16BE payload 8
              info2 := readUInt8 payload 10
              traceLevel := readUInt8 payload 11
              time := readUInt32BE payload 12
              info3 := readUInt8 payload 16
              timeout := readInt32BE payload 17
              info4 := readUInt8 payload 21
              sequenceNumber := readUInt32BE payload 22
              sapParameterLength := readUInt16BE payload 26
              padding := readUInt16BE payload 28
              info := readUInt8 payload 30
              vector := readUInt8 payload 31
              appcReturnCode := readUInt32BE payload 32
              sapReturnCode := readUInt32BE payload 36
              conversationId := (payload.drop 40).take 8 }
        else
          .error (.error ("unsupported APPC protocol version 0x" ++
            String.ofList (Nat.toDigits 16 protocolVersion.toNat)))
    | _ => .error (.error "an APPC payload needs at least a version and function byte")

theorem decodeAppcHeader_functionCode {functionCode : AppcFunction} {rest : Bytes}
    {header : AppcHeader} (hf : functionCode.isData = true)
    (h : decodeAppcHeader (appcProtocolVersion :: functionCode.code :: rest) = .ok header) :
    header.functionCode = functionCode := by
  unfold decodeAppcHeader at h
  split at h
  · cases h
  · simp only [if_true] at h
    cases h
    cases functionCode with
    | sapSend | sendData | asyncSendData | receive => rfl
    | _ => cases hf

structure AppcSynchronousSendAcknowledgement where
  header : AppcHeader
  connectionIndex : Nat
deriving DecidableEq, Repr

/-- The header of the empty `F_SEND_DATA` flow-control acknowledgement. -/
def AppcHeader.isAcknowledgement (header : AppcHeader) : Bool :=
  decide (header.functionCode = .sendData ∧ header.appcReturnCode = 0 ∧
    header.sapReturnCode = 0 ∧ header.protocol = 2 ∧ header.mode = 0 ∧ header.uid = 0xffff ∧ header.gatewayId = 0 ∧ header.errorLength = 0 ∧
    header.info2 = 0 ∧ header.traceLevel = 0 ∧ header.time = 0 ∧ header.info3 = 0 ∧
    header.timeout = 0 ∧ header.info4 = 2 ∧ header.sequenceNumber = 0 ∧
    header.info = 1 ∧ header.vector = 0 ∧ header.sapParameterLength = 0 ∧
    header.padding = 0)

/-- The operation information of an acknowledgement starts with the words of a record of no
data. -/
def isEmptyOperationInfo (info : Bytes) : Bool :=
  (info.take 30).all (· = 0) && readUInt16BE info 10 = 0 && readUInt16BE info 28 = 0

def decodeAppcSynchronousSendAcknowledgement (payload : Bytes) :
    Except Cause AppcSynchronousSendAcknowledgement :=
  if payload.length ≠ appcRecordHeaderLength then
    .error (.error ("APPC synchronous-send acknowledgement must contain exactly " ++
      toString appcRecordHeaderLength ++ " bytes; received " ++ toString payload.length))
  else
    match decodeAppcHeader payload with
    | .error cause => .error cause
    | .ok header =>
        if header.isAcknowledgement = false then
          .error (.error "APPC synchronous-send acknowledgement header is not canonical")
        else if isEmptyOperationInfo (payload.drop appcCommonHeaderLength) = false then
          .error (.error ("APPC synchronous-send acknowledgement operation information is " ++
            "not canonical"))
        else
          .ok ⟨header, readUInt16BE (payload.drop appcCommonHeaderLength) 30⟩

inductive AppcClientSetupState
  | new
  | initializePending
  | initialized
  | tpSet
  | partnerSet
  | allocatePending
  | sendContinuation
  | sendBarrierPending
  | responsePending
  | ready
  | closed
deriving DecidableEq, Repr

inductive AppcReceiveDisposition
  | accepted
  | normalDeallocation
deriving DecidableEq, Repr

namespace AppcClientSetupState

def text : AppcClientSetupState → String
  | .new => "new"
  | .initializePending => "initialize-pending"
  | .initialized => "initialized"
  | .tpSet => "tp-set"
  | .partnerSet => "partner-set"
  | .allocatePending => "allocate-pending"
  | .sendContinuation => "send-continuation"
  | .sendBarrierPending => "send-barrier-pending"
  | .responsePending => "response-pending"
  | .ready => "ready"
  | .closed => "closed"

/-- The state which is left, and what is thrown. -/
def responseComplete : AppcClientSetupState → AppcClientSetupState × Except Cause Unit
  | .responsePending => (.ready, .ok ())
  | _ => (.closed, .error (.error "cannot complete an APPC response unless one is pending"))

/-- The `allowed` of `sent`, with the state which the record leads to. -/
def afterSent : AppcClientSetupState → AppcFunction → Option AppcClientSetupState
  | .new, .initialization => some .initializePending
  | .initialized, .setTpName => some .tpSet
  | .initialized, .setPartnerLuName | .tpSet, .setPartnerLuName => some .partnerSet
  | .partnerSet, .allocate => some .allocatePending
  | .ready, .sapSend => some .responsePending
  | .ready, .asyncSendData | .sendContinuation, .asyncSendData => some .sendContinuation
  | .ready, .deallocate => some .closed
  | .sendContinuation, .sendData => some .sendBarrierPending
  | .sendContinuation, .receive => some .responsePending
  | _, _ => none

/-- A refused record leaves the state as it is. -/
def sent (state : AppcClientSetupState) (functionCode : AppcFunction) (isFinalDataRecord : Bool) :
    Except Cause AppcClientSetupState :=
  if functionCode = .sapSend ∧ isFinalDataRecord = false then
    .error (.error "F_SAP_SEND cannot start a streamed outgoing message")
  else if functionCode = .asyncSendData ∧ isFinalDataRecord = true then
    .error (.error "F_ASEND_DATA must be followed by F_RECEIVE")
  else if functionCode = .sendData ∧ isFinalDataRecord = true then
    .error (.error "streaming F_SEND_DATA must be followed by its acknowledgement")
  else if functionCode = .receive ∧ state = .sendContinuation ∧ isFinalDataRecord = false then
    .error (.error "the streamed outgoing F_RECEIVE terminator must be final")
  else
    match state.afterSent functionCode with
    | some next => .ok next
    | none => .error (.error ("cannot send " ++ functionCode.name ++ " while APPC client is " ++
        state.text))

/-- The `allowed` of `received`, with the state which the record leads to. -/
def afterReceived : AppcClientSetupState → AppcFunction → Option AppcClientSetupState
  | .initializePending, .initialization => some .initialized
  | .allocatePending, .allocate => some .ready
  | .sendBarrierPending, .sendData => some .sendContinuation
  | .responsePending, .sapSend | .responsePending, .receive => some .responsePending
  | _, _ => none

theorem afterReceived_ne_closed {state next : AppcClientSetupState}
    {functionCode : AppcFunction} (h : state.afterReceived functionCode = some next) :
    next ≠ .closed := by
  unfold afterReceived at h
  split at h
  all_goals cases h
  all_goals exact nofun

/-- Whatever `received` throws, it throws in the state `closed`. -/
def received (state : AppcClientSetupState) (payload : Bytes) :
    AppcClientSetupState × Except Cause AppcReceiveDisposition :=
  if payload.length < appcRecordHeaderLength then
    (.closed, .error (.error ("an APPC reply needs " ++ toString appcRecordHeaderLength ++
      " bytes; received " ++ toString payload.length)))
  else
    match decodeAppcHeader payload with
    | .error cause => (.closed, .error cause)
    | .ok header =>
        if header.appcReturnCode = appcReturnCodeDeallocatedNormal ∧ header.sapReturnCode = 0 ∧
            state = .responsePending ∧
            (header.functionCode = .sapSend ∨ header.functionCode = .receive) then
          (.closed, .ok .normalDeallocation)
        else if header.appcReturnCode ≠ 0 ∨ header.sapReturnCode ≠ 0 then
          (.closed, .error (.peerReturnCode header.functionCode.name header.appcReturnCode
            header.sapReturnCode))
        else
          match state.afterReceived header.functionCode with
          | some next => (next, .ok .accepted)
          | none => (.closed, .error (.error ("cannot receive " ++ header.functionCode.name ++
              " while APPC client is " ++ state.text)))

theorem responseComplete_ok {state : AppcClientSetupState}
    (h : state.responseComplete.2 = .ok ()) :
    state = .responsePending ∧ state.responseComplete.1 = .ready := by
  cases state with
  | responsePending => exact ⟨rfl, rfl⟩
  | _ => cases h

/-- A record is accepted in the state it belongs to. -/
theorem sent_ok {state next : AppcClientSetupState} {functionCode : AppcFunction}
    {isFinalDataRecord : Bool} (h : state.sent functionCode isFinalDataRecord = .ok next) :
    state.afterSent functionCode = some next := by
  unfold sent at h
  split at h
  · cases h
  · split at h
    · cases h
    · split at h
      · cases h
      · split at h
        · cases h
        · split at h
          · cases h
            assumption
          · cases h

/-- A data record leaves the conversation open, and one which waits for an acknowledgement at
its barrier. -/
theorem sent_isData {state next : AppcClientSetupState} {functionCode : AppcFunction}
    {isFinalDataRecord : Bool} (hf : functionCode.isData = true)
    (h : state.sent functionCode isFinalDataRecord = .ok next) :
    next ≠ .closed ∧ (functionCode = .sendData → next = .sendBarrierPending) := by
  have h := sent_ok h
  cases functionCode with
  | sapSend | sendData | asyncSendData | receive =>
      cases state <;> cases h <;> simp
  | _ => cases hf

/-- A received record either is accepted, or ends the conversation. -/
theorem received_cases (state : AppcClientSetupState) (payload : Bytes) :
    (∃ cause, state.received payload = (.closed, .error cause)) ∨
      (state = .responsePending ∧
        state.received payload = (.closed, .ok .normalDeallocation)) ∨
      ∃ functionCode next, state.afterReceived functionCode = some next ∧
        state.received payload = (next, .ok .accepted) := by
  unfold received
  split
  · exact .inl ⟨_, rfl⟩
  · cases decodeAppcHeader payload with
    | error cause => exact .inl ⟨_, rfl⟩
    | ok header =>
        dsimp only
        split
        · rename_i h
          exact .inr (.inl ⟨h.2.2.1, rfl⟩)
        · split
          · exact .inl ⟨_, rfl⟩
          · split
            · exact .inr (.inr ⟨_, _, ‹_›, rfl⟩)
            · exact .inl ⟨_, rfl⟩

/-- What the decoder of acknowledgements lets through is accepted at a barrier. -/
theorem received_acknowledgement {payload : Bytes}
    {acknowledgement : AppcSynchronousSendAcknowledgement}
    (h : decodeAppcSynchronousSendAcknowledgement payload = .ok acknowledgement) :
    sendBarrierPending.received payload = (.sendContinuation, .ok .accepted) := by
  unfold decodeAppcSynchronousSendAcknowledgement at h
  split at h
  · cases h
  · rename_i hlength
    cases hd : decodeAppcHeader payload with
    | error cause =>
        rw [hd] at h
        cases h
    | ok header =>
        simp only [hd] at h
        split at h
        · cases h
        · rename_i hack
          have hack : header.isAcknowledgement = true := by simpa using hack
          simp only [AppcHeader.isAcknowledgement, decide_eq_true_eq] at hack
          obtain ⟨hfunction, hcode, hsap, -⟩ := hack
          have hlong : ¬ payload.length < appcRecordHeaderLength := by omega
          simp only [received, if_neg hlong, hd, hcode, hsap, hfunction]
          rfl

end AppcClientSetupState

end OpenRfc.DirectCpic
