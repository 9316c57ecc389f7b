import OpenRfc.DirectCpic.Programs

/-!
The direct-CPIC session: one allocated conversation over an NI transport. An exchange hands
the records of a plan to the transport, waits for the acknowledgements between them, and
reads frames until they make up a message; the operations await exchanges and decoders.
-/

namespace OpenRfc.DirectCpic

/-- The state of `NiSocketTransport` which a session can see. -/
structure NiSocketTransport where
  isOpen : Bool
  frames : List Bytes
  terminalError : Option Cause
  /-- The operation whose `receive` is pending. -/
  pendingReceive : Option Nat
deriving DecidableEq, Repr

/-- A step of a plan as the writer has prepared it. -/
structure OutgoingStep where
  record : Bytes
  functionCode : AppcFunction
  isFinal : Bool
  conversationId : Bytes
  barrierConnectionIndex : Option Nat
deriving DecidableEq, Repr

/-- What an exchange awaits. `none` is a promise which has not settled. -/
inductive ExchangeStage
  | sending (index : Nat) (step : OutgoingStep) (rest : List OutgoingStep)
      (outcome : Option (Except Cause Unit))
  | acknowledging (index : Nat) (step : OutgoingStep) (rest : List OutgoingStep)
      (outcome : Option (Except Cause Bytes))
  /-- The writer closes the transport before it throws. -/
  | writerClosing (index : Nat) (cause : Cause)
  | receiving (outcome : Option (Except Cause Bytes))
  /-- A message came with the deallocation: the generation is terminated. -/
  | deallocating (message : AppcMessage)
  /-- The catch: the generation is terminated. -/
  | failing (failure : RfcFailure)

/-- The exchange waits for a `receive` which has not settled. -/
def ExchangeStage.isPending : ExchangeStage → Bool
  | .acknowledging _ _ _ none | .receiving none => true
  | _ => false

/-- The writer is at work. -/
def ExchangeStage.isWriting : ExchangeStage → Bool
  | .sending .. | .acknowledging .. => true
  | _ => false

/-- The catch has been entered. -/
def ExchangeStage.isFailing : ExchangeStage → Bool
  | .failing _ => true
  | _ => false

structure Exchange where
  id : Nat
  allowCallbacks : Bool
  outgoingPlan : List AppcOutgoingDataFragment
  phase : RfcOperationPhase
  transmission : RfcTransmissionState
  callbackCount : Nat
  /-- The payloads which were pushed into the decoder. -/
  payloads : List Bytes
  stage : ExchangeStage

/-- A reply to a streamed request may start with `F_RECEIVE`. -/
def Exchange.allowInitialReceive (x : Exchange) : Bool :=
  x.outgoingPlan.head?.any fun fragment => fragment.functionCode = .asyncSendData

inductive Stage (Fields Value : Type) where
  | exchanging (x : Exchange) (next : Except Thrown Bytes → Program Fields Value)
  /-- A promise has settled: the continuation is queued. -/
  | awaiting (program : Program Fields Value)
  /-- A decoder terminates the generation before it throws. -/
  | terminating (failure : RfcFailure) (program : Program Fields Value)
  | resolved (value : Value)
  | rejected (e : Thrown)

structure Operation (Fields Value : Type) where
  call : Call Fields Value
  /-- The last reply an exchange of the operation has returned: whether the conversation
  ended with it. -/
  reply : Option Bool
  stage : Stage Fields Value

inductive SessionState
  | allocated
  | authenticated
  | closed
deriving DecidableEq, Repr

/-- What can be seen of the session when an error is thrown. -/
structure Snapshot where
  closed : Bool
  setup : AppcClientSetupState
  busy : Bool
  /-- The exchanges begun so far. -/
  exchanges : Nat
  /-- The frames which are queued. -/
  frames : List Bytes
deriving DecidableEq, Repr

/-- What can be seen of a run. -/
inductive Observation
  | arrived (frame : Bytes)
  /-- An exchange takes the session. -/
  | began (x : Nat) (i : Nat)
  /-- The records of the plan which the exchange is going to send. -/
  | planned (x : Nat) (records : List Bytes)
  /-- A record is handed to the transport, which is open or refuses it. -/
  | sent (x : Nat) (record : Bytes) (isOpen : Bool)
  /-- A `receive` of the exchange has returned. -/
  | received (x : Nat) (frame : Bytes)
  | returned (x : Nat) (payloads : List Bytes) (message : Bytes) (ended : Bool)
  /-- The catch of the exchange. -/
  | failed (x : Nat)
  | terminated
  | closing
  | deallocateSent
  | threw (i : Nat) (failure : RfcFailure) (reply : Option Bool) (at_ : Snapshot)
  /-- A response was decoded as a success. -/
  | answered (i : Nat) (kind : ResponseKind)
  | loggedOn (i : Nat) (closed : Bool)
  /-- `undecoded`: the call is `exchange`, which hands out the bytes of its reply. -/
  | resolved (i : Nat) (undecoded : Bool) (reply : Option Bool) (state : SessionState)
  | rejected (i : Nat) (e : Thrown)
deriving DecidableEq

structure DirectCpicSession (Fields Value : Type) where
  transport : NiSocketTransport
  setup : AppcClientSetupState
  busy : Bool
  /-- The operation which holds the symbol. -/
  compoundOperationOwner : Option Nat
  closed : Bool
  authenticated : Bool
  cpicSessionId : Option Bytes
  /-- `#metadata` and `#structures` -/
  descriptors : CacheKey → Option Value
  /-- `close()` awaits the send of its deallocation. -/
  deallocating : Bool
  exchanges : Nat
  operations : List (Operation Fields Value)
  trace : List Observation

namespace NiSocketTransport

def initial : NiSocketTransport := ⟨true, [], none, none⟩

/-- The error of a call on a transport which is not open. -/
def refusal (t : NiSocketTransport) (message : String) : Cause :=
  t.terminalError.getD (.ni .connectionClosed message)

def close (t : NiSocketTransport) : NiSocketTransport :=
  { t with isOpen := false, frames := [], pendingReceive := none }

/-- `#fail` -/
def fail (t : NiSocketTransport) (cause : Cause) : NiSocketTransport :=
  if t.isOpen then
    { t.close with terminalError := some (t.terminalError.getD cause) }
  else
    t

/-- What a send settles with at once. -/
def send (t : NiSocketTransport) : Option (Except Cause Unit) :=
  if t.isOpen then none else some (.error (t.refusal "cannot write to a closed NI socket"))

def receive (t : NiSocketTransport) (i : Nat) :
    NiSocketTransport × Option (Except Cause Bytes) :=
  if t.isOpen then
    match t.frames with
    | frame :: frames => ({ t with frames }, some (.ok frame))
    | [] =>
        match t.pendingReceive with
        | some _ =>
            (t, some (.error (.error "only one NI receive may be pending on a connection")))
        | none => ({ t with pendingReceive := some i }, none)
  else
    (t, some (.error (t.refusal "cannot read from a closed NI socket")))

/-- A frame which is still buffered at a request boundary fails the transport. -/
def assertNoQueuedFrames (t : NiSocketTransport) : Except Cause Unit :=
  if t.isOpen then
    match t.frames with
    | [] => .ok ()
    | _ :: _ => .error (.ni .protocolError "unexpected queued NI frame at a request boundary")
  else
    .error (t.refusal "cannot inspect a closed NI socket")

end NiSocketTransport

/-- The settlement of a pending `receive`. -/
def ExchangeStage.settleReceive (outcome : Except Cause Bytes) : ExchangeStage → ExchangeStage
  | .acknowledging index step rest none => .acknowledging index step rest (some outcome)
  | .receiving none => .receiving (some outcome)
  | stage => stage

def Stage.settleReceive {Fields Value : Type} (outcome : Except Cause Bytes) :
    Stage Fields Value → Stage Fields Value
  | .exchanging x next => .exchanging { x with stage := x.stage.settleReceive outcome } next
  | stage => stage

/-- `DEFAULT_MAX_APPC_MESSAGE_FRAGMENTS` -/
def defaultMaxAppcMessageFragments : Nat := 65536

/-- `DEFAULT_MAX_RFC_CALLBACKS_PER_CALL` -/
def defaultMaxRfcCallbacksPerCall : Nat := 64

def maxSafeInteger : Nat := 9007199254740991

/-- The loop of `validateOutgoingPlanOrder`, with the length so far. -/
def validateOutgoingPlanOrderFrom (first : AppcOutgoingDataFragment) (count : Nat) :
    Nat → Nat → List AppcOutgoingDataFragment → Except Cause Unit
  | _, applicationDataLength, [] =>
      if applicationDataLength = first.messageApplicationDataLength then
        .ok ()
      else
        .error (.error "outgoing APPC plan application length is inconsistent")
  | index, applicationDataLength, fragment :: fragments =>
      if fragment.fragmentIndex ≠ index ∨ fragment.fragmentCount ≠ count then
        .error (.error "outgoing APPC plan fragment order is inconsistent")
      else if fragment.sequenceNumber ≠ first.sequenceNumber ∨
          fragment.communicationIndex ≠ first.communicationIndex ∨
          fragment.connectionIndex ≠ first.connectionIndex ∨
          fragment.messageApplicationDataLength ≠ first.messageApplicationDataLength ∨
          fragment.conversationId ≠ first.conversationId then
        .error (.error "outgoing APPC plan identity changed between fragments")
      else if maxSafeInteger < applicationDataLength + fragment.applicationData.length then
        .error (.error "outgoing APPC plan application length is unsafe")
      else
        validateOutgoingPlanOrderFrom first count (index + 1)
          (applicationDataLength + fragment.applicationData.length) fragments

def validateOutgoingPlanOrder : List AppcOutgoingDataFragment → Except Cause Unit
  | [] => .error (.error "outgoing APPC plan must contain at least one fragment")
  | first :: fragments =>
      if defaultMaxAppcMessageFragments < (first :: fragments).length then
        .error (.error ("outgoing APPC plan fragment count " ++
          toString (first :: fragments).length ++ " exceeds limit " ++
          toString defaultMaxAppcMessageFragments))
      else
        validateOutgoingPlanOrderFrom first (first :: fragments).length 0 0 (first :: fragments)

def maxAppcAsyncSendsBeforeSync : Nat := 21

/-- The records of a plan: data, a barrier after each 21 of them, and the terminator. -/
def outgoingFragmentSemantics (fragmentIndex fragmentCount : Nat) : OutgoingFragmentSemantics :=
  if fragmentCount = 1 then
    ⟨.sapSend, true, 5, 0x0c, 8⟩
  else if fragmentIndex = fragmentCount - 1 then
    ⟨.receive, true, 1, 0, 0⟩
  else if maxAppcAsyncSendsBeforeSync ≤ fragmentIndex ∧
      (fragmentIndex - maxAppcAsyncSendsBeforeSync) % maxAppcAsyncSendsBeforeSync = 0 then
    ⟨.sendData, false, 1, 0, 0⟩
  else
    ⟨.asyncSendData, false, 0, 0, 0⟩

theorem outgoingFragmentSemantics_isData (fragmentIndex fragmentCount : Nat) :
    (outgoingFragmentSemantics fragmentIndex fragmentCount).functionCode.isData = true := by
  unfold outgoingFragmentSemantics
  split
  · rfl
  · split
    · rfl
    · split
      · rfl
      · rfl

/-- What a failing map returns comes from the elements. -/
theorem exists_of_mem_mapM {α β ε : Type} {f : α → Except ε β} {xs : List α} {ys : List β}
    (h : xs.mapM f = .ok ys) {y : β} (hy : y ∈ ys) : ∃ x ∈ xs, f x = .ok y := by
  induction xs generalizing ys with
  | nil =>
      cases h
      cases hy
  | cons x xs ih =>
      rw [List.mapM_cons] at h
      cases hx : f x with
      | error e =>
          rw [hx] at h
          cases h
      | ok z =>
          cases hxs : xs.mapM f with
          | error e =>
              rw [hx, hxs] at h
              cases h
          | ok zs =>
              rw [hx, hxs] at h
              cases h
              obtain rfl | hy := List.mem_cons.mp hy
              · exact ⟨x, List.mem_cons_self, hx⟩
              · obtain ⟨w, hw, hwy⟩ := ih hxs hy
                exact ⟨w, List.mem_cons_of_mem x hw, hwy⟩

def maxAppcOutgoingMessageLength : Nat := 0x7fffffff

def invalidOutgoingFragment {α : Type} (reason : String) : Except Cause α :=
  .error (.error ("invalid outgoing APPC fragment: " ++ reason))

namespace Codec
variable {Fields Value : Type} (codec : Codec Fields Value)

def encodeOutgoingAppcDataFragment (input : AppcOutgoingDataFragment) : Except Cause Bytes :=
  match codec.snapshotOutgoingAppcDataFragment input with
  | .error cause => .error cause
  | .ok fragment =>
      if fragment.fragmentCount < 1 then
        invalidOutgoingFragment "fragmentCount must be a positive safe integer"
      else if fragment.fragmentCount ≤ fragment.fragmentIndex then
        invalidOutgoingFragment "fragmentIndex must identify a fragment in the plan"
      else if maxAppcOutgoingMessageLength < fragment.messageApplicationDataLength then
        invalidOutgoingFragment "messageApplicationDataLength is outside the proven range"
      else if fragment.toOutgoingFragmentSemantics ≠
          outgoingFragmentSemantics fragment.fragmentIndex fragment.fragmentCount then
        invalidOutgoingFragment
          "function, final marker, info, vector, or parameter length is inconsistent"
      else
        match codec.encodeAppcRecord fragment with
        | .error cause => .error cause
        | .ok record => .ok (appcProtocolVersion :: fragment.functionCode.code :: record)

/-- An encoded record starts with the version and a function of the data records. -/
theorem encodeOutgoingAppcDataFragment_ok {input : AppcOutgoingDataFragment} {record : Bytes}
    (h : codec.encodeOutgoingAppcDataFragment input = .ok record) :
    ∃ functionCode rest, functionCode.isData = true ∧
      record = appcProtocolVersion :: AppcFunction.code functionCode :: rest := by
  unfold encodeOutgoingAppcDataFragment invalidOutgoingFragment at h
  split at h
  · cases h
  · rename_i fragment hfragment
    split at h
    · cases h
    · split at h
      · cases h
      · split at h
        · cases h
        · split at h
          · cases h
          · rename_i hsemantics
            have hsemantics := Decidable.of_not_not hsemantics
            split at h
            · cases h
            · rename_i rest hrest
              cases h
              refine ⟨fragment.functionCode, rest, ?_, rfl⟩
              rw [hsemantics]
              exact outgoingFragmentSemantics_isData _ _

def prepareStep (fragment : AppcOutgoingDataFragment) : Except Cause OutgoingStep :=
  match codec.encodeOutgoingAppcDataFragment fragment with
  | .error cause => .error cause
  | .ok record =>
      match decodeAppcHeader record with
      | .error cause => .error cause
      | .ok header =>
          let step (barrier : Option Nat) : OutgoingStep :=
            { record
              functionCode := header.functionCode
              isFinal := header.functionCode = .sapSend || header.functionCode = .receive
              conversationId := header.conversationId
              barrierConnectionIndex := barrier }
          if header.functionCode = .sendData then
            match codec.decodeAppcAsyncDataInfo ((record.take 80).drop 48) with
            | .error cause => .error cause
            | .ok connectionIndex => .ok (step (some connectionIndex))
          else
            .ok (step none)

/-- The checks which `writeOutgoingAppcDataPlan` makes before the first record. -/
def prepare (fragments : List AppcOutgoingDataFragment) : Except Cause (List OutgoingStep) :=
  if fragments.length < 1 then
    .error (.error "outgoing APPC plan must contain at least one fragment")
  else if defaultMaxAppcMessageFragments < fragments.length then
    .error (.error ("outgoing APPC plan fragment count " ++ toString fragments.length ++
      " exceeds limit " ++ toString defaultMaxAppcMessageFragments))
  else
    match fragments.mapM codec.snapshotOutgoingAppcDataFragment with
    | .error cause => .error cause
    | .ok snapshot =>
        match validateOutgoingPlanOrder snapshot with
        | .error cause => .error cause
        | .ok () => snapshot.mapM codec.prepareStep

/-- The records of a plan carry data, or end it. -/
theorem prepareStep_isData {fragment : AppcOutgoingDataFragment} {step : OutgoingStep}
    (h : codec.prepareStep fragment = .ok step) : step.functionCode.isData = true := by
  unfold prepareStep at h
  cases he : codec.encodeOutgoingAppcDataFragment fragment with
  | error cause =>
      rw [he] at h
      cases h
  | ok record =>
      obtain ⟨functionCode, rest, hdata, rfl⟩ := codec.encodeOutgoingAppcDataFragment_ok he
      simp only [he] at h
      cases hd : decodeAppcHeader (appcProtocolVersion :: functionCode.code :: rest) with
      | error cause =>
          rw [hd] at h
          cases h
      | ok header =>
          have hcode : header.functionCode = functionCode :=
            decodeAppcHeader_functionCode hdata hd
          simp only [hd] at h
          split at h
          · split at h
            · cases h
            · cases h
              rw [hcode]
              exact hdata
          · cases h
            rw [hcode]
            exact hdata

theorem prepare_isData {fragments : List AppcOutgoingDataFragment} {steps : List OutgoingStep}
    (h : codec.prepare fragments = .ok steps) : ∀ step ∈ steps, step.functionCode.isData := by
  unfold prepare at h
  split at h
  · cases h
  · split at h
    · cases h
    · split at h
      · cases h
      · rename_i snapshot hsnapshot
        split at h
        · cases h
        · intro step hstep
          obtain ⟨fragment, -, hf⟩ := exists_of_mem_mapM h hstep
          exact codec.prepareStep_isData hf

/-- `assertDirectCpicResponseIdentity` -/
def assertResponseIdentity (message : AppcMessage) : Except Cause Unit :=
  if codec.conversationId.length ≠ 8 ∨ message.conversationId ≠ codec.conversationId ∨
      message.communicationIndex ≠ 0 ∨ message.connectionIndex ≠ codec.connectionIndex then
    .error (.error "APPC response identity does not match the active conversation")
  else
    .ok ()

end Codec

/-- The failure which the catch of an exchange makes of a cause. -/
def exchangeFailure (cause : Cause) (phase : RfcOperationPhase)
    (transmission : RfcTransmissionState) (establishedSession : Bool) : RfcFailure :=
  let communication : Bool := match cause with
    | .peerReturnCode .. | .normalDeallocationWithoutData => true
    | _ => false
  createRfcFailure
    { category := match cause with
        | .ni .aborted _ => .canceled
        | .ni .receiveTimeout _ | .ni .connectTimeout _ | .ni .writeTimeout _ => .timeout
        | .peerReturnCode .. | .normalDeallocationWithoutData => .communication
        | .ni .protocolError _ | .error _ => .malformedProtocol
        | .ni _ _ => .communication
      origin := match cause with
        | .ni _ _ => .ni
        | _ => .appc
      phase
      transmission
      establishedSession
      reasonCode := match cause with
        | .normalDeallocationWithoutData => "CM_NO_DATA_RECEIVED"
        | .peerReturnCode _ appcReturnCode sapReturnCode =>
            "RFC_APPC_RETURN_" ++ toString appcReturnCode ++ "_SAP_" ++ toString sapReturnCode
        | .ni code _ => code.text
        | .error _ => "RFC_APPC_RESPONSE_MALFORMED"
      key := some <|
        if communication then
          "RFC_COMMUNICATION_FAILURE"
        else match cause with
          | .ni code _ => code.text
          | _ => "RFC_APPC_RESPONSE_MALFORMED"
      message := some cause.message }

/-- Whatever an exchange fails with, its generation is not used again. -/
theorem exchangeFailure_disposition (cause : Cause) (phase : RfcOperationPhase)
    (transmission : RfcTransmissionState) (establishedSession : Bool) :
    (exchangeFailure cause phase transmission establishedSession).disposition ≠ .reusable := by
  rw [RfcFailure.disposition_eq]
  cases cause with
  | ni code message => cases code <;> exact nofun
  | _ => exact nofun

def concurrentCallFailure (establishedSession : Bool) : RfcFailure :=
  createRfcFailure
    { category := .invalidState
      origin := .api
      phase := .send
      transmission := .notStarted
      establishedSession
      reasonCode := "RFC_CONCURRENT_CALL"
      key := some "RFC_ILLEGAL_STATE"
      message := some "direct CPIC session already has an in-flight operation" }

def requestEncodingFailure (establishedSession : Bool) : RfcFailure :=
  createRfcFailure
    { category := .serialization
      origin := .codec
      phase := .encode
      transmission := .notStarted
      establishedSession
      reasonCode := "RFC_APPC_REQUEST_ENCODING_FAILED"
      key := some "RFC_SERIALIZATION_FAILURE"
      message := some "RFC request could not be encoded for APPC" }

def logonMalformedFailure : RfcFailure :=
  createRfcFailure
    { category := .malformedProtocol
      origin := .cpic
      phase := .logon
      transmission := .complete
      establishedSession := false
      reasonCode := "RFC_CPIC_LOGON_RESPONSE_MALFORMED"
      key := some "RFC_INVALID_PROTOCOL"
      message := some "CPIC RFC logon response is malformed" }

def logonRejectedFailure (status : Option Nat) (rejection : Option String) : RfcFailure :=
  createRfcFailure
    { category := .logon
      origin := .sap
      phase := .logon
      transmission := .complete
      establishedSession := false
      reasonCode := match status with
        | none => "RFC_CPIC_LOGON_REJECTED"
        | some status => "RFC_CPIC_LOGON_STATUS_" ++ toString status
      key := some "RFC_LOGON_FAILURE"
      message := some <| firstNonEmpty
        [rejection.getD "",
          match status with
          | none => "SAP rejected the initial CPIC logon"
          | some status => "SAP rejected the initial CPIC logon with status " ++
              toString status] }

def responseMalformedFailure (establishedSession : Bool) : RfcFailure :=
  createRfcFailure
    { category := .malformedProtocol
      origin := .cpic
      phase := .envelopeDecode
      transmission := .complete
      establishedSession
      reasonCode := "RFC_CPIC_RESPONSE_MALFORMED"
      key := some "RFC_INVALID_PROTOCOL"
      message := some "CPIC RFC response is malformed" }

def deallocatedFailure (establishedSession : Bool) : RfcFailure :=
  createRfcFailure
    { category := .communication
      origin := .appc
      phase := .envelopeDecode
      transmission := .complete
      establishedSession
      reasonCode := "CM_DEALLOCATED_NORMAL"
      key := some "RFC_COMMUNICATION_FAILURE"
      message := some "the peer normally deallocated the conversation after its response" }

def valueMalformedFailure (establishedSession : Bool) : RfcFailure :=
  createRfcFailure
    { category := .malformedProtocol
      origin := .codec
      phase := .valueDecode
      transmission := .complete
      establishedSession
      reasonCode := "RFC_RESPONSE_VALUE_MALFORMED"
      key := some "RFC_INVALID_PROTOCOL"
      message := some "RFC response values are malformed" }

namespace DirectCpicSession
variable {Fields Value : Type}

/-- An opened session: the conversation is allocated. -/
def initial : DirectCpicSession Fields Value where
  transport := .initial
  setup := .ready
  busy := false
  compoundOperationOwner := none
  closed := false
  authenticated := false
  cpicSessionId := none
  descriptors := fun _ => none
  deallocating := false
  exchanges := 0
  operations := []
  trace := []

def state (s : DirectCpicSession Fields Value) : SessionState :=
  if s.closed = true ∨ s.setup = .closed then
    .closed
  else if s.authenticated then
    .authenticated
  else
    .allocated

def observe (s : DirectCpicSession Fields Value) (o : Observation) :
    DirectCpicSession Fields Value :=
  { s with trace := o :: s.trace }

def snapshot (s : DirectCpicSession Fields Value) : Snapshot :=
  ⟨s.closed, s.setup, s.busy, s.exchanges, s.transport.frames⟩

def setStage (s : DirectCpicSession Fields Value) (i : Nat) (stage : Stage Fields Value) :
    DirectCpicSession Fields Value :=
  { s with operations := s.operations.modify i fun o => { o with stage } }

/-- The reply which the operation decodes or has decoded. -/
def reply (s : DirectCpicSession Fields Value) (i : Nat) : Option Bool :=
  s.operations[i]?.bind (·.reply)

/-- The operation is a call of `exchange`. -/
def undecoded (s : DirectCpicSession Fields Value) (i : Nat) : Bool :=
  s.operations[i]?.any (·.call.isExchange)

/-- Reject or resolve the pending `receive`. -/
def settleReceive (s : DirectCpicSession Fields Value) (outcome : Except Cause Bytes) :
    DirectCpicSession Fields Value :=
  match s.transport.pendingReceive with
  | none => s
  | some i =>
      { s with
        transport := { s.transport with pendingReceive := none }
        operations := s.operations.modify i fun o =>
          { o with stage := o.stage.settleReceive outcome } }

/-- `transport.close()` -/
def closeTransport (s : DirectCpicSession Fields Value) : DirectCpicSession Fields Value :=
  let s := s.settleReceive
    (.error (.ni .connectionClosed "NI socket was closed locally"))
  { s with transport := s.transport.close }

/-- The transport fails on its own. -/
def failTransport (s : DirectCpicSession Fields Value) (cause : Cause) :
    DirectCpicSession Fields Value :=
  let s' := s.settleReceive (.error (s.transport.terminalError.getD cause))
  { s' with transport := s'.transport.fail cause }

def terminateGeneration (s : DirectCpicSession Fields Value) : DirectCpicSession Fields Value :=
  if s.closed then
    s
  else
    { s with
      closed := true
      cpicSessionId := none
      descriptors := fun _ => none }.closeTransport.observe .terminated

/-- An error with a failure is thrown; the operation goes on with it. -/
def threw (s : DirectCpicSession Fields Value) (i : Nat) (failure : RfcFailure)
    (program : Program Fields Value) : DirectCpicSession Fields Value :=
  (s.observe (.threw i failure (s.reply i) s.snapshot)).setStage i (.awaiting program)

/-- Terminate the generation, then throw. -/
def terminate (s : DirectCpicSession Fields Value) (i : Nat) (failure : RfcFailure)
    (program : Program Fields Value) : DirectCpicSession Fields Value :=
  s.terminateGeneration.setStage i (.terminating failure program)

/-- `#assertExchangeAvailable` -/
def assertExchangeAvailable (s : DirectCpicSession Fields Value) (owner : Option Nat) :
    Except RfcFailure Unit :=
  if s.busy = true ∨ (s.compoundOperationOwner ≠ none ∧ s.compoundOperationOwner ≠ owner) then
    .error (concurrentCallFailure s.authenticated)
  else
    .ok ()

section
variable (codec : Codec Fields Value) (i : Nat)
  (next : Except Thrown Bytes → Program Fields Value)

/-- The catch of `#exchange`. -/
def catchExchange (s : DirectCpicSession Fields Value) (x : Exchange) (cause : Cause)
    (transmission : RfcTransmissionState) : DirectCpicSession Fields Value :=
  (s.terminateGeneration.observe (.failed x.id)).setStage i <|
    .exchanging
      { x with
        transmission
        stage := .failing (exchangeFailure cause x.phase transmission s.authenticated) } next

/-- The catch of the writer. -/
def failWriter (s : DirectCpicSession Fields Value) (x : Exchange) (index : Nat)
    (cause : Cause) : DirectCpicSession Fields Value :=
  s.closeTransport.setStage i
    (.exchanging { x with stage := .writerClosing index cause } next)

/-- `await this.#transport.receive(…)` in the loop. -/
def receiveReply (s : DirectCpicSession Fields Value) (x : Exchange) :
    DirectCpicSession Fields Value :=
  { s with transport := (s.transport.receive i).1 }.setStage i
    (.exchanging { x with stage := .receiving (s.transport.receive i).2 } next)

/-- The writer goes on with the rest of its steps, or the exchange with the reply. -/
def writeSteps (s : DirectCpicSession Fields Value) (x : Exchange) (index : Nat) :
    List OutgoingStep → DirectCpicSession Fields Value
  | [] => s.receiveReply i next
      { x with transmission := .complete, phase := .receive, payloads := [] }
  | step :: rest =>
      match s.setup.sent step.functionCode step.isFinal with
      | .error cause => s.failWriter i next x index cause
      | .ok setup =>
          ({ s with setup }.observe (.sent x.id step.record s.transport.isOpen)).setStage i
            (.exchanging { x with stage := .sending index step rest s.transport.send } next)

/-- `writeOutgoingAppcDataPlan` -/
def write (s : DirectCpicSession Fields Value) (x : Exchange) :
    DirectCpicSession Fields Value :=
  match codec.prepare x.outgoingPlan with
  | .error cause => s.catchExchange i next x cause x.transmission
  | .ok steps =>
      if s.setup = .ready then
        (s.observe (.planned x.id (steps.map (·.record)))).writeSteps i next x 0 steps
      else
        s.catchExchange i next x
          (.error ("cannot start an outgoing APPC message while client is " ++ s.setup.text))
          x.transmission

/-- The exchange which an operation begins. -/
def newExchange (s : DirectCpicSession Fields Value)
    (outgoingPlan : List AppcOutgoingDataFragment) (allowCallbacks : Bool) : Exchange where
  id := s.exchanges
  allowCallbacks := allowCallbacks
  outgoingPlan := outgoingPlan
  phase := .send
  transmission := .notStarted
  callbackCount := 0
  payloads := []
  stage := .receiving none

def takeSession (s : DirectCpicSession Fields Value) : DirectCpicSession Fields Value :=
  { s with busy := true, exchanges := s.exchanges + 1 }.observe (.began s.exchanges i)

/-- The synchronous part of `#exchange`. -/
def beginExchange (s : DirectCpicSession Fields Value) (request : Bytes)
    (allowCallbacks owned : Bool) : DirectCpicSession Fields Value :=
  if s.closed then
    s.setStage i (.awaiting (next (.error (.error "direct CPIC session is closed"))))
  else
    match s.assertExchangeAvailable (if owned then some i else none) with
    | .error failure => s.threw i failure (next (.error (.core failure)))
    | .ok () =>
        match codec.planOutgoingRequest request with
        | .error _ =>
            let failure := requestEncodingFailure s.authenticated
            s.threw i failure (next (.error (.core failure)))
        | .ok outgoingPlan =>
            let x := s.newExchange outgoingPlan allowCallbacks
            let s := s.takeSession i
            match s.transport.assertNoQueuedFrames with
            | .error cause =>
                (s.failTransport cause).catchExchange i next x cause x.transmission
            | .ok () => s.write codec i next x

/-- `return message.data`, with the `finally`. -/
def returnMessage (s : DirectCpicSession Fields Value) (x : Exchange) (message : AppcMessage)
    (ended : Bool) : DirectCpicSession Fields Value :=
  { s with
    busy := false
    operations := s.operations.modify i fun o =>
      { o with reply := some ended, stage := .awaiting (next (.ok message.data)) } }.observe
    (.returned x.id x.payloads message.data ended)

/-- After a complete message: serve a callback and go on, or return it. -/
def completeMessage (s : DirectCpicSession Fields Value) (x : Exchange) (message : AppcMessage)
    (ended : Bool) (callback : Except Cause Bytes) : DirectCpicSession Fields Value :=
  if codec.isCpicRfcCallbackRequest message.data then
    if x.allowCallbacks = false ∨ codec.callbacks = false then
      s.catchExchange i next x
        (.error "server sent an RFC callback but no callback handlers are configured")
        x.transmission
    else if defaultMaxRfcCallbacksPerCall < x.callbackCount + 1 then
      s.catchExchange i next x
        (.error ("server exceeded " ++ toString defaultMaxRfcCallbacksPerCall ++
          " RFC callbacks in one call")) x.transmission
    else
      match callback with
      | .error cause => s.catchExchange i next x cause x.transmission
      | .ok response =>
          match codec.planOutgoingRequest response with
          | .error cause => s.catchExchange i next x cause x.transmission
          | .ok outgoingPlan =>
              s.write codec i next
                { x with outgoingPlan, phase := .send, callbackCount := x.callbackCount + 1 }
  else
    s.returnMessage i next x message ended

/-- A frame is handed to the exchange; `setup` is what it makes of the conversation. -/
def receivedFrame (s : DirectCpicSession Fields Value) (x : Exchange) (payload : Bytes)
    (setup : AppcClientSetupState) : DirectCpicSession Fields Value :=
  { s with setup }.observe (.received x.id payload)

/-- The checks on a complete message. -/
def admitMessage (allowInitialReceive : Bool) (payloads : List Bytes) (message : AppcMessage) :
    Except Cause Unit :=
  match codec.finish allowInitialReceive payloads with
  | .error cause => .error cause
  | .ok () => codec.assertResponseIdentity message

/-- A message which did not end the conversation: nothing may be queued behind it. -/
def completeReply (s : DirectCpicSession Fields Value) (x : Exchange) (message : AppcMessage)
    (callback : Except Cause Bytes) : DirectCpicSession Fields Value :=
  match s.transport.assertNoQueuedFrames with
  | .error cause => (s.failTransport cause).catchExchange i next x cause x.transmission
  | .ok () =>
      match s.setup.responseComplete with
      | (setup, .error cause) => { s with setup }.catchExchange i next x cause x.transmission
      | (setup, .ok ()) => { s with setup }.completeMessage codec i next x message false callback

/-- Push a payload behind the others into the decoder. -/
def pushReply (s : DirectCpicSession Fields Value) (x : Exchange) (payloads : List Bytes)
    (payload : Bytes) (callback : Except Cause Bytes) :
    Except Cause AppcReceiveDisposition → DirectCpicSession Fields Value
  | .error cause => s.catchExchange i next x cause x.transmission
  | .ok .normalDeallocation =>
      match codec.pushTerminalDeallocation x.allowInitialReceive payloads payload with
      | .error cause => s.catchExchange i next x cause x.transmission
      | .ok message =>
          match admitMessage codec x.allowInitialReceive x.payloads message with
          | .error cause => s.catchExchange i next x cause x.transmission
          | .ok () =>
              s.terminateGeneration.setStage i
                (.exchanging { x with stage := .deallocating message } next)
  | .ok .accepted =>
      match codec.push x.allowInitialReceive payloads payload with
      | .error cause => s.catchExchange i next x cause x.transmission
      | .ok none => s.receiveReply i next x
      | .ok (some message) =>
          match admitMessage codec x.allowInitialReceive x.payloads message with
          | .error cause => s.catchExchange i next x cause x.transmission
          | .ok () => s.completeReply codec i next x message callback

/-- A frame of the reply. -/
def receivedReply (s : DirectCpicSession Fields Value) (x : Exchange) (payload : Bytes)
    (callback : Except Cause Bytes) : DirectCpicSession Fields Value :=
  (s.receivedFrame x payload (s.setup.received payload).1).pushReply codec i next
    { x with payloads := x.payloads ++ [payload] } x.payloads payload callback
    (s.setup.received payload).2

/-- An acknowledgement of a record sent in between. -/
def receivedAcknowledgement (s : DirectCpicSession Fields Value) (x : Exchange) (index : Nat)
    (step : OutgoingStep) (rest : List OutgoingStep) (payload : Bytes) :
    DirectCpicSession Fields Value :=
  match decodeAppcSynchronousSendAcknowledgement payload with
  | .error cause => (s.receivedFrame x payload s.setup).failWriter i next x index cause
  | .ok decoded =>
      if decoded.header.conversationId ≠ step.conversationId ∨
          some decoded.connectionIndex ≠ step.barrierConnectionIndex then
        (s.receivedFrame x payload s.setup).failWriter i next x index
          (.error "APPC synchronous-send acknowledgement identity changed")
      else
        match s.setup.received payload with
        | (setup, .error cause) =>
            (s.receivedFrame x payload setup).failWriter i next x index cause
        | (setup, .ok _) =>
            (s.receivedFrame x payload setup).writeSteps i next x (index + 1) rest

/-- The continuation of an exchange. It waits for a promise which has not settled. -/
def resumeExchange (s : DirectCpicSession Fields Value) (x : Exchange)
    (callback : Except Cause Bytes) : Option (DirectCpicSession Fields Value) :=
  match x.stage with
  | .sending index _ _ (some (.error cause)) => some (s.failWriter i next x index cause)
  | .sending index step rest (some (.ok ())) =>
      if step.functionCode = .sendData then
        some ({ s with transport := (s.transport.receive i).1 }.setStage i
          (.exchanging
            { x with stage := .acknowledging index step rest (s.transport.receive i).2 } next))
      else
        some (s.writeSteps i next x (index + 1) rest)
  | .acknowledging index _ _ (some (.error cause)) => some (s.failWriter i next x index cause)
  | .acknowledging index step rest (some (.ok payload)) =>
      some (s.receivedAcknowledgement i next x index step rest payload)
  | .writerClosing index cause =>
      some (s.catchExchange i next x cause (if index = 0 then .unknown else .partialSend))
  | .receiving (some (.error cause)) => some (s.catchExchange i next x cause x.transmission)
  | .receiving (some (.ok payload)) =>
      some (s.receivedReply codec i next x payload callback)
  | .deallocating message =>
      some (s.completeMessage codec i next x message true callback)
  | .failing failure =>
      some ({ s with busy := false }.threw i failure (next (.error (.core failure))))
  | .sending _ _ _ none | .acknowledging _ _ _ none | .receiving none => none

end

/-- The origin of a remote failure: a conversation which has ended overrides the server. -/
def responseOrigin (terminalTransport : Bool) : RfcFailureOrigin :=
  if terminalTransport then .appc else .sap

/-- `#decodeRegularResponse` -/
def decodeRegularResponse (codec : Codec Fields Value) (s : DirectCpicSession Fields Value)
    (i : Nat) (response : Bytes) (kind : ResponseKind)
    (next : Except Thrown (DecodedFields Fields) → Program Fields Value) :
    DirectCpicSession Fields Value :=
  let terminalTransport : Bool := s.setup = .closed
  match codec.decodeResultFields kind response with
  | .error _ =>
      let failure := responseMalformedFailure s.authenticated
      s.terminate i failure (next (.error (.core failure)))
  | .ok decoded =>
      match decoded.outcome.category with
      | some category =>
          let failure := createRemoteRfcFailure category decoded.facts
            (responseOrigin terminalTransport) s.authenticated
          if failure.disposition = .reusable then
            s.threw i failure (next (.error (.core failure)))
          else
            s.terminate i failure (next (.error (.core failure)))
      | none =>
          if terminalTransport then
            let failure := deallocatedFailure s.authenticated
            s.threw i failure (next (.error (.core failure)))
          else
            (s.observe (.answered i kind)).setStage i (.awaiting (next (.ok decoded)))

/-- Run an operation up to its next await. -/
def run (codec : Codec Fields Value) (i : Nat) :
    Program Fields Value → DirectCpicSession Fields Value → DirectCpicSession Fields Value
  | .resolve value, s =>
      (s.observe (.resolved i (s.undecoded i) (s.reply i) s.state)).setStage i (.resolved value)
  | .reject e, s => (s.observe (.rejected i e)).setStage i (.rejected e)
  | .authenticated next, s => run codec i (next s.authenticated) s
  | .sessionId next, s => run codec i (next s.cpicSessionId) s
  | .cached key next, s => run codec i (next (s.descriptors key)) s
  | .store key value next, s =>
      run codec i next
        { s with descriptors := fun k => if k = key then some value else s.descriptors k }
  | .claim next, s =>
      match s.assertExchangeAvailable none with
      | .error failure =>
          run codec i (next (.error (.core failure)))
            (s.observe (.threw i failure (s.reply i) s.snapshot))
      | .ok () => run codec i (next (.ok ())) { s with compoundOperationOwner := some i }
  | .release next, s =>
      run codec i next
        { s with compoundOperationOwner :=
            if s.compoundOperationOwner = some i then none else s.compoundOperationOwner }
  | .tick next, s => s.setStage i (.awaiting next)
  | .exchange request allowCallbacks owned next, s =>
      s.beginExchange codec i next request allowCallbacks owned
  | .decodeRegularResponse response kind next, s =>
      s.decodeRegularResponse codec i response kind next
  | .decodeFailed (.bcdConversion message) next, s =>
      s.setStage i (.awaiting (next (.error message)))
  | .decodeFailed (.malformed _) next, s =>
      let failure := valueMalformedFailure s.authenticated
      s.terminate i failure (next (.core failure))
  | .decodeLogon response cpicSessionId next, s =>
      match codec.decodeCpicInitialLogonResponse response with
      | .error _ =>
          s.terminate i logonMalformedFailure (next (.error (.core logonMalformedFailure)))
      | .ok (.rejected status rejection) =>
          let failure := logonRejectedFailure status rejection
          s.terminate i failure (next (.error (.core failure)))
      | .ok (.success value) =>
          run codec i (next (.ok value))
            ({ s with cpicSessionId := some cpicSessionId, authenticated := true }.observe
              (.loggedOn i s.closed))

/-- The continuation of an operation. -/
def resume (codec : Codec Fields Value) (s : DirectCpicSession Fields Value) (i : Nat)
    (callback : Except Cause Bytes) : Stage Fields Value → Option (DirectCpicSession Fields Value)
  | .exchanging x next => s.resumeExchange codec i next x callback
  | .awaiting program => some (s.run codec i program)
  | .terminating failure program => some (s.threw i failure program)
  | .resolved _ | .rejected _ => none

/-- `close()`; a refused call changes nothing. -/
def close (s : DirectCpicSession Fields Value) : DirectCpicSession Fields Value :=
  if s.closed = true ∨ s.busy = true ∨ s.compoundOperationOwner ≠ none then
    s
  else
    let s := { s with
      closed := true
      cpicSessionId := none
      descriptors := fun _ => none }.observe .closing
    if s.setup = .ready then
      match s.setup.sent .deallocate true with
      | .ok setup => { s with setup, deallocating := true }.observe .deallocateSent
      | .error _ => s.closeTransport
    else
      s.closeTransport

end DirectCpicSession

end OpenRfc.DirectCpic
