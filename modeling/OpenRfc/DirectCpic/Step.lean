import OpenRfc.Foundation.Machine
import OpenRfc.Foundation.History
import OpenRfc.DirectCpic.Runtime

/-!
The steps of a direct-CPIC session: the calls, the transport, and the promises which settle.
-/

namespace OpenRfc.DirectCpic

inductive Event (Fields Value : Type) where
  | call (c : Call Fields Value)
  | close
  /-- The transport accepts or refuses a record. -/
  | settleSend (i : Nat) (outcome : Except Cause Unit)
  | arrive (frame : Bytes)
  /-- A timeout, an abort, the end of the stream, or an invalid stream. -/
  | failTransport (code : NiTransportErrorCode) (message : String)
  /-- A continuation runs. `callback` is what serving a callback request comes to. -/
  | resume (i : Nat) (callback : Except Cause Bytes)
  /-- The send of the deallocation has settled. -/
  | finishClose

namespace DirectCpicSession
variable {Fields Value : Type}

def addOperation (codec : Codec Fields Value) (s : DirectCpicSession Fields Value)
    (c : Call Fields Value) : DirectCpicSession Fields Value :=
  { s with operations := s.operations ++ [Operation.mk c none (.awaiting (c.program codec))] }

/-- A call runs up to its first await. -/
def startCall (codec : Codec Fields Value) (s : DirectCpicSession Fields Value)
    (c : Call Fields Value) : DirectCpicSession Fields Value :=
  (s.addOperation codec c).run codec s.operations.length (c.program codec)

/-- A frame reaches the transport: the pending `receive` takes it, or it is queued. -/
def arrive (s : DirectCpicSession Fields Value) (frame : Bytes) :
    DirectCpicSession Fields Value :=
  let s := s.observe (.arrived frame)
  match s.transport.pendingReceive with
  | some _ => s.settleReceive (.ok frame)
  | none => { s with transport := { s.transport with frames := s.transport.frames ++ [frame] } }

/-- The pending send of an operation. -/
def sending (s : DirectCpicSession Fields Value) (i : Nat) :
    Option (Exchange × (Except Thrown Bytes → Program Fields Value) × Nat × OutgoingStep ×
      List OutgoingStep) :=
  match s.operations[i]? with
  | some ⟨_, _, .exchanging x next⟩ =>
      match x.stage with
      | .sending index step rest none => some (x, next, index, step, rest)
      | _ => none
  | _ => none

def settleSend (s : DirectCpicSession Fields Value) (i : Nat) (outcome : Except Cause Unit) :
    Option (DirectCpicSession Fields Value) :=
  match s.sending i with
  | some (x, next, index, step, rest) =>
      let s := s.setStage i
        (.exchanging { x with stage := .sending index step rest (some outcome) } next)
      match outcome with
      | .ok () => some s
      | .error cause => some (s.failTransport cause)
  | none => none

/-- A label which does not apply is not a step. -/
def step (codec : Codec Fields Value) (s : DirectCpicSession Fields Value) :
    Event Fields Value → Option (DirectCpicSession Fields Value)
  | .call c => some (s.startCall codec c)
  | .close => some s.close
  | .settleSend i outcome => s.settleSend i outcome
  | .arrive frame => if s.transport.isOpen then some (s.arrive frame) else none
  | .failTransport code message =>
      if s.transport.isOpen then some (s.failTransport (.ni code message)) else none
  | .resume i callback =>
      match s.operations[i]? with
      | some o => s.resume codec i callback o.stage
      | none => none
  | .finishClose =>
      if s.deallocating then some { s with deallocating := false }.closeTransport else none

end DirectCpicSession

def machine {Fields Value : Type} (codec : Codec Fields Value) :
    Machine (DirectCpicSession Fields Value) (Event Fields Value) where
  init := .initial
  step := DirectCpicSession.step codec

/-- A record of the sample peer: the code in the header, the body behind it. -/
def sampleRecord (functionCode returnCode : UInt8) (body : Bytes) : Bytes :=
  [6, functionCode] ++ List.replicate 33 0 ++ [returnCode] ++ List.replicate 44 0 ++ body

/-- Codecs of one-record requests and one-byte replies: 0 is a success, 1 a declared
exception or a rejected logon, anything else malformed. -/
def sampleCodec : Codec Unit Nat where
  conversationId := List.replicate 8 0
  connectionIndex := 6
  planOutgoingRequest request :=
    if request.length < 10 then
      .ok [⟨⟨.sapSend, true, 5, 0x0c, 8⟩, 0, 1, List.replicate 8 0, 0, 65535, 6, request,
        request.length⟩]
    else
      .error (.error "RFC request exceeds the direct CPIC request envelope")
  snapshotOutgoingAppcDataFragment := .ok
  encodeAppcRecord fragment := .ok ((sampleRecord 0xcb 0 fragment.applicationData).drop 2)
  decodeAppcAsyncDataInfo _ := .ok 6
  push _ _ payload := .ok (some ⟨payload.drop 80, List.replicate 8 0, 0, 6⟩)
  pushTerminalDeallocation _ _ payload := .ok ⟨payload.drop 80, List.replicate 8 0, 0, 6⟩
  finish _ _ := .ok ()
  isCpicRfcCallbackRequest _ := false
  callbacks := false
  encodeCpicFunctionRequest _ _ := .ok [1]
  encodeCpicCutFunctionRequest _ := .ok [2]
  buildRfcGetFunctionInterfaceRequest _ := .ok [3]
  buildDdIfFieldInfoGetRequest _ := .ok [4]
  buildRfcGetStructureDefinitionRequest _ := .ok [5]
  decodeResultFields _ response :=
    match response with
    | [0] => .ok ⟨.success, emptyAbapFacts, ()⟩
    | [1] => .ok ⟨.abapException, { emptyAbapFacts with exceptionKey := "NOT_FOUND" }, ()⟩
    | _ => .error "CPIC function response prefix is invalid"
  decodeCpicInitialLogonResponse response :=
    match response with
    | [0] => .ok (.success 0)
    | [1] => .ok (.rejected none none)
    | _ => .error "initial CPIC logon response prefix is invalid"
  decodeRfcFunctionInterfaceResult _ _ := .ok 1
  decodeDdIfFieldInfoGetResult _ _ := .ok 2
  detectRfcStructureDefinitionRowName _ _ := .ok none
  decodeRfcStructureDefinitionResult _ _ := .ok 3
  pingResult _ := 0
  resetResult := 0
  bytesResult data := data.length

def noCallback : Except Cause Bytes := .error (.error "no callback")

/-- A one-record exchange of the operation, answered by a frame. -/
def answered (i : Nat) (frame : Bytes) : List (Event Unit Nat) :=
  [.settleSend i (.ok ()), .resume i noCallback, .arrive frame, .resume i noCallback]

def logon : Call Unit Nat := .logonAndPing (List.replicate 16 7) (.ok [0])

/-- A logon which succeeds. -/
def loggedOn : List (Event Unit Nat) :=
  .call logon :: answered 0 (sampleRecord 0xcb 0 [0]) ++ [.resume 0 noCallback]

end OpenRfc.DirectCpic
