import OpenRfc.DirectCpic.Step

/-!
What a step of the session does, as a sequence of moves. A move is one thing the source does
between two of its decisions, under the conditions which it has checked by then. Beside the
session, the moves know which code is running and where it has got to.
-/

namespace OpenRfc.DirectCpic

variable {Fields Value : Type}

/-- Where the code of an exchange has got to. -/
inductive Point
  | taken
  | began
  | writing (index : Nat) (steps : List OutgoingStep)
  /-- A frame of the reply has been accepted. -/
  | read
  | complete (message : AppcMessage) (ended : Bool)

inductive Control (Fields Value : Type) where
  | idle
  | running (i : Nat) (program : Program Fields Value)
  | exchange (i : Nat) (x : Exchange) (next : Except Thrown Bytes → Program Fields Value)
      (point : Point)

/-- A session, and the code which is running on it. -/
structure Turn (Fields Value : Type) where
  session : DirectCpicSession Fields Value
  control : Control Fields Value

/-- The behaviours which guarded runs leave out. -/
structure Lax where
  /-- An operation may succeed on a session which is not authenticated, or not any more. -/
  deadSuccess : Prop
  /-- The refresh after a reset may be refused with the session open. -/
  refreshRefused : Prop

/-- The operation has reset the server context and has not refreshed the session. -/
def Pending (past : List Observation) (i : Nat) : Prop :=
  .answered i .reset ∈ past ∧ .answered i .sessionRefresh ∉ past

instance (past : List Observation) (i : Nat) : Decidable (Pending past i) :=
  inferInstanceAs (Decidable (_ ∧ _))

theorem pending_cons {o : Observation} {past : List Observation} {i : Nat}
    (ho : ∀ kind, o ≠ .answered i kind) : Pending (o :: past) i ↔ Pending past i := by
  simp [Pending, (ho _).symm]

/-- The message is what the decoder makes of the payloads which the exchange has read. -/
def Decodes (codec : Codec Fields Value) (x : Exchange) (message : AppcMessage)
    (ended : Bool) : Prop :=
  ∃ payloads payload, x.payloads = payloads ++ [payload] ∧
    if ended then
      codec.pushTerminalDeallocation x.allowInitialReceive payloads payload = .ok message
    else
      codec.push x.allowInitialReceive payloads payload = .ok (some message)

namespace DirectCpicSession

/-- The reply of the operation is being processed: its exchange has ended, and it has not
settled. -/
def Processing (s : DirectCpicSession Fields Value) (i : Nat) : Prop :=
  ∃ o, s.operations[i]? = some o ∧ o.reply ≠ none ∧
    match o.stage with
    | .awaiting _ | .terminating _ _ => True
    | _ => False

section
variable (codec : Codec Fields Value) (i : Nat)

/-- No reply but that of the operation is being processed. -/
def Quiet (s : DirectCpicSession Fields Value) (i : Nat) : Prop :=
  ∀ j, j ≠ i → ¬ s.Processing j

/-- The operation, run up to its next await, is not logged on by a reply which ended the
conversation. -/
def Orderly : Program Fields Value → DirectCpicSession Fields Value → Prop
  | .authenticated next, s => Orderly (next s.authenticated) s
  | .sessionId next, s => Orderly (next s.cpicSessionId) s
  | .cached key next, s => Orderly (next (s.descriptors key)) s
  | .store key value next, s =>
      Orderly next
        { s with descriptors := fun k => if k = key then some value else s.descriptors k }
  | .claim next, s =>
      match s.assertExchangeAvailable none with
      | .error failure =>
          Orderly (next (.error (.core failure)))
            (s.observe (.threw i failure (s.reply i) s.snapshot))
      | .ok () => Orderly (next (.ok ())) { s with compoundOperationOwner := some i }
  | .release next, s =>
      Orderly next
        { s with compoundOperationOwner :=
            if s.compoundOperationOwner = some i then none else s.compoundOperationOwner }
  | .decodeLogon response cpicSessionId next, s =>
      match codec.decodeCpicInitialLogonResponse response with
      | .ok (.success value) =>
          s.reply i ≠ some true ∧ Orderly (next (.ok value))
            ({ s with cpicSessionId := some cpicSessionId, authenticated := true }.observe
              (.loggedOn i s.closed))
      | _ => True
  | _, _ => True

/-- The operation, run up to its next await on an open session, refreshes the session: its
request is planned, and the reply to it is not a declared exception. -/
def Refreshing : Program Fields Value → DirectCpicSession Fields Value → Prop
  | .authenticated next, s => Refreshing (next s.authenticated) s
  | .sessionId next, s => Refreshing (next s.cpicSessionId) s
  | .cached key next, s => Refreshing (next (s.descriptors key)) s
  | .store key value next, s =>
      Refreshing next
        { s with descriptors := fun k => if k = key then some value else s.descriptors k }
  | .claim next, s =>
      match s.assertExchangeAvailable none with
      | .error failure =>
          Refreshing (next (.error (.core failure)))
            (s.observe (.threw i failure (s.reply i) s.snapshot))
      | .ok () => Refreshing (next (.ok ())) { s with compoundOperationOwner := some i }
  | .release next, s =>
      s.closed = true ∧
        Refreshing next
          { s with compoundOperationOwner :=
              if s.compoundOperationOwner = some i then none else s.compoundOperationOwner }
  | .exchange request _ owned _, s =>
      s.closed = false → s.assertExchangeAvailable (if owned then some i else none) = .ok () →
        ∃ outgoingPlan, codec.planOutgoingRequest request = .ok outgoingPlan
  | .decodeRegularResponse response kind _, s =>
      s.setup = .closed ∨ s.authenticated = false ∨
        ∀ decoded, codec.decodeResultFields kind response = .ok decoded →
          decoded.outcome ≠ .abapException
  | .decodeLogon response cpicSessionId next, s =>
      match codec.decodeCpicInitialLogonResponse response with
      | .ok (.success value) =>
          Refreshing (next (.ok value))
            ({ s with cpicSessionId := some cpicSessionId, authenticated := true }.observe
              (.loggedOn i s.closed))
      | _ => True
  | _, _ => True

end

end DirectCpicSession

open DirectCpicSession in
inductive Move (codec : Codec Fields Value) (lax : Lax) :
    Turn Fields Value → Turn Fields Value → Prop
  -- The transport, and `close()`.
  | arrived {s : DirectCpicSession Fields Value} (frame : Bytes)
      (h : s.transport.isOpen = true) : Move codec lax ⟨s, .idle⟩ ⟨s.arrive frame, .idle⟩
  | transportFailed {s : DirectCpicSession Fields Value} (cause : Cause) :
      Move codec lax ⟨s, .idle⟩ ⟨s.failTransport cause, .idle⟩
  | sendSettled {s : DirectCpicSession Fields Value} {i : Nat} {o : Operation Fields Value}
      {x : Exchange} {next : Except Thrown Bytes → Program Fields Value} {index : Nat}
      {step : OutgoingStep} {rest : List OutgoingStep} (outcome : Except Cause Unit)
      (ho : s.operations[i]? = some o) (hs : o.stage = .exchanging x next)
      (hx : x.stage = .sending index step rest none) :
      Move codec lax ⟨s, .idle⟩
        ⟨s.setStage i
          (.exchanging { x with stage := .sending index step rest (some outcome) } next), .idle⟩
  | closed {s : DirectCpicSession Fields Value} (hc : s.closed = false) (hb : s.busy = false)
      (ho : s.compoundOperationOwner = none)
      (hg : lax.deadSuccess ∨ ∀ j, ¬ s.Processing j) :
      Move codec lax ⟨s, .idle⟩ ⟨s.close, .idle⟩
  | closeFinished {s : DirectCpicSession Fields Value} (h : s.deallocating = true) :
      Move codec lax ⟨s, .idle⟩ ⟨{ s with deallocating := false }.closeTransport, .idle⟩
  -- Operations.
  | called {s : DirectCpicSession Fields Value} (c : Call Fields Value)
      (hg : lax.deadSuccess ∨ (c.isInvocation = true → s.authenticated = true)) :
      Move codec lax ⟨s, .idle⟩
        ⟨s.addOperation codec c, .running s.operations.length (c.program codec)⟩
  | resumed {s : DirectCpicSession Fields Value} {i : Nat} {o : Operation Fields Value}
      {program : Program Fields Value} (ho : s.operations[i]? = some o)
      (hs : o.stage = .awaiting program) :
      Move codec lax ⟨s, .idle⟩ ⟨s, .running i program⟩
  | threwTerminated {s : DirectCpicSession Fields Value} {i : Nat}
      {o : Operation Fields Value} {failure : RfcFailure} {program : Program Fields Value}
      (ho : s.operations[i]? = some o) (hs : o.stage = .terminating failure program) :
      Move codec lax ⟨s, .idle⟩ ⟨s.threw i failure program, .idle⟩
  | resolved {s : DirectCpicSession Fields Value} {i : Nat} (value : Value) :
      Move codec lax ⟨s, .running i (.resolve value)⟩
        ⟨(s.observe (.resolved i (s.undecoded i) (s.reply i) s.state)).setStage i
          (.resolved value), .idle⟩
  | rejected {s : DirectCpicSession Fields Value} {i : Nat} (e : Thrown) :
      Move codec lax ⟨s, .running i (.reject e)⟩
        ⟨(s.observe (.rejected i e)).setStage i (.rejected e), .idle⟩
  | readAuthenticated {s : DirectCpicSession Fields Value} {i : Nat}
      (next : Bool → Program Fields Value) :
      Move codec lax ⟨s, .running i (.authenticated next)⟩
        ⟨s, .running i (next s.authenticated)⟩
  | readSessionId {s : DirectCpicSession Fields Value} {i : Nat}
      (next : Option Bytes → Program Fields Value) :
      Move codec lax ⟨s, .running i (.sessionId next)⟩ ⟨s, .running i (next s.cpicSessionId)⟩
  | readDescriptor {s : DirectCpicSession Fields Value} {i : Nat} (key : CacheKey)
      (next : Option Value → Program Fields Value) :
      Move codec lax ⟨s, .running i (.cached key next)⟩
        ⟨s, .running i (next (s.descriptors key))⟩
  | stored {s : DirectCpicSession Fields Value} {i : Nat} (key : CacheKey) (value : Value)
      (next : Program Fields Value) :
      Move codec lax ⟨s, .running i (.store key value next)⟩
        ⟨{ s with descriptors := fun k => if k = key then some value else s.descriptors k },
          .running i next⟩
  | claimed {s : DirectCpicSession Fields Value} {i : Nat}
      (next : Except Thrown Unit → Program Fields Value)
      (h : s.assertExchangeAvailable none = .ok ()) :
      Move codec lax ⟨s, .running i (.claim next)⟩
        ⟨{ s with compoundOperationOwner := some i }, .running i (next (.ok ()))⟩
  | claimRefused {s : DirectCpicSession Fields Value} {i : Nat} {failure : RfcFailure}
      (next : Except Thrown Unit → Program Fields Value)
      (h : s.assertExchangeAvailable none = .error failure) :
      Move codec lax ⟨s, .running i (.claim next)⟩
        ⟨s.observe (.threw i failure (s.reply i) s.snapshot),
          .running i (next (.error (.core failure)))⟩
  | released {s : DirectCpicSession Fields Value} {i : Nat} (next : Program Fields Value)
      (hr : lax.refreshRefused ∨ ¬ Pending s.trace i ∨ s.closed = true) :
      Move codec lax ⟨s, .running i (.release next)⟩
        ⟨{ s with compoundOperationOwner :=
            if s.compoundOperationOwner = some i then none else s.compoundOperationOwner },
          .running i next⟩
  | ticked {s : DirectCpicSession Fields Value} {i : Nat} (next : Program Fields Value) :
      Move codec lax ⟨s, .running i (.tick next)⟩ ⟨s.setStage i (.awaiting next), .idle⟩
  | bcdFailed {s : DirectCpicSession Fields Value} {i : Nat} (message : String)
      (next : Thrown → Program Fields Value) :
      Move codec lax ⟨s, .running i (.decodeFailed (.bcdConversion message) next)⟩
        ⟨s.setStage i (.awaiting (next (.error message))), .idle⟩
  | valueMalformed {s : DirectCpicSession Fields Value} {i : Nat} (message : String)
      (next : Thrown → Program Fields Value)
      (hg : lax.deadSuccess ∨ s.closed = true ∨ s.Quiet i) :
      Move codec lax ⟨s, .running i (.decodeFailed (.malformed message) next)⟩
        ⟨s.terminate i (valueMalformedFailure s.authenticated)
          (next (.core (valueMalformedFailure s.authenticated))), .idle⟩
  | logonFailed {s : DirectCpicSession Fields Value} {i : Nat} {response cpicSessionId : Bytes}
      (failure : RfcFailure) (next : Except Thrown Value → Program Fields Value)
      (hf : failure.disposition ≠ .reusable)
      (hg : lax.deadSuccess ∨ s.closed = true ∨ s.Quiet i) :
      Move codec lax ⟨s, .running i (.decodeLogon response cpicSessionId next)⟩
        ⟨s.terminate i failure (next (.error (.core failure))), .idle⟩
  | loggedOn {s : DirectCpicSession Fields Value} {i : Nat} {response cpicSessionId : Bytes}
      (value : Value) (next : Except Thrown Value → Program Fields Value)
      (hg : lax.deadSuccess ∨ s.reply i ≠ some true) :
      Move codec lax ⟨s, .running i (.decodeLogon response cpicSessionId next)⟩
        ⟨{ s with cpicSessionId := some cpicSessionId, authenticated := true }.observe
          (.loggedOn i s.closed), .running i (next (.ok value))⟩
  -- The response decoder.
  | responseFailed {s : DirectCpicSession Fields Value} {i : Nat} {response : Bytes}
      {kind : ResponseKind} (failure : RfcFailure)
      (next : Except Thrown (DecodedFields Fields) → Program Fields Value)
      (hf : failure.disposition ≠ .reusable)
      (hg : lax.deadSuccess ∨ s.closed = true ∨ s.Quiet i) :
      Move codec lax ⟨s, .running i (.decodeRegularResponse response kind next)⟩
        ⟨s.terminate i failure (next (.error (.core failure))), .idle⟩
  | declaredException {s : DirectCpicSession Fields Value} {i : Nat} {response : Bytes}
      {kind : ResponseKind} (failure : RfcFailure)
      (next : Except Thrown (DecodedFields Fields) → Program Fields Value)
      (hf : failure.disposition = .reusable) (hp : failure.phase = .envelopeDecode)
      (ht : failure.transmission = .complete) (hs : s.setup ≠ .closed)
      (hr : lax.refreshRefused ∨ ¬ Pending s.trace i) :
      Move codec lax ⟨s, .running i (.decodeRegularResponse response kind next)⟩
        ⟨s.threw i failure (next (.error (.core failure))), .idle⟩
  | deallocated {s : DirectCpicSession Fields Value} {i : Nat} {response : Bytes}
      {kind : ResponseKind}
      (next : Except Thrown (DecodedFields Fields) → Program Fields Value)
      (hs : s.setup = .closed) :
      Move codec lax ⟨s, .running i (.decodeRegularResponse response kind next)⟩
        ⟨s.threw i (deallocatedFailure s.authenticated)
          (next (.error (.core (deallocatedFailure s.authenticated)))), .idle⟩
  | answered {s : DirectCpicSession Fields Value} {i : Nat} {response : Bytes}
      {kind : ResponseKind} (decoded : DecodedFields Fields)
      (next : Except Thrown (DecodedFields Fields) → Program Fields Value)
      (hs : s.setup ≠ .closed) :
      Move codec lax ⟨s, .running i (.decodeRegularResponse response kind next)⟩
        ⟨(s.observe (.answered i kind)).setStage i (.awaiting (next (.ok decoded))), .idle⟩
  -- An exchange which does not begin.
  | exchangeClosed {s : DirectCpicSession Fields Value} {i : Nat} {request : Bytes}
      {allowCallbacks owned : Bool} (next : Except Thrown Bytes → Program Fields Value)
      (hc : s.closed = true) :
      Move codec lax ⟨s, .running i (.exchange request allowCallbacks owned next)⟩
        ⟨s.setStage i (.awaiting (next (.error (.error "direct CPIC session is closed")))),
          .idle⟩
  | exchangeBusy {s : DirectCpicSession Fields Value} {i : Nat} {request : Bytes}
      {allowCallbacks owned : Bool} {failure : RfcFailure}
      (next : Except Thrown Bytes → Program Fields Value) (hc : s.closed = false)
      (h : s.assertExchangeAvailable (if owned then some i else none) = .error failure) :
      Move codec lax ⟨s, .running i (.exchange request allowCallbacks owned next)⟩
        ⟨s.threw i failure (next (.error (.core failure))), .idle⟩
  | requestRefused {s : DirectCpicSession Fields Value} {i : Nat} {request : Bytes}
      {allowCallbacks owned : Bool} (next : Except Thrown Bytes → Program Fields Value)
      (hc : s.closed = false)
      (h : s.assertExchangeAvailable (if owned then some i else none) = .ok ())
      (hr : lax.refreshRefused ∨ ¬ Pending s.trace i) :
      Move codec lax ⟨s, .running i (.exchange request allowCallbacks owned next)⟩
        ⟨s.threw i (requestEncodingFailure s.authenticated)
          (next (.error (.core (requestEncodingFailure s.authenticated)))), .idle⟩
  -- An exchange.
  | began {s : DirectCpicSession Fields Value} {i : Nat} {request : Bytes}
      {allowCallbacks owned : Bool} (outgoingPlan : List AppcOutgoingDataFragment)
      (next : Except Thrown Bytes → Program Fields Value) (hc : s.closed = false)
      (h : s.assertExchangeAvailable (if owned then some i else none) = .ok ()) :
      Move codec lax ⟨s, .running i (.exchange request allowCallbacks owned next)⟩
        ⟨s.takeSession i,
          .exchange i (s.newExchange outgoingPlan allowCallbacks) next .began⟩
  | taken {s : DirectCpicSession Fields Value} {i : Nat} {o : Operation Fields Value}
      {x : Exchange} {next : Except Thrown Bytes → Program Fields Value}
      (ho : s.operations[i]? = some o) (hs : o.stage = .exchanging x next)
      (hx : x.stage.isPending = false) :
      Move codec lax ⟨s, .idle⟩ ⟨s, .exchange i x next .taken⟩
  | caught {s : DirectCpicSession Fields Value} {i : Nat} {x : Exchange} {point : Point}
      {next : Except Thrown Bytes → Program Fields Value} (y : Exchange) (cause : Cause)
      (transmission : RfcTransmissionState) (hy : y.id = x.id)
      (hpoint : point = .taken → x.stage.isFailing = false)
      (hg : lax.deadSuccess ∨ s.closed = true ∨ s.Quiet i) :
      Move codec lax ⟨s, .exchange i x next point⟩
        ⟨s.catchExchange i next y cause transmission, .idle⟩
  | frameQueued {s : DirectCpicSession Fields Value} {i : Nat} {x : Exchange} {point : Point}
      {next : Except Thrown Bytes → Program Fields Value} (cause : Cause)
      (hpoint : point = .began ∨ point = .read) :
      Move codec lax ⟨s, .exchange i x next point⟩
        ⟨s.failTransport cause, .exchange i x next point⟩
  | failed {s : DirectCpicSession Fields Value} {i : Nat} {x : Exchange}
      {next : Except Thrown Bytes → Program Fields Value} {failure : RfcFailure}
      (hx : x.stage = .failing failure) :
      Move codec lax ⟨s, .exchange i x next .taken⟩
        ⟨{ s with busy := false }.threw i failure (next (.error (.core failure))), .idle⟩
  -- The writer.
  | planned {s : DirectCpicSession Fields Value} {i : Nat} {x : Exchange} {point : Point}
      {next : Except Thrown Bytes → Program Fields Value} (steps : List OutgoingStep)
      (y : Exchange) (hy : y.id = x.id)
      (hpoint : (point = .began ∧ s.transport.assertNoQueuedFrames = .ok ()) ∨
        ∃ m b, point = .complete m b) (hs : s.setup = .ready)
      (hp : codec.prepare y.outgoingPlan = .ok steps) :
      Move codec lax ⟨s, .exchange i x next point⟩
        ⟨s.observe (.planned y.id (steps.map (·.record))),
          .exchange i y next (.writing 0 steps)⟩
  | sent {s : DirectCpicSession Fields Value} {i : Nat} {x : Exchange} {index : Nat}
      {step : OutgoingStep} {rest : List OutgoingStep} {setup : AppcClientSetupState}
      {next : Except Thrown Bytes → Program Fields Value}
      (hs : s.setup.sent step.functionCode step.isFinal = .ok setup) :
      Move codec lax ⟨s, .exchange i x next (.writing index (step :: rest))⟩
        ⟨({ s with setup }.observe (.sent x.id step.record s.transport.isOpen)).setStage i
          (.exchanging { x with stage := .sending index step rest s.transport.send } next),
          .idle⟩
  | sendAccepted {s : DirectCpicSession Fields Value} {i : Nat} {x : Exchange} {index : Nat}
      {step : OutgoingStep} {rest : List OutgoingStep}
      {next : Except Thrown Bytes → Program Fields Value}
      (hx : x.stage = .sending index step rest (some (.ok ())))
      (hf : step.functionCode ≠ .sendData) :
      Move codec lax ⟨s, .exchange i x next .taken⟩
        ⟨s, .exchange i x next (.writing (index + 1) rest)⟩
  | awaitsAcknowledgement {s : DirectCpicSession Fields Value} {i : Nat} {x : Exchange}
      {index : Nat} {step : OutgoingStep} {rest : List OutgoingStep}
      {next : Except Thrown Bytes → Program Fields Value}
      (hx : x.stage = .sending index step rest (some (.ok ())))
      (hf : step.functionCode = .sendData) :
      Move codec lax ⟨s, .exchange i x next .taken⟩
        ⟨{ s with transport := (s.transport.receive i).1 }.setStage i
          (.exchanging
            { x with stage := .acknowledging index step rest (s.transport.receive i).2 } next),
          .idle⟩
  | acknowledged {s : DirectCpicSession Fields Value} {i : Nat} {x : Exchange} {index : Nat}
      {step : OutgoingStep} {rest : List OutgoingStep} {payload : Bytes}
      {next : Except Thrown Bytes → Program Fields Value}
      (setup : AppcClientSetupState)
      (hx : x.stage = .acknowledging index step rest (some (.ok payload)))
      (hs : setup = s.setup ∨ setup = (s.setup.received payload).1 ∧
        ∃ acknowledgement, decodeAppcSynchronousSendAcknowledgement payload = .ok acknowledgement) :
      Move codec lax ⟨s, .exchange i x next .taken⟩
        ⟨s.receivedFrame x payload setup, .exchange i x next (.writing (index + 1) rest)⟩
  | writerFailed {s : DirectCpicSession Fields Value} {i : Nat} {x : Exchange} {point : Point}
      {next : Except Thrown Bytes → Program Fields Value} (index : Nat) (cause : Cause)
      (hpoint : (point = .taken ∧ x.stage.isWriting = true) ∨
        ∃ index steps, point = .writing index steps) :
      Move codec lax ⟨s, .exchange i x next point⟩ ⟨s.failWriter i next x index cause, .idle⟩
  -- The reply.
  | written {s : DirectCpicSession Fields Value} {i : Nat} {x : Exchange} {index : Nat}
      {next : Except Thrown Bytes → Program Fields Value} :
      Move codec lax ⟨s, .exchange i x next (.writing index [])⟩
        ⟨s.receiveReply i next
          { x with transmission := .complete, phase := .receive, payloads := [] }, .idle⟩
  | read {s : DirectCpicSession Fields Value} {i : Nat} {x : Exchange} {payload : Bytes}
      {next : Except Thrown Bytes → Program Fields Value}
      (hx : x.stage = .receiving (some (.ok payload))) :
      Move codec lax ⟨s, .exchange i x next .taken⟩
        ⟨s.receivedFrame x payload (s.setup.received payload).1,
          .exchange i { x with payloads := x.payloads ++ [payload] } next .read⟩
  | readMore {s : DirectCpicSession Fields Value} {i : Nat} {x : Exchange}
      {next : Except Thrown Bytes → Program Fields Value} (hs : s.setup ≠ .closed) :
      Move codec lax ⟨s, .exchange i x next .read⟩ ⟨s.receiveReply i next x, .idle⟩
  | ended {s : DirectCpicSession Fields Value} {i : Nat} {x : Exchange}
      {next : Except Thrown Bytes → Program Fields Value} (message : AppcMessage)
      (hd : Decodes codec x message true) (hs : s.setup = .closed)
      (hg : lax.deadSuccess ∨ s.closed = true ∨ s.Quiet i) :
      Move codec lax ⟨s, .exchange i x next .read⟩
        ⟨s.terminateGeneration.setStage i
          (.exchanging { x with stage := .deallocating message } next), .idle⟩
  | completed {s : DirectCpicSession Fields Value} {i : Nat} {x : Exchange}
      {next : Except Thrown Bytes → Program Fields Value} (message : AppcMessage)
      (hd : Decodes codec x message false) (hq : s.transport.assertNoQueuedFrames = .ok ())
      (hs : s.setup = .responsePending) :
      Move codec lax ⟨s, .exchange i x next .read⟩
        ⟨{ s with setup := .ready }, .exchange i x next (.complete message false)⟩
  | completeRefused {s : DirectCpicSession Fields Value} {i : Nat} {x : Exchange}
      {next : Except Thrown Bytes → Program Fields Value} :
      Move codec lax ⟨s, .exchange i x next .read⟩
        ⟨{ s with setup := .closed }, .exchange i x next .read⟩
  | completedEnded {s : DirectCpicSession Fields Value} {i : Nat} {x : Exchange}
      {next : Except Thrown Bytes → Program Fields Value} {message : AppcMessage}
      (hx : x.stage = .deallocating message) :
      Move codec lax ⟨s, .exchange i x next .taken⟩
        ⟨s, .exchange i x next (.complete message true)⟩
  | returned {s : DirectCpicSession Fields Value} {i : Nat} {x : Exchange}
      {next : Except Thrown Bytes → Program Fields Value} {message : AppcMessage}
      {ended : Bool} :
      Move codec lax ⟨s, .exchange i x next (.complete message ended)⟩
        ⟨s.returnMessage i next x message ended, .idle⟩

def Moves (codec : Codec Fields Value) (lax : Lax) :
    Turn Fields Value → Turn Fields Value → Prop :=
  Relation.ReflTransGen (Move codec lax)

theorem Moves.one {codec : Codec Fields Value} {lax : Lax} {d d' : Turn Fields Value}
    (h : Move codec lax d d') : Moves codec lax d d' := .single h

/-- What every move preserves, a sequence of moves preserves. -/
theorem Moves.invariant {codec : Codec Fields Value} {lax : Lax} {P : Turn Fields Value → Prop}
    (hmove : ∀ d d', P d → Move codec lax d d' → P d') {d d' : Turn Fields Value}
    (h : Moves codec lax d d') (hd : P d) : P d' :=
  Machine.moves_preserve hmove h hd

namespace DirectCpicSession
variable {codec : Codec Fields Value} {lax : Lax} {s s' : DirectCpicSession Fields Value}
  {i : Nat} {x y : Exchange} {next : Except Thrown Bytes → Program Fields Value} {point : Point}

/-- The code takes the session from one state to another, and closes it only when no other
reply is being processed. -/
def Considerate (lax : Lax) (i : Nat) (s s' : DirectCpicSession Fields Value) : Prop :=
  lax.deadSuccess ∨ (s'.closed = true → s.closed = true ∨ s.Quiet i)

@[simp] theorem settleReceive_closed (outcome : Except Cause Bytes) :
    (s.settleReceive outcome).closed = s.closed := by
  unfold settleReceive
  split <;> rfl

@[simp] theorem closeTransport_closed : s.closeTransport.closed = s.closed :=
  settleReceive_closed _

@[simp] theorem failTransport_closed (cause : Cause) :
    (s.failTransport cause).closed = s.closed := settleReceive_closed _

@[simp] theorem terminateGeneration_closed : s.terminateGeneration.closed = true := by
  unfold terminateGeneration
  split
  · assumption
  · exact closeTransport_closed

/-- A pending `receive` is none of a reply which is being processed. -/
theorem processing_settleReceive {outcome : Except Cause Bytes} {j : Nat} :
    (s.settleReceive outcome).Processing j ↔ s.Processing j := by
  unfold settleReceive
  split
  · exact Iff.rfl
  · rename_i k hk
    unfold Processing
    simp only [List.getElem?_modify]
    cases ho : s.operations[j]? with
    | none => simp
    | some o =>
        by_cases hj : k = j
        · cases hstage : o.stage <;> simp [hj, hstage, Stage.settleReceive]
        · simp [hj]

theorem processing_failTransport {cause : Cause} {j : Nat} :
    (s.failTransport cause).Processing j ↔ s.Processing j := processing_settleReceive

/-- A `close()` which is not refused closes the session. -/
theorem close_closed
    (h : ¬ (s.closed = true ∨ s.busy = true ∨ s.compoundOperationOwner ≠ none)) :
    s.close.closed = true := by
  unfold close
  rw [if_neg h]
  dsimp only
  split
  · split
    · rfl
    · exact closeTransport_closed
  · exact closeTransport_closed

theorem caught_moves {cause : Cause} {transmission : RfcTransmissionState} (hy : y.id = x.id)
    (hpoint : point = .taken → x.stage.isFailing = false)
    (hg : Considerate lax i s (s.catchExchange i next y cause transmission)) :
    Moves codec lax ⟨s, .exchange i x next point⟩
      ⟨s.catchExchange i next y cause transmission, .idle⟩ :=
  .one (.caught y cause transmission hy hpoint (hg.imp_right fun h => h terminateGeneration_closed))

/-- A frame which is still queued fails the transport, then the exchange. -/
theorem queued_moves {cause : Cause} {transmission : RfcTransmissionState} (hy : y.id = x.id)
    (hpoint : point = .began ∨ point = .read)
    (hg : Considerate lax i s
      ((s.failTransport cause).catchExchange i next y cause transmission)) :
    Moves codec lax ⟨s, .exchange i x next point⟩
      ⟨(s.failTransport cause).catchExchange i next y cause transmission, .idle⟩ := by
  refine .head (.frameQueued cause hpoint) (caught_moves hy (by obtain rfl | rfl := hpoint <;> exact nofun) (hg.imp_right fun h hc => ?_))
  rw [failTransport_closed]
  exact (h hc).imp_right fun hq j hj hp => hq j hj (processing_failTransport.mp hp)

/-- The next record goes out, is refused by the setup, or none is left. -/
theorem writeSteps_moves (index : Nat) (steps : List OutgoingStep) :
    Moves codec lax ⟨s, .exchange i x next (.writing index steps)⟩
      ⟨s.writeSteps i next x index steps, .idle⟩ := by
  cases steps with
  | nil => exact .one .written
  | cons step rest =>
      cases hs : s.setup.sent step.functionCode step.isFinal with
      | error cause =>
          simp only [writeSteps, hs]
          exact .one (.writerFailed index cause (.inr ⟨index, _, rfl⟩))
      | ok setup =>
          simp only [writeSteps, hs]
          exact .one (.sent hs)

theorem write_moves (hy : y.id = x.id)
    (hpoint : (point = .began ∧ s.transport.assertNoQueuedFrames = .ok ()) ∨
      ∃ m b, point = .complete m b)
    (hg : Considerate lax i s (s.write codec i next y)) :
    Moves codec lax ⟨s, .exchange i x next point⟩ ⟨s.write codec i next y, .idle⟩ := by
  have hnot : point = .taken → x.stage.isFailing = false := by
    obtain ⟨rfl, -⟩ | ⟨message, ended, rfl⟩ := hpoint <;> exact nofun
  revert hg
  unfold write
  cases hp : codec.prepare y.outgoingPlan with
  | error cause => exact caught_moves hy hnot
  | ok steps =>
      by_cases hs : s.setup = .ready
      · simp only [if_pos hs]
        intro _
        exact .head (.planned steps y hy hpoint hs hp)
          (writeSteps_moves 0 steps)
      · simp only [if_neg hs]
        exact caught_moves hy hnot

theorem completeMessage_moves (message : AppcMessage) (ended : Bool)
    (callback : Except Cause Bytes)
    (hg : Considerate lax i s (s.completeMessage codec i next x message ended callback)) :
    Moves codec lax ⟨s, .exchange i x next (.complete message ended)⟩
      ⟨s.completeMessage codec i next x message ended callback, .idle⟩ := by
  revert hg
  unfold completeMessage
  by_cases hcall : codec.isCpicRfcCallbackRequest message.data = true
  · rw [if_pos hcall]
    by_cases hallow : x.allowCallbacks = false ∨ codec.callbacks = false
    · rw [if_pos hallow]
      exact caught_moves rfl nofun
    · rw [if_neg hallow]
      by_cases hcount : defaultMaxRfcCallbacksPerCall < x.callbackCount + 1
      · rw [if_pos hcount]
        exact caught_moves rfl nofun
      · rw [if_neg hcount]
        cases callback with
        | error cause => exact caught_moves rfl nofun
        | ok response =>
            cases hp : codec.planOutgoingRequest response with
            | error cause =>
                simp only [hp]
                exact caught_moves rfl nofun
            | ok outgoingPlan =>
                simp only [hp]
                exact write_moves rfl (.inr ⟨message, ended, rfl⟩)
  · rw [if_neg hcall]
    exact fun _ => .one .returned

theorem completeReply_moves {message : AppcMessage} (callback : Except Cause Bytes)
    (hd : Decodes codec x message false)
    (hg : Considerate lax i s (s.completeReply codec i next x message callback)) :
    Moves codec lax ⟨s, .exchange i x next .read⟩
      ⟨s.completeReply codec i next x message callback, .idle⟩ := by
  revert hg
  unfold completeReply
  cases hq : s.transport.assertNoQueuedFrames with
  | error cause => exact queued_moves rfl (.inr rfl)
  | ok u =>
      dsimp only
      split
      · rename_i setup cause hc
        have hclosed : setup = .closed := by
          cases hs : s.setup with
          | responsePending =>
              rw [hs] at hc
              cases hc
          | _ =>
              rw [hs] at hc
              cases hc
              rfl
        subst hclosed
        exact fun hg => .head .completeRefused (caught_moves rfl nofun hg)
      · rename_i setup hc
        have hc' : s.setup.responseComplete.2 = .ok () := by rw [hc]
        obtain ⟨hs, hready⟩ := AppcClientSetupState.responseComplete_ok hc'
        rw [hc] at hready
        cases hready
        exact fun hg => .head (.completed message hd hq hs)
          (completeMessage_moves message false callback hg)

theorem pushReply_moves {payloads : List Bytes} {payload : Bytes}
    (callback : Except Cause Bytes) {disposition : Except Cause AppcReceiveDisposition}
    (hx : x.payloads = payloads ++ [payload])
    (hs : disposition = .ok .normalDeallocation → s.setup = .closed)
    (hm : disposition = .ok .accepted → s.setup ≠ .closed)
    (hg : Considerate lax i s
      (s.pushReply codec i next x payloads payload callback disposition)) :
    Moves codec lax ⟨s, .exchange i x next .read⟩
      ⟨s.pushReply codec i next x payloads payload callback disposition, .idle⟩ := by
  revert hg
  match disposition with
  | .error cause => exact caught_moves rfl nofun
  | .ok .normalDeallocation =>
      cases hp : codec.pushTerminalDeallocation x.allowInitialReceive payloads payload with
      | error cause =>
          simp only [pushReply, hp]
          exact caught_moves rfl nofun
      | ok message =>
          cases ha : admitMessage codec x.allowInitialReceive x.payloads message with
          | error cause =>
              simp only [pushReply, hp, ha]
              exact caught_moves rfl nofun
          | ok u =>
              simp only [pushReply, hp, ha]
              exact fun hg => .one (.ended message ⟨payloads, payload, hx, by simpa using hp⟩
                (hs rfl) (hg.imp_right fun h => h terminateGeneration_closed))
  | .ok .accepted =>
      cases hp : codec.push x.allowInitialReceive payloads payload with
      | error cause =>
          simp only [pushReply, hp]
          exact caught_moves rfl nofun
      | ok result =>
          cases result with
          | none =>
              simp only [pushReply, hp]
              exact fun _ => .one (.readMore (hm rfl))
          | some message =>
              cases ha : admitMessage codec x.allowInitialReceive x.payloads message with
              | error cause =>
                  simp only [pushReply, hp, ha]
                  exact caught_moves rfl nofun
              | ok u =>
                  simp only [pushReply, hp, ha]
                  exact completeReply_moves callback ⟨payloads, payload, hx, by simpa using hp⟩

theorem receivedReply_moves {payload : Bytes} (callback : Except Cause Bytes)
    (hx : x.stage = .receiving (some (.ok payload)))
    (hg : Considerate lax i s (s.receivedReply codec i next x payload callback)) :
    Moves codec lax ⟨s, .exchange i x next .taken⟩
      ⟨s.receivedReply codec i next x payload callback, .idle⟩ := by
  refine .head (.read hx) (pushReply_moves callback rfl (fun hd => ?_) (fun hd => ?_) hg)
  · obtain ⟨cause, hr⟩ | ⟨-, hr⟩ | ⟨functionCode, state, -, hr⟩ :=
      s.setup.received_cases payload
    · rw [hr] at hd
      cases hd
    · exact congrArg Prod.fst hr
    · rw [hr] at hd
      cases hd
  · obtain ⟨cause, hr⟩ | ⟨-, hr⟩ | ⟨functionCode, state, hstate, hr⟩ :=
      s.setup.received_cases payload
    · rw [hr] at hd
      cases hd
    · rw [hr] at hd
      cases hd
    · have hsetup : (s.receivedFrame x payload (s.setup.received payload).1).setup = state :=
        congrArg Prod.fst hr
      rw [hsetup]
      exact AppcClientSetupState.afterReceived_ne_closed hstate

theorem receivedAcknowledgement_moves {index : Nat} {step : OutgoingStep}
    {rest : List OutgoingStep} {payload : Bytes}
    (hx : x.stage = .acknowledging index step rest (some (.ok payload))) :
    Moves codec lax ⟨s, .exchange i x next .taken⟩
      ⟨s.receivedAcknowledgement i next x index step rest payload, .idle⟩ := by
  have refused (setup : AppcClientSetupState)
      (hs : setup = s.setup ∨ setup = (s.setup.received payload).1 ∧
        ∃ acknowledgement, decodeAppcSynchronousSendAcknowledgement payload = .ok acknowledgement)
      (cause : Cause) :
      Moves codec lax ⟨s, .exchange i x next .taken⟩
        ⟨(s.receivedFrame x payload setup).failWriter i next x index cause, .idle⟩ :=
    .head (.acknowledged setup hx hs) (.single (.writerFailed index cause (.inr ⟨_, _, rfl⟩)))
  unfold receivedAcknowledgement
  cases hd : decodeAppcSynchronousSendAcknowledgement payload with
  | error cause => exact refused s.setup (.inl rfl) cause
  | ok decoded =>
      dsimp only
      split
      · exact refused s.setup (.inl rfl) _
      · split
        · rename_i setup cause hr
          exact refused setup (.inr ⟨by rw [hr], decoded, hd⟩) cause
        · rename_i setup disposition hr
          exact .head (.acknowledged setup hx (.inr ⟨by rw [hr], decoded, hd⟩)) (writeSteps_moves _ _)

/-- An exchange is not taken up while it waits for a frame. -/
theorem resumeExchange_isPending {callback : Except Cause Bytes}
    (h : s.resumeExchange codec i next x callback = some s') : x.stage.isPending = false := by
  unfold resumeExchange at h
  unfold ExchangeStage.isPending
  cases hx : x.stage with
  | acknowledging index step rest outcome =>
      cases outcome with
      | none =>
          rw [hx] at h
          cases h
      | some outcome => rfl
  | receiving outcome =>
      cases outcome with
      | none =>
          rw [hx] at h
          cases h
      | some outcome => rfl
  | _ => rfl

/-- The continuation of an exchange. -/
theorem resumeExchange_moves {callback : Except Cause Bytes}
    (h : s.resumeExchange codec i next x callback = some s') (hg : Considerate lax i s s') :
    Moves codec lax ⟨s, .exchange i x next .taken⟩ ⟨s', .idle⟩ := by
  unfold resumeExchange at h
  split at h
  · rename_i hx
    cases h
    exact .one (.writerFailed _ _ (.inl ⟨rfl, by rw [hx]; rfl⟩))
  · rename_i index step rest hx
    split at h
    · rename_i hf
      cases h
      exact .one (.awaitsAcknowledgement hx hf)
    · rename_i hf
      cases h
      exact .head (.sendAccepted hx hf) (writeSteps_moves _ _)
  · rename_i hx
    cases h
    exact .one (.writerFailed _ _ (.inl ⟨rfl, by rw [hx]; rfl⟩))
  · rename_i hx
    cases h
    exact receivedAcknowledgement_moves hx
  · rename_i hx
    cases h
    exact caught_moves rfl (fun _ => by rw [hx]; rfl) hg
  · rename_i hx
    cases h
    exact caught_moves rfl (fun _ => by rw [hx]; rfl) hg
  · rename_i hx
    cases h
    exact receivedReply_moves callback hx hg
  · rename_i message hx
    cases h
    exact .head (.completedEnded hx) (completeMessage_moves message true callback hg)
  · rename_i hx
    cases h
    exact .one (.failed hx)
  · cases h
  · cases h
  · cases h

theorem beginExchange_moves {request : Bytes} {allowCallbacks owned : Bool}
    (hg : Considerate lax i s (s.beginExchange codec i next request allowCallbacks owned))
    (hr : lax.refreshRefused ∨ (Pending s.trace i →
      Refreshing codec i (.exchange request allowCallbacks owned next) s)) :
    Moves codec lax ⟨s, .running i (.exchange request allowCallbacks owned next)⟩
      ⟨s.beginExchange codec i next request allowCallbacks owned, .idle⟩ := by
  revert hg
  unfold beginExchange
  by_cases hc : s.closed = true
  · rw [if_pos hc]
    exact fun _ => .one (.exchangeClosed next hc)
  · rw [if_neg hc]
    have hc : s.closed = false := by simpa using hc
    cases ha : s.assertExchangeAvailable (if owned then some i else none) with
    | error failure => exact fun _ => .one (.exchangeBusy next hc ha)
    | ok u =>
        cases hp : codec.planOutgoingRequest request with
        | error cause =>
            simp only
            intro _
            refine .one (.requestRefused next hc ha (hr.imp_right fun hr hpend => ?_))
            obtain ⟨outgoingPlan, hplan⟩ := hr hpend hc ha
            rw [hp] at hplan
            cases hplan
        | ok outgoingPlan =>
            simp only
            intro hg
            refine .head (.began outgoingPlan next hc ha) ?_
            revert hg
            cases hq : (s.takeSession i).transport.assertNoQueuedFrames with
            | error cause => exact queued_moves (s := s.takeSession i) rfl (.inl rfl)
            | ok u => exact write_moves (s := s.takeSession i) rfl (.inl ⟨rfl, hq⟩)

theorem decodeRegularResponse_moves {response : Bytes} {kind : ResponseKind}
    {next : Except Thrown (DecodedFields Fields) → Program Fields Value}
    (hg : Considerate lax i s (s.decodeRegularResponse codec i response kind next))
    (hr : lax.refreshRefused ∨ (Pending s.trace i →
      Refreshing codec i (.decodeRegularResponse response kind next) s)) :
    Moves codec lax ⟨s, .running i (.decodeRegularResponse response kind next)⟩
      ⟨s.decodeRegularResponse codec i response kind next, .idle⟩ := by
  revert hg
  unfold decodeRegularResponse
  cases hd : codec.decodeResultFields kind response with
  | error message =>
      exact fun hg => .one (.responseFailed _ next (by
        rw [RfcFailure.disposition_eq]
        exact nofun) (hg.imp_right fun h => h terminateGeneration_closed))
  | ok decoded =>
      dsimp only
      cases ho : decoded.outcome.category with
      | some category =>
          dsimp only
          split
          · rename_i hf
            have hcat : category = .abapException ∨ category = .abapRuntime ∨
                category = .abapMessage := by
              cases hout : decoded.outcome <;> rw [hout] at ho <;> cases ho <;> simp
            obtain ⟨rfl, horigin, hauth⟩ := (createRemoteRfcFailure_reusable hcat).mp hf
            have hs : s.setup ≠ .closed := by
              intro hs
              simp [responseOrigin, hs] at horigin
            intro _
            refine .one (.declaredException _ next hf rfl rfl hs ?_)
            refine hr.imp_right fun hr => ?_
            intro hpend
            obtain hclosed | hnot | hdecode := hr hpend
            · exact hs hclosed
            · cases hauth.symm.trans hnot
            · refine absurd ?_ (hdecode decoded hd)
              cases hout : decoded.outcome <;> rw [hout] at ho <;> cases ho
          · rename_i hf
            exact fun hg => .one (.responseFailed _ next hf
              (hg.imp_right fun h => h terminateGeneration_closed))
      | none =>
          dsimp only
          split
          · rename_i hs
            exact fun _ => .one (.deallocated next (by simpa using hs))
          · rename_i hs
            exact fun _ => .one (.answered decoded next (by simpa using hs))

/-- An operation is run up to its next await. -/
theorem run_moves (program : Program Fields Value) :
    ∀ s : DirectCpicSession Fields Value, Considerate lax i s (s.run codec i program) →
      (lax.deadSuccess ∨ Orderly codec i program s) →
      (lax.refreshRefused ∨ (Pending s.trace i → Refreshing codec i program s)) →
        Moves codec lax ⟨s, .running i program⟩ ⟨s.run codec i program, .idle⟩ := by
  induction program with
  | resolve value => exact fun s _ _ _ => .one (.resolved value)
  | reject e => exact fun s _ _ _ => .one (.rejected e)
  | authenticated next ih =>
      exact fun s hc hg hr => .head (.readAuthenticated next) (ih _ s hc hg hr)
  | sessionId next ih => exact fun s hc hg hr => .head (.readSessionId next) (ih _ s hc hg hr)
  | cached key next ih =>
      exact fun s hc hg hr => .head (.readDescriptor key next) (ih _ s hc hg hr)
  | store key value next ih =>
      exact fun s hc hg hr => .head (.stored key value next) (ih _ hc hg hr)
  | claim next ih =>
      intro s hc hg hr
      unfold run at hc ⊢
      unfold Orderly at hg
      unfold Refreshing at hr
      cases ha : s.assertExchangeAvailable none with
      | error failure =>
          rw [ha] at hc hg hr
          exact .head (.claimRefused next ha) (ih _ _ hc hg
            (hr.imp_right fun hr hpend => hr ((pending_cons (by simp)).mp hpend)))
      | ok u =>
          rw [ha] at hc hg hr
          exact .head (.claimed next ha) (ih _ _ hc hg hr)
  | release next ih =>
      intro s hc hg hr
      refine .head (.released next (hr.imp_right fun hr => ?_))
        (ih _ hc hg (hr.imp_right fun hr hpend => (hr hpend).2))
      by_cases hpend : Pending s.trace i
      · exact .inr (hr hpend).1
      · exact .inl hpend
  | tick next ih => exact fun s _ _ _ => .one (.ticked next)
  | exchange request allowCallbacks owned next ih =>
      exact fun s hc _ hr => beginExchange_moves hc hr
  | decodeRegularResponse response kind next ih =>
      exact fun s hc _ hr => decodeRegularResponse_moves hc hr
  | decodeFailed e next ih =>
      intro s hc _ _
      cases e with
      | bcdConversion message => exact .one (.bcdFailed message next)
      | malformed message =>
          exact .one (.valueMalformed message next
            (hc.imp_right fun h => h terminateGeneration_closed))
  | decodeLogon response cpicSessionId next ih =>
      intro s hc hg hr
      unfold run at hc ⊢
      unfold Orderly at hg
      unfold Refreshing at hr
      cases hd : codec.decodeCpicInitialLogonResponse response with
      | error message =>
          rw [hd] at hc
          exact .one (.logonFailed _ next (by
            rw [RfcFailure.disposition_eq]
            exact nofun) (hc.imp_right fun h => h terminateGeneration_closed))
      | ok reply =>
          rw [hd] at hc hg hr
          cases reply with
          | rejected status rejection =>
              exact .one (.logonFailed _ next (by
                rw [RfcFailure.disposition_eq]
                exact nofun) (hc.imp_right fun h => h terminateGeneration_closed))
          | success value =>
              exact .head (.loggedOn value next (hg.imp_right fun hg => hg.1))
                (ih _ _ hc (hg.imp_right fun hg => hg.2)
                  (hr.imp_right fun hr hpend => hr ((pending_cons (by simp)).mp hpend)))

/-- The program which a step runs up to its next await, and the session it finds. -/
def ran (codec : Codec Fields Value) (s : DirectCpicSession Fields Value) :
    Event Fields Value → Option (Nat × Program Fields Value × DirectCpicSession Fields Value)
  | .call c => some (s.operations.length, c.program codec, s.addOperation codec c)
  | .resume i _ =>
      match s.operations[i]? with
      | some ⟨_, _, .awaiting program⟩ => some (i, program, s)
      | _ => none
  | _ => none

/-- The steps of the runs in which an operation succeeds on a live session only: invocations
with metadata are made on an authenticated session, no logon is accepted from a reply which
ended the conversation, and no step closes the session while the reply of another operation
is being processed. -/
structure LiveSuccess (codec : Codec Fields Value) (s : DirectCpicSession Fields Value)
    (e : Event Fields Value) : Prop where
  invocation : ∀ c, e = .call c → c.isInvocation = true → s.authenticated = true
  logon : ∀ i program t, s.ran codec e = some (i, program, t) → Orderly codec i program t
  closing : ∀ s', s.step codec e = some s' → s.closed = false → s'.closed = true →
    ∀ j, (∀ callback, e ≠ .resume j callback) → ¬ s.Processing j

/-- The steps of runs in which a session which has been reset is refreshed. -/
def Refreshed (codec : Codec Fields Value) (s : DirectCpicSession Fields Value)
    (e : Event Fields Value) : Prop :=
  ∀ i program t, s.ran codec e = some (i, program, t) → Pending t.trace i →
    Refreshing codec i program t

theorem settleSend_moves {outcome : Except Cause Unit}
    (h : s.settleSend i outcome = some s') : Moves codec lax ⟨s, .idle⟩ ⟨s', .idle⟩ := by
  unfold settleSend at h
  split at h
  · rename_i x next index step rest hsend
    unfold sending at hsend
    split at hsend
    · rename_i ho
      split at hsend
      · rename_i hx
        cases hsend
        have hmove := @Move.sendSettled _ _ codec lax _ _ _ _ _ _ _ _ outcome ho rfl hx
        cases outcome with
        | ok u =>
            cases h
            exact .one hmove
        | error cause =>
            cases h
            exact .head hmove (.single (.transportFailed cause))
      · cases hsend
    · cases hsend
  · cases h

/-- A call which has not begun processes no reply. -/
theorem quiet_addOperation {c : Call Fields Value}
    (h : ∀ j, ¬ s.Processing j) : (s.addOperation codec c).Quiet s.operations.length := by
  rintro j hj ⟨o, ho, hreply, hstage⟩
  refine h j ⟨o, ?_, hreply, hstage⟩
  obtain ⟨hlt, -⟩ := List.getElem?_eq_some_iff.mp ho
  have hlt : j < s.operations.length := by
    simp only [addOperation, List.length_append, List.length_cons, List.length_nil] at hlt
    omega
  simpa [addOperation, List.getElem?_append_left hlt] using ho

/-- What a step does to the session, it does under the guard of the step. -/
theorem LiveSuccess.considerate {e : Event Fields Value} {callback : Except Cause Bytes}
    (hg : lax.deadSuccess ∨ s.LiveSuccess codec e) (he : e = .resume i callback)
    (h : s.step codec e = some s') : Considerate lax i s s' := by
  refine hg.imp_right fun hg hclosed => ?_
  cases hc : s.closed with
  | true => exact .inl rfl
  | false =>
      refine .inr fun j hj => hg.closing s' h hc hclosed j fun callback' hcb => hj ?_
      rw [he] at hcb
      cases hcb
      rfl

/-- Every step is a sequence of moves. -/
theorem step_moves {e : Event Fields Value} (h : s.step codec e = some s')
    (hg : lax.deadSuccess ∨ s.LiveSuccess codec e)
    (hr : lax.refreshRefused ∨ s.Refreshed codec e) :
    Moves codec lax ⟨s, .idle⟩ ⟨s', .idle⟩ := by
  cases e with
  | call c =>
      have hcall : Considerate lax s.operations.length (s.addOperation codec c) s' := by
        refine hg.imp_right fun hg hclosed => ?_
        cases hc : s.closed with
        | true => exact .inl hc
        | false => exact .inr (quiet_addOperation fun j => hg.closing s' h hc hclosed j nofun)
      cases h
      exact .head (.called c (hg.imp_right fun hg => hg.invocation c rfl))
        (run_moves _ _ hcall (hg.imp_right fun hg => hg.logon _ _ _ rfl)
          (hr.imp_right fun hr => hr _ _ _ rfl))
  | close =>
      have hclose : s.close.closed = true → s.closed = false →
          lax.deadSuccess ∨ ∀ j, ¬ s.Processing j := fun hclosed hc =>
        hg.imp_right fun hg j => hg.closing s.close rfl hc hclosed j nofun
      cases h
      by_cases hc : s.closed = true ∨ s.busy = true ∨ s.compoundOperationOwner ≠ none
      · have : s.close = s := by
          unfold DirectCpicSession.close
          rw [if_pos hc]
        rw [this]
        exact .refl
      · have hclosed := close_closed hc
        simp only [not_or, not_not, Bool.not_eq_true] at hc
        exact .one (.closed hc.1 hc.2.1 hc.2.2 (hclose hclosed hc.1))
  | settleSend i outcome => exact settleSend_moves h
  | arrive frame =>
      unfold step at h
      dsimp only at h
      split at h
      · rename_i ho
        cases h
        exact .one (.arrived frame ho)
      · cases h
  | failTransport code message =>
      unfold step at h
      dsimp only at h
      split at h
      · cases h
        exact .one (.transportFailed _)
      · cases h
  | resume i callback =>
      have hconsiderate := LiveSuccess.considerate hg rfl h
      unfold step at h
      dsimp only at h
      split at h
      · rename_i o ho
        obtain ⟨call, reply, stage⟩ := o
        cases stage with
        | exchanging x next =>
            exact .head (.taken ho rfl (resumeExchange_isPending h))
              (resumeExchange_moves h hconsiderate)
        | awaiting program =>
            cases h
            have hran : s.ran codec (.resume i callback) = some (i, program, s) := by
              simp only [DirectCpicSession.ran, ho]
            exact .head (.resumed ho rfl) (run_moves _ _ hconsiderate
              (hg.imp_right fun hg => hg.logon _ _ _ hran)
              (hr.imp_right fun hr => hr _ _ _ hran))
        | terminating failure program =>
            cases h
            exact .one (.threwTerminated ho rfl)
        | resolved value => cases h
        | rejected e => cases h
      · cases h
  | finishClose =>
      unfold step at h
      dsimp only at h
      split at h
      · rename_i hd
        cases h
        exact .one (.closeFinished hd)
      · cases h

end DirectCpicSession

/-- Every behaviour. -/
def Lax.all : Lax := ⟨True, True⟩

/-- What every move preserves holds in every state of every run. -/
theorem invariant_reachable {codec : Codec Fields Value} {P : Turn Fields Value → Prop}
    (hinit : P ⟨.initial, .idle⟩) (hmove : ∀ d d', P d → Move codec .all d d' → P d')
    {s : DirectCpicSession Fields Value} (hs : (machine codec).Reachable s) : P ⟨s, .idle⟩ :=
  Machine.Reachable.invariant (M := machine codec) (P := fun s => P ⟨s, .idle⟩) hinit
    (fun _ _ _ _ hp he => Moves.invariant hmove
      (DirectCpicSession.step_moves he (.inl trivial) (.inl trivial)) hp) hs

/-- What every move of guarded runs preserves holds in every state of every such run. -/
theorem invariant_reachableUnder {codec : Codec Fields Value} {lax : Lax}
    {guard : DirectCpicSession Fields Value → Event Fields Value → Prop}
    {P : Turn Fields Value → Prop}
    (hguard : ∀ s e, guard s e →
      (lax.deadSuccess ∨ s.LiveSuccess codec e) ∧ (lax.refreshRefused ∨ s.Refreshed codec e))
    (hinit : P ⟨.initial, .idle⟩) (hmove : ∀ d d', P d → Move codec lax d d' → P d')
    {s : DirectCpicSession Fields Value} (hs : (machine codec).ReachableUnder guard s) :
    P ⟨s, .idle⟩ :=
  Machine.ReachableUnder.invariant (M := machine codec) (P := fun s => P ⟨s, .idle⟩) hinit
    (fun s e _ _ hp hg he => Moves.invariant hmove
      (DirectCpicSession.step_moves he (hguard s e hg).1 (hguard s e hg).2) hp) hs

end OpenRfc.DirectCpic
