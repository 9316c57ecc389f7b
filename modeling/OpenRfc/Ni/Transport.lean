import OpenRfc.Foundation.Machine
import OpenRfc.Ni.Frame

/-!
A connection which carries records: frames are handed to a pending `receive`, or queued while
the socket is paused. Chunks, calls, aborts, timers and the events of the socket come in any
order. A scheduler may run callbacks while a timer is set, and may throw; one which was cleared
can still run, since `clearTimeout` may throw.
-/

namespace OpenRfc.Ni

inductive NiTransportErrorCode
  | aborted
  | connectFailed
  | connectTimeout
  | connectionClosed
  | protocolError
  | receiveTimeout
  | writeTimeout
  | writeFailed
deriving DecidableEq, Repr

structure NiTransportError where
  code : NiTransportErrorCode
  message : String
deriving DecidableEq, Repr

/-- What a call is rejected with. -/
inductive Rejection
  | transport (error : NiTransportError)
  | range (message : String)
  | error (message : String)
deriving DecidableEq, Repr

structure NiSocketSettings where
  maxPayloadLength : Nat
  maxQueuedPayloadLength : Nat
  maxQueuedFrameCount : Nat
  writeTimeoutMs : Nat
  closeTimeoutMs : Nat

inductive NiSocketState
  | «open»
  | closing
  | closed
deriving DecidableEq, Repr

/-- The promise of a `receive` which waits for a frame. -/
structure PendingReceive where
  id : Nat
  /-- It listens to its signal. -/
  onAbort : Bool
deriving DecidableEq, Repr

/-- The promise of a `send`. -/
structure SendCall where
  onAbort : Bool
  settled : Bool
  /-- The socket has not called back. -/
  writing : Bool
deriving DecidableEq, Repr

inductive Timer
  | receive (timeoutMs : Nat)
  | send (i : Nat)
  | close
deriving DecidableEq, Repr

inductive Observation
  | delivered (i : Nat) (frame : Bytes)
  | receiveRejected (i : Nat) (reason : Rejection)
  | sendSettled (i : Nat) (outcome : Except Rejection Unit)
  /-- The socket has been given the bytes. -/
  | wrote (i : Nat) (bytes : Bytes)
  /-- The connection has failed, timed out, been aborted or been closed. -/
  | terminated

structure NiSocketTransport where
  state : NiSocketState
  decoder : NiFrameDecoder
  frames : List Bytes
  queuedPayloadLength : Nat
  pausedForQueue : Bool
  pendingReceive : Option PendingReceive
  terminalError : Option NiTransportError
  /-- The promise of `close`, and whether it has settled. -/
  closePromise : Option Bool
  receives : Nat
  sends : List SendCall
  /-- The callbacks which the scheduler has been given. -/
  timers : List Timer
  paused : Bool
  destroyed : Bool
  /-- What the socket has emitted. -/
  incoming : Bytes
  trace : List Observation

/-- An abort signal at a call: whether it is aborted before, and once its listener is added. -/
structure SignalView where
  before : Bool
  after : Bool

/-- What a scheduler does when a timer is set. -/
structure SetTimeout where
  fires : List Timer
  throws : Bool

structure NiReceiveOptions where
  timeoutMs : Int
  signal : Option SignalView

inductive Event
  | data (chunk : Bytes) (pauseThrows : Bool)
  | receive (options : NiReceiveOptions) (scheduler : SetTimeout) (resumeThrows : Bool)
  | abortReceive
  | send (payload : Bytes) (signal : Option SignalView) (scheduler : SetTimeout)
      (writeThrows : Bool)
  | abortSend (i : Nat)
  /-- The callback of a write. -/
  | written (i : Nat) (failed : Bool)
  | fire (timer : Timer)
  | close (scheduler : SetTimeout) (endThrows : Bool)
  | assertNoQueuedFrames
  | socketEnd
  | socketError
  | socketClose

namespace NiSocketTransport

def initial : NiSocketTransport where
  state := .open
  decoder := .empty
  frames := []
  queuedPayloadLength := 0
  pausedForQueue := false
  pendingReceive := none
  terminalError := none
  closePromise := none
  receives := 0
  sends := []
  timers := []
  paused := false
  destroyed := false
  incoming := []
  trace := []

def observe (s : NiSocketTransport) (o : Observation) : NiSocketTransport :=
  { s with trace := o :: s.trace }

def rejectReceive (s : NiSocketTransport) (i : Nat) (reason : Rejection) : NiSocketTransport :=
  s.observe (.receiveRejected i reason)

def rejectPending (s : NiSocketTransport) (error : NiTransportError) : NiSocketTransport :=
  match s.pendingReceive with
  | none => s
  | some pending =>
    { s with pendingReceive := none }.rejectReceive pending.id (.transport error)

def clearQueuedFrames (s : NiSocketTransport) : NiSocketTransport :=
  { s with frames := [], queuedPayloadLength := 0 }

def destroy (s : NiSocketTransport) : NiSocketTransport := { s with destroyed := true }

def fail (s : NiSocketTransport) (error : NiTransportError) : NiSocketTransport :=
  if s.state = .closed then s
  else
    let error := s.terminalError.getD error
    let s := { s with terminalError := some error, state := .closed }.observe .terminated
    let s := (s.rejectPending error).clearQueuedFrames
    { s with decoder := s.decoder.reset }.destroy

section Sends

def settleSend (s : NiSocketTransport) (i : Nat) (error : Option NiTransportError) :
    NiSocketTransport :=
  match s.sends[i]? with
  | some x =>
    if x.settled then s
    else
      let s := { s with sends := s.sends.set i { x with settled := true } }
      match error with
      | none => s.observe (.sendSettled i (.ok ()))
      | some error =>
        (s.fail error).observe (.sendSettled i (.error (.transport error)))
  | none => s

def isSettled (s : NiSocketTransport) (i : Nat) : Bool :=
  (s.sends[i]?).any SendCall.settled

end Sends

section Timers

def settleClose (s : NiSocketTransport) (destroy : Bool) : NiSocketTransport :=
  if s.closePromise = some false then
    let s := if destroy then s.destroy else s
    { s with closePromise := some true, state := .closed }
  else s

/-- The callback of a timer. -/
def fire (cfg : NiSocketSettings) (s : NiSocketTransport) : Timer → NiSocketTransport
  | .receive timeoutMs =>
    s.fail ⟨.receiveTimeout, s!"NI receive timed out after {timeoutMs} ms"⟩
  | .send i =>
    s.settleSend i
      (some ⟨.writeTimeout, s!"NI write timed out after {cfg.writeTimeoutMs} ms"⟩)
  | .close => s.settleClose true

def fireTimer (cfg : NiSocketSettings) (s : NiSocketTransport) (timer : Timer) :
    NiSocketTransport :=
  if timer ∈ s.timers then s.fire cfg timer else s

def setTimeout (cfg : NiSocketSettings) (s : NiSocketTransport) (timer : Timer)
    (scheduler : SetTimeout) : NiSocketTransport :=
  scheduler.fires.foldl (fireTimer cfg) { s with timers := timer :: s.timers }

end Timers

section Calls

def closedError (s : NiSocketTransport) (message : String) : NiTransportError :=
  s.terminalError.getD ⟨.connectionClosed, message⟩

def assertNoQueuedFrames (s : NiSocketTransport) : NiSocketTransport :=
  if s.state ≠ .open ∨ s.frames = [] then s
  else s.fail ⟨.protocolError, "unexpected queued NI frame at a request boundary"⟩

/-- The executor of the promise of a `send`, up to the write. -/
def armSend (cfg : NiSocketSettings) (s : NiSocketTransport) (i : Nat)
    (signal : Option SignalView) (scheduler : SetTimeout) : NiSocketTransport :=
  let s := if signal.any SignalView.after then
      s.settleSend i (some ⟨.aborted, "NI write was aborted"⟩)
    else s
  if cfg.writeTimeoutMs ≠ 0 ∧ s.isSettled i = false then
    let s := s.setTimeout cfg (.send i) scheduler
    if scheduler.throws then
      s.settleSend i (some ⟨.writeFailed, "NI write timer scheduler failed"⟩)
    else s
  else s

/-- The executor of the promise of a `send`, from the write on. -/
def writeFrame (s : NiSocketTransport) (i : Nat) (frame : Bytes) (writeThrows : Bool) :
    NiSocketTransport :=
  if s.isSettled i then s
  else if writeThrows then
    s.settleSend i (some ⟨.writeFailed, "failed to write NI frame"⟩)
  else
    let sends := s.sends.modify i fun x => { x with writing := true }
    let s := { s with sends }
    -- A socket which has been destroyed writes nothing and calls back with an error.
    if s.destroyed then s else s.observe (.wrote i frame)

/-- A `send` which settles before it has a promise of its own. -/
def refuseSend (s : NiSocketTransport) (reason : Rejection) : NiSocketTransport :=
  { s with sends := s.sends ++ [SendCall.mk false true false] }.observe
    (.sendSettled s.sends.length (.error reason))

def send (cfg : NiSocketSettings) (s : NiSocketTransport) (payload : Bytes)
    (signal : Option SignalView) (scheduler : SetTimeout) (writeThrows : Bool) :
    NiSocketTransport :=
  if s.state ≠ .open then
    s.refuseSend (.transport (s.closedError "cannot write to a closed NI socket"))
  else if signal.any SignalView.before then
    let error : NiTransportError := ⟨.aborted, "NI write was aborted before it started"⟩
    (s.fail error).refuseSend (.transport error)
  else match encodeNiFrame payload with
    | .error message => s.refuseSend (.range message)
    | .ok frame =>
      let i := s.sends.length
      let s := { s with sends := s.sends ++ [SendCall.mk signal.isSome false false] }
      (s.armSend cfg i signal scheduler).writeFrame i frame writeThrows

/-- The socket is resumed when the last queued frame has been taken. Where that throws, so does
the `receive`. -/
def resumeAfterQueue (s : NiSocketTransport) (resumeThrows : Bool) :
    Option NiTransportError × NiSocketTransport :=
  if s.pausedForQueue = false ∨ s.state ≠ .open then (none, s)
  else
    let s := { s with pausedForQueue := false }
    if resumeThrows then
      let error : NiTransportError :=
        ⟨.connectionClosed, "NI socket could not resume after queued frames were drained"⟩
      (some error, s.fail error)
    else (none, { s with paused := false })

/-- A queued frame is taken. -/
def takeFrame (s : NiSocketTransport) (i : Nat) (frame : Bytes) (frames : List Bytes)
    (resumeThrows : Bool) : NiSocketTransport :=
  let s := { s with frames, queuedPayloadLength := s.queuedPayloadLength - frame.length }
  let (error, s) := if frames = [] then s.resumeAfterQueue resumeThrows else (none, s)
  match error with
  | none => s.observe (.delivered i frame)
  | some error => s.rejectReceive i (.transport error)

/-- The executor of the promise of a `receive`. -/
def awaitFrame (cfg : NiSocketSettings) (s : NiSocketTransport) (i : Nat) (timeoutMs : Nat)
    (signal : Option SignalView) (scheduler : SetTimeout) : NiSocketTransport :=
  let pending : PendingReceive := ⟨i, signal.isSome⟩
  let s := { s with pendingReceive := some pending }
  let s := if signal.any SignalView.after then
      s.fail ⟨.aborted, "NI receive was aborted"⟩
    else s
  if timeoutMs ≠ 0 ∧ s.pendingReceive = some pending then
    let s := s.setTimeout cfg (.receive timeoutMs) scheduler
    if scheduler.throws then
      s.fail ⟨.connectionClosed, "NI receive timer scheduler failed"⟩
    else s
  else s

def receive (cfg : NiSocketSettings) (s : NiSocketTransport) (options : NiReceiveOptions)
    (scheduler : SetTimeout) (resumeThrows : Bool) : NiSocketTransport :=
  let i := s.receives
  let s := { s with receives := i + 1 }
  if options.timeoutMs < 0 ∨ options.timeoutMs > 0x7fff_ffff then
    s.rejectReceive i (.range "timeoutMs must be an integer in 0..2147483647")
  else if s.state ≠ .open then
    s.rejectReceive i (.transport (s.closedError "cannot read from a closed NI socket"))
  else if options.signal.any SignalView.before then
    let error : NiTransportError := ⟨.aborted, "NI receive was aborted before it started"⟩
    (s.fail error).rejectReceive i (.transport error)
  else match s.frames with
    | frame :: frames => s.takeFrame i frame frames resumeThrows
    | [] =>
      if s.pendingReceive.isSome then
        s.rejectReceive i (.error "only one NI receive may be pending on a connection")
      else s.awaitFrame cfg i options.timeoutMs.toNat options.signal scheduler

/-- The executor of the promise of `close`. The socket is ended unless the promise has
settled. -/
def endSocket (cfg : NiSocketSettings) (s : NiSocketTransport) (scheduler : SetTimeout)
    (endThrows : Bool) : NiSocketTransport :=
  let s : NiSocketTransport := if cfg.closeTimeoutMs ≠ 0 then
      let s := s.setTimeout cfg .close scheduler
      if scheduler.throws then s.settleClose true else s
    else s
  if s.closePromise = some false ∧ endThrows then s.settleClose true else s

def close (cfg : NiSocketSettings) (s : NiSocketTransport) (scheduler : SetTimeout)
    (endThrows : Bool) : NiSocketTransport :=
  if s.closePromise.isSome ∨ s.state = .closed then s
  else
    let s := { s with state := .closing }.observe .terminated
    let s := s.rejectPending ⟨.connectionClosed, "NI socket was closed locally"⟩
    let s := s.clearQueuedFrames
    let s := { s with decoder := s.decoder.reset, closePromise := some false }
    s.endSocket cfg scheduler endThrows

end Calls

section SocketEvents

/-- The bytes of frames which would be queued. -/
def payloadLength (frames : List Bytes) : Nat := (frames.map List.length).sum

/-- The frames which a pending `receive` takes directly. -/
def consumedByPending (s : NiSocketTransport) (frames : List Bytes) : Nat :=
  if s.pendingReceive.isNone ∨ frames = [] then 0 else 1

def preflightDecodedFrames (cfg : NiSocketSettings) (s : NiSocketTransport)
    (frames : List Bytes) : Bool :=
  let consumed := s.consumedByPending frames
  decide (s.frames.length + (frames.length - consumed) ≤ cfg.maxQueuedFrameCount) &&
    decide (s.queuedPayloadLength + payloadLength (frames.drop consumed) ≤
      cfg.maxQueuedPayloadLength)

/-- Nothing where the limits of the queue are exceeded. -/
def queueFrame (cfg : NiSocketSettings) (s : NiSocketTransport) (frame : Bytes) :
    Option NiSocketTransport :=
  let queuedPayloadLength := s.queuedPayloadLength + frame.length
  if s.frames.length ≥ cfg.maxQueuedFrameCount ∨
      queuedPayloadLength > cfg.maxQueuedPayloadLength then
    none
  else some { s with frames := s.frames ++ [frame], queuedPayloadLength }

/-- The decoded frames in their order, until one cannot be queued. -/
def handOver (cfg : NiSocketSettings) (s : NiSocketTransport) :
    List Bytes → Bool × NiSocketTransport
  | [] => (true, s)
  | frame :: frames =>
    match s.pendingReceive with
    | some pending =>
      ({ s with pendingReceive := none }.observe (.delivered pending.id frame)).handOver cfg
        frames
    | none =>
      match s.queueFrame cfg frame with
      | some s => s.handOver cfg frames
      | none => (false, s)

/-- Nothing where the socket throws. -/
def pauseForQueue (s : NiSocketTransport) (pauseThrows : Bool) : Option NiSocketTransport :=
  if s.pausedForQueue then some s
  else if pauseThrows then none
  else some { s with paused := true, pausedForQueue := true }

/-- The socket is paused where frames are left for the queue. -/
def pauseBefore (s : NiSocketTransport) (queuedFrameCount : Nat) (pauseThrows : Bool) :
    Option NiSocketTransport :=
  if queuedFrameCount > 0 then s.pauseForQueue pauseThrows else some s

def protocolFailure (s : NiSocketTransport) : NiSocketTransport :=
  s.fail ⟨.protocolError, "invalid NI stream"⟩

/-- The frames of one chunk, once they have been decoded. -/
def onFrames (cfg : NiSocketSettings) (s : NiSocketTransport) (frames : List Bytes)
    (pauseThrows : Bool) : NiSocketTransport :=
  if s.preflightDecodedFrames cfg frames then
    match s.pauseBefore (frames.length - s.consumedByPending frames) pauseThrows with
    | none => s.protocolFailure
    | some s =>
      match s.handOver cfg frames with
      | (true, s) => s
      | (false, s) => s.protocolFailure
  else s.protocolFailure

def onData (cfg : NiSocketSettings) (s : NiSocketTransport) (chunk : Bytes)
    (pauseThrows : Bool) : NiSocketTransport :=
  let s := { s with incoming := s.incoming ++ chunk }
  if s.state ≠ .open then s
  else match s.decoder.push cfg.maxPayloadLength chunk with
    | .error _ => s.protocolFailure
    | .ok (frames, decoder) => { s with decoder }.onFrames cfg frames pauseThrows

def onEnd (s : NiSocketTransport) : NiSocketTransport :=
  if s.state ≠ .open then s
  else match s.decoder.finish with
    | .ok () => s.fail ⟨.connectionClosed, "NI peer ended the connection"⟩
    | .error _ => s.fail ⟨.protocolError, "NI peer ended a truncated frame"⟩

def onClose (s : NiSocketTransport) : NiSocketTransport :=
  match s.state with
  | .closing => { s with state := .closed }
  | .open => s.fail ⟨.connectionClosed, "NI socket closed unexpectedly"⟩
  | .closed => s

end SocketEvents

def step (cfg : NiSocketSettings) (s : NiSocketTransport) : Event → Option NiSocketTransport
  | .data chunk pauseThrows => some (s.onData cfg chunk pauseThrows)
  | .receive options scheduler resumeThrows =>
    some (s.receive cfg options scheduler resumeThrows)
  | .abortReceive =>
    match s.pendingReceive with
    | some ⟨_, true⟩ => some (s.fail ⟨.aborted, "NI receive was aborted"⟩)
    | _ => none
  | .send payload signal scheduler writeThrows =>
    some (s.send cfg payload signal scheduler writeThrows)
  | .abortSend i =>
    match s.sends[i]? with
    | some ⟨true, false, _⟩ => some (s.settleSend i (some ⟨.aborted, "NI write was aborted"⟩))
    | _ => none
  | .written i failed =>
    match s.sends[i]? with
    | some ⟨onAbort, settled, true⟩ =>
      let s := { s with sends := s.sends.set i ⟨onAbort, settled, false⟩ }
      some (s.settleSend i
        (if failed then some ⟨.writeFailed, "failed to write NI frame"⟩ else none))
    | _ => none
  | .fire timer => if timer ∈ s.timers then some (s.fire cfg timer) else none
  | .close scheduler endThrows => some (s.close cfg scheduler endThrows)
  | .assertNoQueuedFrames => some s.assertNoQueuedFrames
  | .socketEnd => some s.onEnd
  | .socketError => some (s.fail ⟨.connectionClosed, "NI socket failed"⟩)
  | .socketClose => some (s.onClose.settleClose false)

end NiSocketTransport

def transport (cfg : NiSocketSettings) : Machine NiSocketTransport Event :=
  ⟨.initial, NiSocketTransport.step cfg⟩

end OpenRfc.Ni
