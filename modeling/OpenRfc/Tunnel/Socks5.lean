import OpenRfc.Foundation.Bytes
import OpenRfc.Foundation.Machine
import OpenRfc.Foundation.History
import OpenRfc.Foundation.Streams

/-!
The negotiation of a SOCKS5 tunnel with the JWT method: a loop over three phases consumes the
responses of the proxy from a buffer, while an abort, a timeout, a failed write and the events
of the socket can end it at any point.
-/

namespace OpenRfc.Tunnel

def SOCKS_VERSION : UInt8 := 0x05
def JWT_AUTHENTICATION_METHOD : UInt8 := 0x80
def JWT_AUTHENTICATION_VERSION : UInt8 := 0x01
def DOMAIN_ADDRESS : UInt8 := 0x03
def IPV4_ADDRESS : UInt8 := 0x01
def IPV6_ADDRESS : UInt8 := 0x04

inductive ConnectivitySocks5ErrorCode
  | aborted
  | authenticationRejected
  | connectionClosed
  | connectFailed
  | connectRejected
  | connectTimeout
  | protocolError
  | timeout
  | writeFailed
deriving DecidableEq, Repr

structure ConnectivitySocks5Error where
  code : ConnectivitySocks5ErrorCode
  message : String
  replyCode : Option UInt8
deriving DecidableEq, Repr

/-- What the negotiation reads of its configuration. -/
structure AdmittedConnectivitySocks5Config where
  maxBufferedBytes : Nat

inductive HandshakePhase
  | methodResponse
  | authenticationResponse
  | connectResponse
deriving DecidableEq, Repr

inductive Frame
  | method
  | authentication
  | connect
deriving DecidableEq, Repr

/-- What the loop finds at the front of the buffer. -/
inductive Response
  | incomplete
  | failed (error : ConnectivitySocks5Error)
  /-- A response of two bytes, which the next request answers. -/
  | accepted (next : HandshakePhase) (request : Frame)
  | connected (responseLength : Nat)
deriving DecidableEq, Repr

def protocolError (message : String) : ConnectivitySocks5Error := ⟨.protocolError, message, none⟩

/-- The body of the loop, up to its effects. -/
def readResponse : HandshakePhase → Bytes → Response
  | .methodResponse, version :: method :: _ =>
    if version ≠ SOCKS_VERSION then
      .failed (protocolError
        "Connectivity SOCKS5 proxy returned an unsupported protocol version")
    else if method ≠ JWT_AUTHENTICATION_METHOD then
      .failed ⟨.authenticationRejected,
        "Connectivity SOCKS5 proxy did not accept JWT authentication", none⟩
    else .accepted .authenticationResponse .authentication
  | .authenticationResponse, version :: status :: _ =>
    if version ≠ JWT_AUTHENTICATION_VERSION then
      .failed (protocolError
        "Connectivity SOCKS5 proxy returned an unsupported authentication version")
    else if status ≠ 0x00 then
      .failed ⟨.authenticationRejected,
        "Connectivity SOCKS5 proxy rejected authentication", none⟩
    else .accepted .connectResponse .connect
  | .connectResponse, version :: replyCode :: reserved :: addressType :: address =>
    let length := 4 + address.length
    if version ≠ SOCKS_VERSION ∨ reserved ≠ 0x00 then
      .failed (protocolError
        "Connectivity SOCKS5 proxy returned a malformed CONNECT response")
    else if replyCode ≠ 0x00 then
      .failed ⟨.connectRejected,
        "Connectivity SOCKS5 proxy rejected the target connection", some replyCode⟩
    else if addressType = IPV4_ADDRESS then
      if length < 10 then .incomplete else .connected 10
    else if addressType = DOMAIN_ADDRESS then
      match address with
      | [] => .incomplete
      | domainLength :: _ =>
        if domainLength = 0 then
          .failed (protocolError
            "Connectivity SOCKS5 proxy returned an empty bound domain")
        else
          let responseLength := 7 + domainLength.toNat
          if length < responseLength then .incomplete else .connected responseLength
    else if addressType = IPV6_ADDRESS then
      if length < 22 then .incomplete else .connected 22
    else .failed (protocolError
      "Connectivity SOCKS5 proxy returned an unsupported address type")
  | _, _ => .incomplete

inductive TunnelObservation
  | received (chunk : Bytes)
  | wrote (frame : Frame)
  | settled
deriving DecidableEq, Repr

structure Socks5Tunnel where
  /-- What the promise has settled with: an error, or the initial data. -/
  outcome : Option (Except ConnectivitySocks5Error Bytes)
  phase : HandshakePhase
  buffered : Bytes
  /-- The listeners of the socket and of the signal are installed. -/
  listening : Bool
  /-- The scheduler has been given the callback. -/
  timerSet : Bool
  /-- The callbacks of the writes which the socket has not called. -/
  pendingWrites : List Frame
  paused : Bool
  destroyed : Bool
  /-- What ended the negotiation was not a response of the proxy. -/
  interrupted : Bool
  incoming : Bytes
  /-- What has come in after the promise settled. -/
  later : Bytes
  trace : List TunnelObservation

/-- What the caller, the socket and the scheduler do while the tunnel is set up. -/
structure Setup where
  abortedBefore : Bool
  listenersThrow : Bool
  abortedAfter : Bool
  timerFires : Bool
  timerThrows : Bool
  writeThrows : Bool

inductive TunnelEvent
  /-- Which writes throw, and whether pausing does. -/
  | data (chunk : Bytes) (writeThrows : Frame → Bool) (pauseThrows : Bool)
  /-- A chunk which is no buffer. -/
  | text
  | written (frame : Frame) (failed : Bool)
  | error
  | «end»
  | close
  | abort
  | timeout

namespace Socks5Tunnel

def initial : Socks5Tunnel where
  outcome := none
  phase := .methodResponse
  buffered := []
  listening := false
  timerSet := false
  pendingWrites := []
  paused := false
  destroyed := false
  interrupted := false
  incoming := []
  later := []
  trace := []

def observe (s : Socks5Tunnel) (o : TunnelObservation) : Socks5Tunnel :=
  { s with trace := o :: s.trace }

def cleanup (s : Socks5Tunnel) : Socks5Tunnel := { s with listening := false }

def fail (s : Socks5Tunnel) (error : ConnectivitySocks5Error) : Socks5Tunnel :=
  if s.outcome.isSome then s
  else { s.cleanup with
    buffered := []
    destroyed := true
    outcome := some (.error error) }.observe .settled

/-- A failure which no response of the proxy causes. -/
def interrupt (s : Socks5Tunnel) (error : ConnectivitySocks5Error) : Socks5Tunnel :=
  if s.outcome.isSome then s else { s with interrupted := true }.fail error

def succeed (s : Socks5Tunnel) (responseLength : Nat) (pauseThrows : Bool) : Socks5Tunnel :=
  if s.outcome.isSome then s
  else
    let initialData := s.buffered.drop responseLength
    let s := { s with buffered := [] }
    if pauseThrows then
      s.interrupt
        (protocolError "Connectivity SOCKS5 socket could not be paused for handoff")
    else
      { s.cleanup with paused := true, outcome := some (.ok initialData) }.observe .settled

def writeFailed : ConnectivitySocks5Error :=
  ⟨.writeFailed, "Connectivity SOCKS5 request write failed", none⟩

def send (s : Socks5Tunnel) (frame : Frame) (throws : Bool) : Socks5Tunnel :=
  if s.outcome.isSome then s
  else if throws then s.interrupt writeFailed
  else { s with pendingWrites := s.pendingWrites ++ [frame] }.observe (.wrote frame)

/-- The loop. Every round which goes on moves to the next of three phases. -/
def process (writeThrows : Frame → Bool) (pauseThrows : Bool) : Nat → Socks5Tunnel → Socks5Tunnel
  | 0, s => s
  | fuel + 1, s =>
    if s.outcome.isSome then s
    else match readResponse s.phase s.buffered with
      | .incomplete => s
      | .failed error => s.fail error
      | .accepted next request =>
        let s := { s with buffered := s.buffered.drop 2, phase := next }
        process writeThrows pauseThrows fuel (s.send request (writeThrows request))
      | .connected responseLength => s.succeed responseLength pauseThrows

def boundExceeded : ConnectivitySocks5Error :=
  protocolError "Connectivity SOCKS5 response exceeded the configured byte bound"

def onData (config : AdmittedConnectivitySocks5Config) (s : Socks5Tunnel) (chunk : Bytes)
    (writeThrows : Frame → Bool) (pauseThrows : Bool) : Socks5Tunnel :=
  let s := { s with incoming := s.incoming ++ chunk }.observe (.received chunk)
  if s.outcome.isSome then { s with later := s.later ++ chunk }
  else if s.buffered.length + chunk.length > config.maxBufferedBytes then
    s.fail boundExceeded
  else process writeThrows pauseThrows 4 { s with buffered := s.buffered ++ chunk }

def abortedError : ConnectivitySocks5Error :=
  ⟨.aborted, "Connectivity SOCKS5 setup was aborted", none⟩

def timeoutError : ConnectivitySocks5Error :=
  ⟨.timeout, "Connectivity SOCKS5 handshake timed out", none⟩

def closedError (message : String) : ConnectivitySocks5Error := ⟨.connectionClosed, message, none⟩

def establish (setup : Setup) : Socks5Tunnel :=
  let s := initial
  if setup.abortedBefore then s.interrupt abortedError
  else
    let s := { s with listening := true }
    if setup.listenersThrow then
      s.interrupt (protocolError
        "Connectivity SOCKS5 lifecycle listeners could not be installed")
    else if setup.abortedAfter then s.interrupt abortedError
    else
      let s := { s with timerSet := true }
      let s := if setup.timerFires then s.interrupt timeoutError else s
      if setup.timerThrows then
        s.interrupt (protocolError "Connectivity SOCKS5 timer scheduler failed")
      else s.send .method setup.writeThrows

def step (config : AdmittedConnectivitySocks5Config) (s : Socks5Tunnel) :
    TunnelEvent → Option Socks5Tunnel
  | .data chunk writeThrows pauseThrows => some (s.onData config chunk writeThrows pauseThrows)
  | .text =>
    if s.listening then
      some (s.interrupt (protocolError
        "Connectivity SOCKS5 proxy returned a non-binary response"))
    else none
  | .written frame failed =>
    if frame ∈ s.pendingWrites then
      let s := { s with pendingWrites := s.pendingWrites.erase frame }
      some (if failed then s.interrupt writeFailed else s)
    else none
  | .error =>
    if s.listening then
      some (s.interrupt (closedError "Connectivity SOCKS5 connection failed during setup"))
    else none
  | .end =>
    if s.listening then
      some (s.interrupt (closedError "Connectivity SOCKS5 connection ended during setup"))
    else none
  | .close =>
    if s.listening then
      some (s.interrupt (closedError "Connectivity SOCKS5 connection closed during setup"))
    else none
  | .abort => if s.listening then some (s.interrupt abortedError) else none
  | .timeout => if s.timerSet then some (s.interrupt timeoutError) else none

end Socks5Tunnel

def socks5 (config : AdmittedConnectivitySocks5Config) (setup : Setup) :
    Machine Socks5Tunnel TunnelEvent :=
  ⟨.establish setup, Socks5Tunnel.step config⟩

/-!
The negotiation is the run of an incremental parser over what the proxy sends, as long as
nothing else ends it. The bytes behind the last response are the initial data and what comes
later.
-/

/-- How far the responses of the proxy are. -/
inductive Verdict
  | waiting (phase : HandshakePhase)
  | connected
  | failed (error : ConnectivitySocks5Error)
deriving DecidableEq, Repr

def Verdict.isWaiting : Verdict → Bool
  | .waiting _ => true
  | _ => false

/-- A response which has been found stays where more bytes follow. -/
theorem readResponse_append {phase : HandshakePhase} {xs : Bytes}
    (h : readResponse phase xs ≠ .incomplete) (ys : Bytes) :
    readResponse phase (xs ++ ys) = readResponse phase xs := by
  cases phase with
  | methodResponse =>
      rcases xs with _ | ⟨version, _ | ⟨method, xs⟩⟩
      · exact absurd rfl h
      · exact absurd rfl h
      · rfl
  | authenticationResponse =>
      rcases xs with _ | ⟨version, _ | ⟨status, xs⟩⟩
      · exact absurd rfl h
      · exact absurd rfl h
      · rfl
  | connectResponse =>
      rcases xs with _ | ⟨version, _ | ⟨replyCode, _ | ⟨reserved, _ | ⟨addressType, address⟩⟩⟩⟩
      iterate 4 exact absurd rfl h
      simp only [List.cons_append, readResponse, List.length_append] at h ⊢
      cases address with
      | nil => grind
      | cons domainLength address => grind

/-- A response is inside what has come in. -/
theorem length_of_accepted {phase next : HandshakePhase} {request : Frame} {xs : Bytes}
    (h : readResponse phase xs = .accepted next request) : 2 ≤ xs.length := by
  unfold readResponse at h
  split at h
  · simp
  · simp
  · simp
  · cases h

theorem length_of_connected {phase : HandshakePhase} {n : Nat} {xs : Bytes}
    (h : readResponse phase xs = .connected n) : 0 < n ∧ n ≤ xs.length := by
  unfold readResponse at h
  split at h
  · grind
  · grind
  · simp only [List.length_cons]
    grind
  · cases h

/-- The responses of the proxy, as long as it accepts. -/
def responses : Incremental Verdict UInt8 where
  step verdict xs := match verdict with
    | .waiting phase =>
      match readResponse phase xs with
      | .incomplete => none
      | .failed error => some (.failed error, xs)
      | .accepted next _ => some (.waiting next, xs.drop 2)
      | .connected responseLength => some (.connected, xs.drop responseLength)
    | _ => none
  rank verdict := if verdict.isWaiting then 1 else 0
  stable {verdict _ xs _} ys h := by
    cases verdict with
    | waiting phase =>
        dsimp only at h ⊢
        cases hr : readResponse phase xs with
        | incomplete =>
            rw [hr] at h
            cases h
        | failed error =>
            rw [readResponse_append (by rw [hr]; simp), hr]
            rw [hr] at h
            cases h
            rfl
        | accepted next request =>
            rw [readResponse_append (by rw [hr]; simp), hr]
            rw [hr] at h
            cases h
            dsimp only
            rw [List.drop_append_of_le_length (length_of_accepted hr)]
        | connected n =>
            rw [readResponse_append (by rw [hr]; simp), hr]
            rw [hr] at h
            cases h
            dsimp only
            rw [List.drop_append_of_le_length (length_of_connected hr).2]
    | connected => cases h
    | failed error => cases h
  shrinks {verdict _ xs _} h := by
    cases verdict with
    | waiting phase =>
        dsimp only at h
        cases hr : readResponse phase xs with
        | incomplete =>
            rw [hr] at h
            cases h
        | failed error =>
            rw [hr] at h
            cases h
            exact Nat.lt_add_one _
        | accepted next request =>
            rw [hr] at h
            cases h
            have := length_of_accepted hr
            rw [List.length_drop]
            simp only [Verdict.isWaiting, if_true]
            omega
        | connected n =>
            rw [hr] at h
            cases h
            have := length_of_connected hr
            rw [List.length_drop]
            simp only [Verdict.isWaiting, if_true, Bool.false_eq_true, if_false]
            omega
    | connected => cases h
    | failed error => cases h

/-- The verdict on what a proxy has sent, and what follows its last response. -/
def negotiate (stream : Bytes) : Verdict × Bytes := responses.drive (.waiting .methodResponse) stream

section Rounds
variable {phase : HandshakePhase} {xs : Bytes}

theorem responses_incomplete (h : readResponse phase xs = .incomplete) :
    responses.drive (.waiting phase) xs = (.waiting phase, xs) :=
  responses.drive_of_none (by simp only [responses, h])

theorem responses_failed {error : ConnectivitySocks5Error}
    (h : readResponse phase xs = .failed error) :
    responses.drive (.waiting phase) xs = (.failed error, xs) := by
  have hs : responses.step (.waiting phase) xs = some (.failed error, xs) := by
    simp only [responses, h]
  rw [responses.drive_of_some hs]
  exact responses.drive_of_none rfl

theorem responses_accepted {next : HandshakePhase} {request : Frame}
    (h : readResponse phase xs = .accepted next request) :
    responses.drive (.waiting phase) xs = responses.drive (.waiting next) (xs.drop 2) :=
  responses.drive_of_some (by simp only [responses, h])

theorem responses_connected {n : Nat} (h : readResponse phase xs = .connected n) :
    responses.drive (.waiting phase) xs = (.connected, xs.drop n) := by
  have hs : responses.step (.waiting phase) xs = some (.connected, xs.drop n) := by
    simp only [responses, h]
  rw [responses.drive_of_some hs]
  exact responses.drive_of_none rfl

/-- A verdict which is final is not changed by more bytes. -/
theorem negotiate_append {stream rest : Bytes} {verdict : Verdict}
    (h : negotiate stream = (verdict, rest)) (hv : verdict.isWaiting = false) (more : Bytes) :
    negotiate (stream ++ more) = (verdict, rest ++ more) := by
  rw [negotiate, responses.drive_append]
  unfold negotiate at h
  rw [h]
  cases verdict with
  | waiting phase => cases hv
  | connected => exact responses.drive_of_none rfl
  | failed error => exact responses.drive_of_none rfl

end Rounds

end OpenRfc.Tunnel
