import OpenRfc.Tunnel.Socks5

/-!
A tunnel which is being set up is running, or its promise has settled. While it runs, its phase
and its buffer are what the parser has made of the stream; once it has settled, the socket has
been paused for the caller or destroyed.
-/

namespace OpenRfc.Tunnel

/-- The responses which have been consumed before a phase. -/
def HandshakePhase.consumed : HandshakePhase → Bytes
  | .methodResponse => []
  | .authenticationResponse => [SOCKS_VERSION, JWT_AUTHENTICATION_METHOD]
  | .connectResponse =>
    [SOCKS_VERSION, JWT_AUTHENTICATION_METHOD, JWT_AUTHENTICATION_VERSION, 0x00]

/-- The rounds which the loop can still make. -/
def HandshakePhase.rounds : HandshakePhase → Nat
  | .methodResponse => 3
  | .authenticationResponse => 2
  | .connectResponse => 1

/-- The request which is sent on entering a phase. -/
def HandshakePhase.request : HandshakePhase → Frame
  | .methodResponse => .method
  | .authenticationResponse => .authentication
  | .connectResponse => .connect

def TunnelObservation.isSettled : TunnelObservation → Bool
  | .settled => true
  | _ => false

def TunnelObservation.bytes : TunnelObservation → Bytes
  | .received chunk => chunk
  | _ => []

/-- What has come in, by an oldest-last history. -/
def receivedBytes (trace : List TunnelObservation) : Bytes :=
  (trace.reverse.map TunnelObservation.bytes).flatten

/-- The token is sent once the proxy has selected the method, and the target once it has
accepted the token. -/
def InTurn (o : TunnelObservation) (past : List TunnelObservation) : Prop :=
  match o with
  | .wrote .authentication =>
    HandshakePhase.consumed .authenticationResponse <+: receivedBytes past
  | .wrote .connect => HandshakePhase.consumed .connectResponse <+: receivedBytes past
  | _ => True

theorem receivedBytes_cons (o : TunnelObservation) (past : List TunnelObservation) :
    receivedBytes (o :: past) = receivedBytes past ++ o.bytes := by
  simp [receivedBytes]

theorem inTurn_request {phase : HandshakePhase} {past : List TunnelObservation}
    (h : phase.consumed <+: receivedBytes past) : InTurn (.wrote phase.request) past := by
  cases phase with
  | methodResponse => trivial
  | authenticationResponse => exact h
  | connectResponse => exact h

/-- A response which is accepted is consumed, and answered by the request of the next phase. -/
theorem consumed_accepted {phase next : HandshakePhase} {request : Frame} {xs : Bytes}
    (h : readResponse phase xs = .accepted next request) :
    phase.consumed ++ xs = next.consumed ++ xs.drop 2 ∧ request = next.request ∧
      next.rounds < phase.rounds := by
  unfold readResponse at h
  split at h
  · split at h <;> [cases h; skip]
    rename_i hv
    split at h <;> [cases h; skip]
    rename_i hm
    cases h
    rw [not_not.mp hv, not_not.mp hm]
    exact ⟨rfl, rfl, Nat.lt_add_one 2⟩
  · split at h <;> [cases h; skip]
    rename_i hv
    split at h <;> [cases h; skip]
    rename_i hm
    cases h
    rw [not_not.mp hv, not_not.mp hm]
    exact ⟨rfl, rfl, Nat.lt_add_one 1⟩
  · grind
  · cases h

namespace Socks5Tunnel
variable {s s' : Socks5Tunnel}

/-- The promise is pending. -/
structure Running (s : Socks5Tunnel) : Prop where
  outcome : s.outcome = none
  uninterrupted : s.interrupted = false
  later : s.later = []
  destroyed : s.destroyed = false
  listening : s.listening = true
  timerSet : s.timerSet = true
  negotiated : negotiate s.incoming = responses.drive (.waiting s.phase) s.buffered
  bytes : s.incoming = s.phase.consumed ++ s.buffered
  unsettled : s.trace.countP TunnelObservation.isSettled = 0
  received : receivedBytes s.trace = s.incoming
  inTurn : History.Each InTurn s.trace

theorem Running.pending (h : Running s) : ¬ s.outcome.isSome = true := by
  rw [h.outcome]
  exact Bool.false_ne_true

/-- How the promise has settled. -/
def Concluded (s : Socks5Tunnel) : Except ConnectivitySocks5Error Bytes → Prop
  | .ok initialData => s.paused = true ∧ s.destroyed = false ∧ s.interrupted = false ∧
      negotiate s.incoming = (.connected, initialData ++ s.later)
  | .error error => s.destroyed = true ∧
      (s.interrupted = false →
        error = boundExceeded ∨ (negotiate s.incoming).1 = .failed error)

structure Settled (s : Socks5Tunnel) : Prop where
  outcome : ∃ outcome, s.outcome = some outcome ∧ s.Concluded outcome
  listening : s.listening = false
  settled : s.trace.countP TunnelObservation.isSettled = 1
  received : receivedBytes s.trace = s.incoming
  inTurn : History.Each InTurn s.trace

def Sound (s : Socks5Tunnel) : Prop :=
  Running s ∧ readResponse s.phase s.buffered = .incomplete ∨ Settled s

theorem Settled.isSome (h : Settled s) : s.outcome.isSome = true := by
  obtain ⟨outcome, ho, -⟩ := h.outcome
  rw [ho]
  rfl

theorem countP_settled {past : List TunnelObservation}
    (h : past.countP TunnelObservation.isSettled = 0) :
    (TunnelObservation.settled :: past).countP TunnelObservation.isSettled = 1 := by
  rw [List.countP_cons_of_pos (by rfl), h]

theorem settled_fail {error : ConnectivitySocks5Error} (ho : s.outcome = none)
    (hs : s.trace.countP TunnelObservation.isSettled = 0)
    (hr : receivedBytes s.trace = s.incoming) (ht : History.Each InTurn s.trace)
    (hv : s.interrupted = false →
      error = boundExceeded ∨ (negotiate s.incoming).1 = .failed error) :
    Settled (s.fail error) := by
  rw [fail, if_neg (by rw [ho]; exact Bool.false_ne_true)]
  refine ⟨⟨_, rfl, rfl, hv⟩, rfl, ?_, ?_, trivial, ht⟩
  · exact countP_settled hs
  · refine (receivedBytes_cons _ _).trans ?_
    exact (List.append_nil _).trans hr

theorem settled_interrupt {error : ConnectivitySocks5Error} (ho : s.outcome = none)
    (hs : s.trace.countP TunnelObservation.isSettled = 0)
    (hr : receivedBytes s.trace = s.incoming) (ht : History.Each InTurn s.trace) :
    Settled (s.interrupt error) := by
  rw [interrupt, if_neg (by rw [ho]; exact Bool.false_ne_true)]
  exact settled_fail ho hs hr ht (by simp)

theorem Running.interrupt (h : Running s) (error : ConnectivitySocks5Error) :
    Settled (s.interrupt error) :=
  settled_interrupt h.outcome h.unsettled h.received h.inTurn

theorem Settled.interrupt (h : Settled s) (error : ConnectivitySocks5Error) :
    Settled (s.interrupt error) := by
  rw [Socks5Tunnel.interrupt, if_pos h.isSome]
  exact h

theorem Sound.interrupt (h : Sound s) (error : ConnectivitySocks5Error) :
    Sound (s.interrupt error) := by
  rcases h with ⟨h, -⟩ | h
  · exact .inr (h.interrupt error)
  · exact .inr (h.interrupt error)

/-- The bytes behind the last response are the initial data. -/
theorem Running.succeed (h : Running s) {n : Nat}
    (hn : readResponse s.phase s.buffered = .connected n) (pauseThrows : Bool) :
    Settled (s.succeed n pauseThrows) := by
  rw [Socks5Tunnel.succeed, if_neg h.pending]
  have hneg : negotiate s.incoming = (.connected, s.buffered.drop n ++ s.later) := by
    rw [h.negotiated, responses_connected hn, h.later, List.append_nil]
  dsimp only
  split
  · exact settled_interrupt (by exact h.outcome) h.unsettled h.received h.inTurn
  · refine ⟨⟨_, rfl, rfl, h.destroyed, h.uninterrupted, hneg⟩, rfl, ?_, ?_, trivial, h.inTurn⟩
    · exact countP_settled h.unsettled
    · refine (receivedBytes_cons _ _).trans ?_
      exact (List.append_nil _).trans h.received

theorem Running.send (h : Running s) (throws : Bool) :
    Running (s.send s.phase.request throws) ∧
        (s.send s.phase.request throws).phase = s.phase ∧
        (s.send s.phase.request throws).buffered = s.buffered ∨
      Settled (s.send s.phase.request throws) := by
  rw [Socks5Tunnel.send, if_neg h.pending]
  split
  · exact .inr (h.interrupt _)
  · left
    refine ⟨?_, rfl, rfl⟩
    exact { h with
      received := (receivedBytes_cons _ _).trans ((List.append_nil _).trans h.received)
      inTurn := by
        refine ⟨inTurn_request ?_, h.inTurn⟩
        rw [h.received, h.bytes]
        exact List.prefix_append _ _ }

/-- The loop stops where a response is incomplete, or the promise has settled. -/
theorem sound_process (writeThrows : Frame → Bool) (pauseThrows : Bool) {fuel : Nat}
    (h : Running s ∧ s.phase.rounds ≤ fuel ∨ Settled s) :
    Sound (process writeThrows pauseThrows fuel s) := by
  induction fuel generalizing s with
  | zero =>
      rcases h with ⟨h, hf⟩ | h
      · cases hp : s.phase <;> rw [hp] at hf <;> cases hf
      · exact .inr h
  | succ fuel ih =>
      rcases h with ⟨h, hf⟩ | h
      · rw [process, if_neg h.pending]
        cases hr : readResponse s.phase s.buffered with
        | incomplete => exact .inl ⟨h, hr⟩
        | failed error =>
            right
            apply settled_fail h.outcome h.unsettled h.received h.inTurn
            intro _
            right
            rw [h.negotiated, responses_failed hr]
        | connected n => exact .inr (h.succeed hr pauseThrows)
        | accepted next request =>
            obtain ⟨hbytes, rfl, hlt⟩ := consumed_accepted hr
            have hnext : Running { s with buffered := s.buffered.drop 2, phase := next } := {
              h with
              negotiated := h.negotiated.trans (responses_accepted hr)
              bytes := h.bytes.trans hbytes }
            apply ih
            rcases hnext.send (writeThrows next.request) with ⟨hs, hp, -⟩ | hs
            · left
              refine ⟨hs, ?_⟩
              rw [hp]
              change next.rounds ≤ fuel
              omega
            · exact .inr hs
      · rw [process, if_pos h.isSome]
        exact .inr h

theorem receivedBytes_received (s : Socks5Tunnel) (chunk : Bytes)
    (h : receivedBytes s.trace = s.incoming) :
    receivedBytes (.received chunk :: s.trace) = s.incoming ++ chunk :=
  (receivedBytes_cons _ _).trans (congrArg (· ++ chunk) h)

/-- What comes in later is kept for the caller. -/
theorem Settled.onData (h : Settled s) (config : AdmittedConnectivitySocks5Config)
    (chunk : Bytes) (writeThrows : Frame → Bool) (pauseThrows : Bool) :
    Settled (s.onData config chunk writeThrows pauseThrows) := by
  obtain ⟨outcome, ho, hc⟩ := h.outcome
  unfold Socks5Tunnel.onData
  dsimp only [observe]
  rw [if_pos h.isSome]
  refine ⟨⟨outcome, ho, ?_⟩, h.listening, h.settled, receivedBytes_received s chunk h.received,
    trivial, h.inTurn⟩
  cases outcome with
  | ok initialData =>
      obtain ⟨hp, hd, hi, hn⟩ := hc
      refine ⟨hp, hd, hi, ?_⟩
      change negotiate (s.incoming ++ chunk) = (.connected, initialData ++ (s.later ++ chunk))
      rw [negotiate_append hn rfl, List.append_assoc]
  | error error =>
      obtain ⟨hd, hv⟩ := hc
      refine ⟨hd, fun hi => (hv hi).imp id fun hf => ?_⟩
      exact congrArg Prod.fst (negotiate_append (Prod.ext hf rfl) rfl chunk)

theorem Running.onData (h : Running s) (config : AdmittedConnectivitySocks5Config)
    (chunk : Bytes) (writeThrows : Frame → Bool) (pauseThrows : Bool) :
    Sound (s.onData config chunk writeThrows pauseThrows) := by
  have hreceived := receivedBytes_received s chunk h.received
  unfold Socks5Tunnel.onData
  dsimp only [observe]
  rw [if_neg h.pending]
  split
  · right
    exact settled_fail h.outcome h.unsettled hreceived ⟨trivial, h.inTurn⟩ fun _ => .inl rfl
  · apply sound_process
    left
    refine ⟨{ h with
      negotiated := ?_
      bytes := ?_
      received := hreceived
      inTurn := ⟨trivial, h.inTurn⟩ }, ?_⟩
    · have hn := h.negotiated
      unfold negotiate at hn ⊢
      rw [responses.drive_append, hn, ← responses.drive_append]
    · change s.incoming ++ chunk = s.phase.consumed ++ (s.buffered ++ chunk)
      rw [h.bytes, List.append_assoc]
    · cases hp : s.phase <;> simp [HandshakePhase.rounds]

theorem Settled.send (h : Settled s) (frame : Frame) (throws : Bool) :
    Settled (s.send frame throws) := by
  rw [Socks5Tunnel.send, if_pos h.isSome]
  exact h

theorem sound_establish (setup : Setup) : Sound (establish setup) := by
  have settles (t : Bool) (l : Bool) (error : ConnectivitySocks5Error) :
      Settled ({ initial with listening := l, timerSet := t }.interrupt error) :=
    settled_interrupt rfl rfl rfl trivial
  have started : Running { initial with listening := true, timerSet := true } :=
    ⟨rfl, rfl, rfl, rfl, rfl, rfl, rfl, rfl, rfl, rfl, trivial⟩
  unfold establish
  dsimp only
  split
  · exact .inr (settles false false _)
  · split
    · exact .inr (settles false true _)
    · split
      · exact .inr (settles false true _)
      · split
        · split
          · exact .inr ((settles true true timeoutError).interrupt _)
          · exact .inr (settles true true _)
        · split
          · exact .inr ((settles true true timeoutError).send _ _)
          · rcases started.send setup.writeThrows with ⟨hs, -⟩ | hs
            · refine .inl ⟨hs, ?_⟩
              unfold Socks5Tunnel.send
              split <;> [skip; split] <;> rfl
            · exact .inr hs

theorem sound_step (config : AdmittedConnectivitySocks5Config) {event : TunnelEvent}
    (h : Sound s) (he : s.step config event = some s') : Sound s' := by
  cases event with
  | data chunk writeThrows pauseThrows =>
      obtain rfl := Option.some.inj he
      rcases h with ⟨h, -⟩ | h
      · exact h.onData config chunk writeThrows pauseThrows
      · exact .inr (h.onData config chunk writeThrows pauseThrows)
  | written frame failed =>
      simp only [step, Option.ite_none_right_eq_some, Option.some.injEq] at he
      obtain ⟨-, rfl⟩ := he
      have hs : Sound { s with pendingWrites := s.pendingWrites.erase frame } := by
        rcases h with ⟨h, hr⟩ | h
        · exact .inl ⟨{ h with }, hr⟩
        · exact .inr { h with }
      split
      · exact hs.interrupt _
      · exact hs
  | text | error | «end» | close | abort | timeout =>
      simp only [step, Option.ite_none_right_eq_some, Option.some.injEq] at he
      obtain ⟨-, rfl⟩ := he
      exact h.interrupt _

end Socks5Tunnel

open Socks5Tunnel

/-- What a caller can rely on: the promise settles at most once, and until then the responses are
incomplete. On success the bytes which it delivers and those which the paused socket delivers
later are what follows the last response in the stream, however that was cut into chunks. On a
failure the socket is destroyed, and unless something else ended the negotiation, the responses
or the bound on the buffer did. -/
structure Handshake (s : Socks5Tunnel) : Prop where
  settled : s.trace.countP TunnelObservation.isSettled = if s.outcome.isSome then 1 else 0
  pending : s.outcome = none → s.listening = true ∧ s.destroyed = false ∧
    (negotiate s.incoming).1.isWaiting = true
  succeeded : ∀ initialData, s.outcome = some (.ok initialData) →
    s.listening = false ∧ s.paused = true ∧ s.destroyed = false ∧
      negotiate s.incoming = (.connected, initialData ++ s.later)
  failed : ∀ error, s.outcome = some (.error error) →
    s.listening = false ∧ s.destroyed = true ∧ (s.interrupted = false →
      error = boundExceeded ∨ (negotiate s.incoming).1 = .failed error)
  received : receivedBytes s.trace = s.incoming
  /-- Neither the token nor the target is sent before its turn. -/
  inTurn : History.Each InTurn s.trace

theorem handshake_of_sound {s : Socks5Tunnel} (h : Sound s) : Handshake s := by
  rcases h with ⟨h, hr⟩ | h
  · refine ⟨?_, fun _ => ⟨h.listening, h.destroyed, ?_⟩, ?_, ?_, h.received, h.inTurn⟩
    · rw [h.unsettled, h.outcome]
      rfl
    · rw [h.negotiated, responses_incomplete hr]
      rfl
    · intro initialData ho
      rw [h.outcome] at ho
      cases ho
    · intro error ho
      rw [h.outcome] at ho
      cases ho
  · obtain ⟨outcome, ho, hc⟩ := h.outcome
    refine ⟨?_, ?_, ?_, ?_, h.received, h.inTurn⟩
    · rw [h.settled, if_pos h.isSome]
    · intro hn
      rw [ho] at hn
      cases hn
    · intro initialData he
      obtain rfl := Option.some.inj (ho.symm.trans he)
      obtain ⟨hp, hd, -, hn⟩ := hc
      exact ⟨h.listening, hp, hd, hn⟩
    · intro error he
      obtain rfl := Option.some.inj (ho.symm.trans he)
      exact ⟨h.listening, hc⟩

theorem handshake_reachable (config : AdmittedConnectivitySocks5Config) (setup : Setup)
    {s : Socks5Tunnel} (hs : (socks5 config setup).Reachable s) : Handshake s :=
  handshake_of_sound <| hs.invariant (P := Sound) (sound_establish setup)
    fun _ _ _ _ h he => sound_step config h he

/-- The responses in two chunks, the second of which reaches into the data behind them. -/
def tunnelled : List TunnelEvent :=
  let data chunk := TunnelEvent.data chunk (fun _ => false) false
  [data [0x05], data [0x80, 0x01, 0x00, 0x05, 0x00, 0x00, 0x01, 127, 0, 0, 1, 0, 80, 42, 43],
    data [44]]

def smallBound : AdmittedConnectivitySocks5Config := ⟨64⟩

theorem handshake_tunnelled : ∃ s,
    (socks5 smallBound ⟨false, false, false, false, false, false⟩).run
      (socks5 smallBound ⟨false, false, false, false, false, false⟩).init tunnelled = some s ∧
      s.outcome = some (.ok [42, 43]) ∧ s.later = [44] ∧ Handshake s := by
  obtain ⟨s, hrun, hs, hp⟩ := Machine.reachable_of_any
    (socks5 smallBound ⟨false, false, false, false, false, false⟩) tunnelled
    (fun s => s.buffered = [] ∧ s.later = [44] ∧
      s.outcome.elim false fun outcome => outcome.toOption = some [42, 43]) (by decide +kernel)
  obtain ⟨-, hlater, hout⟩ := of_decide_eq_true hp
  refine ⟨s, hrun, ?_, hlater, handshake_reachable smallBound _ hs⟩
  cases ho : s.outcome with
  | none => simp [ho] at hout
  | some outcome =>
      cases outcome with
      | ok initialData => simpa [ho, Except.toOption] using hout
      | error error => simp [ho, Except.toOption] at hout

end OpenRfc.Tunnel
