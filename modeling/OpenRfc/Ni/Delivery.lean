import OpenRfc.Ni.Calls

/-!
Delivery over a connection. Whatever is decoded, called, timed out, aborted and closed, the
frames which `receive` resolves with are those of the stream, in order; every call settles once;
and the socket is never paused while a `receive` waits.
-/

namespace OpenRfc.Ni.NiSocketTransport
variable {cfg : NiSocketSettings} {s s' : NiSocketTransport}

section Writing

/-- A `send` which has not settled waits for the callback of its write. -/
def Written (s : NiSocketTransport) : Prop :=
  ∀ (i : Nat) (x : SendCall), s.sends[i]? = some x → x.settled = false → x.writing = true

/-- What has not settled has not changed. -/
def Later (s s' : NiSocketTransport) : Prop :=
  ∀ (i : Nat) (x : SendCall), s'.sends[i]? = some x → x.settled = false → s.sends[i]? = some x

theorem Later.refl (s : NiSocketTransport) : Later s s := fun _ _ hx _ => hx

theorem Later.trans {t : NiSocketTransport} (h : Later s s') (h' : Later s' t) : Later s t :=
  fun i x hx hn => h i x (h' i x hx hn) hn

theorem Later.of_sends (h : s'.sends = s.sends) : Later s s' := by
  intro i x hx _
  rw [h] at hx
  exact hx

theorem Later.written (h : Later s s') (hw : Written s) : Written s' :=
  fun i x hx hn => hw i x (h i x hx hn) hn

theorem later_fail (s : NiSocketTransport) (error : NiTransportError) :
    Later s (s.fail error) := .of_sends (fail_sends s error)

theorem settleSend_sends {i : Nat} {x : SendCall} (hx : s.sends[i]? = some x)
    (error : Option NiTransportError) :
    (s.settleSend i error).sends = s.sends.set i { x with settled := true } := by
  have hlt : i < s.sends.length := (List.getElem?_eq_some_iff.mp hx).1
  have hget : s.sends[i] = x := (List.getElem?_eq_some_iff.mp hx).2
  simp only [settleSend, hx]
  split
  · rename_i hn
    have he : { x with settled := true } = s.sends[i] := by
      rw [hget]
      cases x
      cases hn
      rfl
    rw [he, List.set_getElem_self]
  · cases error with
    | none => rfl
    | some error => exact fail_sends _ error

theorem later_settleSend (s : NiSocketTransport) (i : Nat) (error : Option NiTransportError) :
    Later s (s.settleSend i error) := by
  cases hx : s.sends[i]? with
  | none =>
      apply Later.of_sends
      simp only [settleSend, hx]
  | some x =>
      intro j y hy hn
      rw [settleSend_sends hx, List.getElem?_set] at hy
      split at hy
      · split at hy
        · cases hy
          cases hn
        · cases hy
      · exact hy

/-- A call which has been settled is settled. -/
theorem settled_settleSend {i : Nat} {error : Option NiTransportError} {y : SendCall}
    (hy : (s.settleSend i error).sends[i]? = some y) : y.settled = true := by
  cases hx : s.sends[i]? with
  | none =>
      simp only [settleSend, hx] at hy
      cases hy
  | some x =>
      rw [settleSend_sends hx, List.getElem?_set] at hy
      simp only [if_true] at hy
      split at hy
      · cases hy
        rfl
      · cases hy

theorem later_settleClose (s : NiSocketTransport) (destroy : Bool) :
    Later s (s.settleClose destroy) := by
  apply Later.of_sends
  unfold settleClose
  split
  · cases destroy <;> rfl
  · rfl

theorem later_fire (s : NiSocketTransport) (timer : Timer) : Later s (s.fire cfg timer) := by
  cases timer with
  | receive timeoutMs => exact later_fail s _
  | send i =>
      rw [fire]
      exact later_settleSend s i _
  | close => exact later_settleClose s true

theorem later_setTimeout (s : NiSocketTransport) (timer : Timer) (scheduler : SetTimeout) :
    Later s (s.setTimeout cfg timer scheduler) := by
  have fires (timers : List Timer) (t : NiSocketTransport) :
      Later t (timers.foldl (fireTimer cfg) t) := by
    induction timers generalizing t with
    | nil => exact .refl t
    | cons timer timers ih =>
        rw [List.foldl_cons]
        refine Later.trans ?_ (ih (t.fireTimer cfg timer))
        unfold fireTimer
        split
        · exact later_fire t timer
        · exact .refl t
  exact fires scheduler.fires { s with timers := timer :: s.timers }

theorem later_armSend (s : NiSocketTransport) (i : Nat) (signal : Option SignalView)
    (scheduler : SetTimeout) : Later s (s.armSend cfg i signal scheduler) := by
  unfold armSend
  dsimp only
  have hafter : Later s (if signal.any SignalView.after then
      s.settleSend i (some ⟨.aborted, "NI write was aborted"⟩) else s) := by
    split
    · exact later_settleSend s i _
    · exact .refl s
  generalize (if signal.any SignalView.after then
    s.settleSend i (some ⟨.aborted, "NI write was aborted"⟩) else s) = t at hafter ⊢
  refine hafter.trans ?_
  split
  · split
    · exact (later_setTimeout t (.send i) scheduler).trans (later_settleSend _ i _)
    · exact later_setTimeout t (.send i) scheduler
  · exact .refl t

/-- The write of a call leaves it settled, or waiting for its callback. -/
theorem written_writeFrame {i : Nat} (frame : Bytes) (writeThrows : Bool)
    (hw : ∀ (j : Nat) (x : SendCall), s.sends[j]? = some x → x.settled = false →
      x.writing = true ∨ j = i) :
    Written (s.writeFrame i frame writeThrows) := by
  unfold writeFrame
  split
  · rename_i hset
    intro j x hx hn
    rcases hw j x hx hn with h | rfl
    · exact h
    · rw [isSettled, hx, Option.any_some, hn] at hset
      cases hset
  · split
    · intro j x hx hn
      rcases hw j x (later_settleSend s i _ j x hx hn) hn with h | rfl
      · exact h
      · rw [settled_settleSend hx] at hn
        cases hn
    · have main : ∀ (j : Nat) (x : SendCall), (s.sends.modify i fun x => { x with writing := true })[j]? = some x →
          x.settled = false → x.writing = true := by
        intro j x hx hn
        rw [List.getElem?_modify] at hx
        obtain ⟨y, hy, rfl⟩ := Option.map_eq_some_iff.mp hx
        by_cases hj : i = j
        · rw [if_pos hj]
        · rw [if_neg hj] at hn ⊢
          exact (hw j y hy hn).resolve_right (Ne.symm hj)
      dsimp only
      split <;> exact main

theorem written_send (hw : Written s) (payload : Bytes) (signal : Option SignalView)
    (scheduler : SetTimeout) (writeThrows : Bool) :
    Written (s.send cfg payload signal scheduler writeThrows) := by
  have refused (t : NiSocketTransport) (ht : Written t) (reason : Rejection) :
      Written (t.refuseSend reason) := by
    intro j x hx hn
    change (t.sends ++ [SendCall.mk false true false])[j]? = some x at hx
    rw [List.getElem?_append] at hx
    split at hx
    · exact ht j x hx hn
    · obtain ⟨hlt, hget⟩ := List.getElem?_eq_some_iff.mp hx
      rw [List.getElem_singleton] at hget
      subst hget
      cases hn
  unfold send
  split
  · exact refused s hw _
  · split
    · exact refused _ ((later_fail s _).written hw) _
    · split
      · exact refused s hw _
      · apply written_writeFrame
        intro j x hx hn
        have hx := later_armSend _ _ _ _ j x hx hn
        change (s.sends ++ [SendCall.mk signal.isSome false false])[j]? = some x at hx
        rcases Nat.lt_trichotomy j s.sends.length with hj | rfl | hj
        · rw [List.getElem?_append_left hj] at hx
          exact .inl (hw j x hx hn)
        · exact .inr rfl
        · rw [List.getElem?_eq_none (by simp; omega)] at hx
          cases hx

theorem later_resumeAfterQueue (s : NiSocketTransport) (resumeThrows : Bool) :
    Later s (s.resumeAfterQueue resumeThrows).2 := by
  unfold resumeAfterQueue
  split
  · exact .refl s
  · split
    · exact later_fail { s with pausedForQueue := false } _
    · exact .refl s

theorem later_takeFrame (s : NiSocketTransport) (i : Nat) (frame : Bytes)
    (frames : List Bytes) (resumeThrows : Bool) :
    Later s (s.takeFrame i frame frames resumeThrows) := by
  unfold takeFrame
  dsimp only
  by_cases hn : frames = []
  · rw [if_pos hn]
    have hr := later_resumeAfterQueue { s with
      frames, queuedPayloadLength := s.queuedPayloadLength - frame.length } resumeThrows
    generalize resumeAfterQueue { s with
      frames, queuedPayloadLength := s.queuedPayloadLength - frame.length } resumeThrows = x
      at hr ⊢
    cases x.1 <;> exact hr
  · rw [if_neg hn]
    exact .refl s

theorem later_awaitFrame (s : NiSocketTransport) (i timeoutMs : Nat)
    (signal : Option SignalView) (scheduler : SetTimeout) :
    Later s (s.awaitFrame cfg i timeoutMs signal scheduler) := by
  unfold awaitFrame
  dsimp only
  have hstart : Later s { s with pendingReceive := some ⟨i, signal.isSome⟩ } := .refl s
  generalize { s with pendingReceive := some ⟨i, signal.isSome⟩ } = t at hstart ⊢
  have hafter : Later t (if signal.any SignalView.after then
      t.fail ⟨.aborted, "NI receive was aborted"⟩ else t) := by
    split
    · exact later_fail t _
    · exact .refl t
  generalize (if signal.any SignalView.after then
    t.fail ⟨.aborted, "NI receive was aborted"⟩ else t) = t' at hafter ⊢
  refine (hstart.trans hafter).trans ?_
  split
  · split
    · exact (later_setTimeout t' _ scheduler).trans (later_fail _ _)
    · exact later_setTimeout t' _ scheduler
  · exact .refl t'

theorem later_receive (s : NiSocketTransport) (options : NiReceiveOptions)
    (scheduler : SetTimeout) (resumeThrows : Bool) :
    Later s (s.receive cfg options scheduler resumeThrows) := by
  unfold receive
  dsimp only
  have hstart : Later s { s with receives := s.receives + 1 } := .refl s
  split
  · exact .refl s
  · split
    · exact .refl s
    · split
      · exact hstart.trans (later_fail _ _)
      · split
        · exact hstart.trans (later_takeFrame _ _ _ _ _)
        · split
          · exact .refl s
          · exact hstart.trans (later_awaitFrame _ _ _ _ _)

theorem later_endSocket (s : NiSocketTransport) (scheduler : SetTimeout) (endThrows : Bool) :
    Later s (s.endSocket cfg scheduler endThrows) := by
  unfold endSocket
  dsimp only
  have htimer : Later s (if cfg.closeTimeoutMs ≠ 0 then
      if scheduler.throws then (s.setTimeout cfg .close scheduler).settleClose true
      else s.setTimeout cfg .close scheduler
    else s) := by
    split
    · split
      · exact (later_setTimeout s .close scheduler).trans (later_settleClose _ true)
      · exact later_setTimeout s .close scheduler
    · exact .refl s
  generalize (if cfg.closeTimeoutMs ≠ 0 then
      if scheduler.throws then (s.setTimeout cfg .close scheduler).settleClose true
      else s.setTimeout cfg .close scheduler
    else s) = t at htimer ⊢
  refine htimer.trans ?_
  split
  · exact later_settleClose t true
  · exact .refl t

theorem later_close (s : NiSocketTransport) (scheduler : SetTimeout) (endThrows : Bool) :
    Later s (s.close cfg scheduler endThrows) := by
  unfold close
  split
  · exact .refl s
  · have hstart : Later s { ((({ s with state := .closing }.observe .terminated).rejectPending
        ⟨.connectionClosed, "NI socket was closed locally"⟩).clearQueuedFrames) with
        decoder := s.decoder.reset, closePromise := some false } := by
      rw [rejectPending_eq]
      exact .refl s
    exact hstart.trans (later_endSocket _ scheduler endThrows)

theorem later_onData (s : NiSocketTransport) (chunk : Bytes) (pauseThrows : Bool) :
    Later s (s.onData cfg chunk pauseThrows) := by
  have handOver (frames : List Bytes) (t : NiSocketTransport) :
      Later t (t.handOver cfg frames).2 := by
    induction frames generalizing t with
    | nil => exact .refl t
    | cons frame frames ih =>
        rw [NiSocketTransport.handOver]
        split
        · rename_i pending hp
          exact Later.trans (.refl t) (ih ({ t with pendingReceive := none }.observe
            (.delivered pending.id frame)))
        · split
          · rename_i t' ht
            unfold queueFrame at ht
            dsimp only at ht
            split at ht <;> cases ht
            exact Later.trans (.refl t) (ih _)
          · exact .refl t
  unfold onData
  dsimp only
  split
  · exact .refl s
  · split
    · exact later_fail { s with incoming := s.incoming ++ chunk } _
    · rename_i frames decoder hd
      have hstart : Later s { s with incoming := s.incoming ++ chunk, decoder } := .refl s
      refine hstart.trans ?_
      generalize { s with incoming := s.incoming ++ chunk, decoder } = t
      unfold onFrames
      split
      · split
        · exact later_fail t _
        · rename_i t' ht
          have hpaused : Later t t' := by
            unfold pauseBefore pauseForQueue at ht
            split at ht
            · split at ht
              · cases ht
                exact .refl t
              · split at ht <;> cases ht
                exact .refl t
            · cases ht
              exact .refl t
          have hover := hpaused.trans (handOver frames t')
          split
          · rename_i u hu
            rw [hu] at hover
            exact hover
          · rename_i u hu
            rw [hu] at hover
            exact hover.trans (later_fail u _)
      · exact later_fail t _

theorem written_step {e : Event} (hw : Written s) (he : step cfg s e = some s') :
    Written s' := by
  cases e with
  | data chunk pauseThrows =>
      cases he
      exact (later_onData s chunk pauseThrows).written hw
  | receive options scheduler resumeThrows =>
      cases he
      exact (later_receive s options scheduler resumeThrows).written hw
  | abortReceive =>
      simp only [step] at he
      split at he <;> cases he
      exact (later_fail s _).written hw
  | send payload signal scheduler writeThrows =>
      cases he
      exact written_send hw payload signal scheduler writeThrows
  | abortSend i =>
      simp only [step] at he
      split at he <;> cases he
      exact (later_settleSend s i _).written hw
  | written i failed =>
      simp only [step] at he
      split at he
      · rename_i onAbort settled hx
        cases he
        intro j x hj hn
        by_cases hi : j = i
        · subst hi
          rw [settled_settleSend hj] at hn
          cases hn
        · have hj := later_settleSend _ _ _ j x hj hn
          change (s.sends.set i ⟨onAbort, settled, false⟩)[j]? = some x at hj
          rw [List.getElem?_set_ne (Ne.symm hi)] at hj
          exact hw j x hj hn
      · cases he
  | fire timer =>
      simp only [step] at he
      split at he <;> cases he
      exact (later_fire s timer).written hw
  | close scheduler endThrows =>
      cases he
      exact (later_close s scheduler endThrows).written hw
  | assertNoQueuedFrames =>
      cases he
      unfold assertNoQueuedFrames
      split
      · exact hw
      · exact (later_fail s _).written hw
  | socketEnd =>
      cases he
      unfold onEnd
      split
      · exact hw
      · split <;> exact (later_fail s _).written hw
  | socketError =>
      cases he
      exact (later_fail s _).written hw
  | socketClose =>
      cases he
      have hclose : Later s s.onClose := by
        unfold onClose
        split
        · exact .refl s
        · exact later_fail s _
        · exact .refl s
      exact (hclose.trans (later_settleClose _ false)).written hw

end Writing

/-- What a connection guarantees in every state. -/
structure NiDelivery (cfg : NiSocketSettings) (s : NiSocketTransport) : Prop where
  /-- The frames of the calls are frames of the stream from its start, in the order of the
  calls. -/
  delivered : s.delivered <+: completeFrames s.incoming
  order : (s.deliveries.map Prod.fst).Pairwise (· < ·)
  /-- None is lost while the connection is open. -/
  complete : s.state = .open → completeFrames s.incoming = s.delivered ++ s.frames
  /-- A call settles once, and is pending before. -/
  receives : ∀ i < s.receives, s.trace.countP (Observation.settlesReceive i) =
    if s.state = .open ∧ s.waitsFor i = true then 0 else 1
  sends : ∀ i, s.trace.countP (Observation.settlesSend i) = if s.isSettled i then 1 else 0
  /-- A `send` which has not settled does so at the latest when the socket calls back. -/
  written : ∀ (i : Nat) (x : SendCall), s.sends[i]? = some x → x.settled = false → x.writing = true
  /-- The connection terminates where it is no longer open, and nothing is transferred
  afterwards. -/
  terminated : s.state = .open ↔ ∀ o ∈ s.trace, o.isTermination = false
  silent : ∀ after o before, s.trace = after ++ o :: before → o.isTransfer = true →
    ∀ x ∈ before, x.isTermination = false
  count : s.frames.length ≤ cfg.maxQueuedFrameCount
  queued : s.queuedPayloadLength = payloadLength s.frames
  bytes : s.queuedPayloadLength ≤ cfg.maxQueuedPayloadLength
  paused : s.state = .open → (s.pausedForQueue = true ↔ s.frames ≠ []) ∧
    (s.paused = true ↔ s.frames ≠ [])
  notStarved : s.pendingReceive ≠ none → s.state = .open ∧ s.paused = false

structure Invariant (cfg : NiSocketSettings) (s : NiSocketTransport) : Prop where
  failedOrOpen : FailedOrOpen s
  flow : Flow cfg s
  receiveCalls : ReceiveCalls s
  sendCalls : SendCalls s
  inOrder : InOrder s
  ended : Ended s

theorem Invariant.initial : Invariant cfg .initial where
  failedOrOpen _ := .inl rfl
  flow := .initial
  receiveCalls := ⟨fun _ => rfl, nofun⟩
  sendCalls _ := rfl
  inOrder := ⟨.nil, nofun, nofun⟩
  ended := ⟨trivial, fun _ => nofun, fun _ => rfl⟩

theorem Move.invariant (hm : Move cfg s s') (h : Invariant cfg s) : Invariant cfg s' where
  failedOrOpen := hm.failedOrOpen h.failedOrOpen
  flow := hm.flow h.flow
  receiveCalls := hm.receiveCalls h.receiveCalls
  sendCalls := hm.sendCalls h.sendCalls
  inOrder := hm.inOrder h.flow h.receiveCalls h.inOrder
  ended := hm.ended h.flow h.ended

theorem Invariant.step {e : Event} (h : Invariant cfg s) (he : step cfg s e = some s') :
    Invariant cfg s' := by
  have hmoves := step_moves h.failedOrOpen h.flow.closePromise he
  exact Machine.moves_preserve (P := Invariant cfg) (fun _ _ hp hm => hm.invariant hp) hmoves h

/-- Two records come in three chunks, while a `receive` waits; then its timer fires late. -/
def interleaved : List Event :=
  [.receive ⟨1000, some ⟨false, false⟩⟩ ⟨[], false⟩ false, .data [0, 0] false,
    .data [0, 1, 7, 0, 0, 0, 2] false, .data [8, 9] false,
    .send [1] none ⟨[], false⟩ false, .receive ⟨0, none⟩ ⟨[], false⟩ false,
    .written 0 false, .fire (.receive 1000), .receive ⟨0, none⟩ ⟨[], false⟩ false]

end OpenRfc.Ni.NiSocketTransport
