import OpenRfc.Ni.Transport
import Mathlib.Data.List.GetD

/-!
The small moves of a connection. A step is a sequence of them: terminal paths fail the
connection first and settle the call of the step afterwards, whatever the order in the source,
since the two touch different parts of the state.
-/

namespace OpenRfc.Ni.NiSocketTransport

/-- The queue has run empty. -/
def resumed (s : NiSocketTransport) : NiSocketTransport :=
  if s.pausedForQueue then { s with pausedForQueue := false, paused := false } else s

/-- Frames are queued behind those which are. The socket is paused. -/
def enqueued (s : NiSocketTransport) (frames : List Bytes) : NiSocketTransport :=
  if frames = [] then s
  else {
    s with
    frames := s.frames ++ frames
    queuedPayloadLength := s.queuedPayloadLength + payloadLength frames
    pausedForQueue := true
    paused := if s.pausedForQueue then s.paused else true }

/-- A chunk has been decoded. -/
def decoded (s : NiSocketTransport) (chunk : Bytes) (decoder : NiFrameDecoder) :
    NiSocketTransport :=
  { s with incoming := s.incoming ++ chunk, decoder }

/-- The queue has room for the frames. -/
structure Fits (cfg : NiSocketSettings) (s : NiSocketTransport) (frames : List Bytes) : Prop where
  count : s.frames.length + frames.length ≤ cfg.maxQueuedFrameCount
  bytes : s.queuedPayloadLength + payloadLength frames ≤ cfg.maxQueuedPayloadLength

inductive Move (cfg : NiSocketSettings) (s : NiSocketTransport) : NiSocketTransport → Prop
  | failed (error : NiTransportError) : Move cfg s (s.fail error)
  | sendSettled (i : Nat) (x : SendCall) (outcome : Except Rejection Unit)
      (hx : s.sends[i]? = some x) (hn : x.settled = false) :
      Move cfg s ({ s with sends := s.sends.set i { x with settled := true } }.observe
        (.sendSettled i outcome))
  | timerSet (timer : Timer) : Move cfg s { s with timers := timer :: s.timers }
  | closeSettled (destroyed : Bool) (h : s.closePromise = some false) :
      Move cfg s { s with closePromise := some true, state := .closed, destroyed }
  | peerClosed (h : s.state = .closing) : Move cfg s { s with state := .closed }
  | receiveRefused (reason : Rejection) :
      Move cfg s ({ s with receives := s.receives + 1 }.rejectReceive s.receives reason)
  | awaited (onAbort : Bool) (h : s.state = .open) (hf : s.frames = [])
      (hp : s.pendingReceive = none) :
      Move cfg s {
        s with receives := s.receives + 1, pendingReceive := some ⟨s.receives, onAbort⟩ }
  | taken (frame : Bytes) (frames : List Bytes) (h : s.state = .open)
      (hf : s.frames = frame :: frames) :
      Move cfg s
        ((if frames = [] then resumed else id) {
          s with
          receives := s.receives + 1
          frames
          queuedPayloadLength := s.queuedPayloadLength - frame.length }
        |>.observe (.delivered s.receives frame))
  | unpaused (h : s.state ≠ .open) : Move cfg s { s with pausedForQueue := false }
  | sendRefused (reason : Rejection) : Move cfg s (s.refuseSend reason)
  | sendCalled (onAbort : Bool) :
      Move cfg s { s with sends := s.sends ++ [SendCall.mk onAbort false false] }
  | writing (i : Nat) :
      Move cfg s { s with sends := s.sends.modify i fun x => { x with writing := true } }
  | wrote (i : Nat) (bytes : Bytes) (h : s.state = .open) : Move cfg s (s.observe (.wrote i bytes))
  | calledBack (i : Nat) (x : SendCall) (hx : s.sends[i]? = some x) :
      Move cfg s { s with sends := s.sends.set i { x with writing := false } }
  | received (chunk : Bytes) (h : s.state ≠ .open) :
      Move cfg s { s with incoming := s.incoming ++ chunk }
  /-- The frames of a chunk are queued. -/
  | queued (chunk : Bytes) (frames : List Bytes) (decoder : NiFrameDecoder)
      (h : s.state = .open)
      (hd : s.decoder.push cfg.maxPayloadLength chunk = .ok (frames, decoder))
      (hp : s.pendingReceive = none ∨ frames = []) (hf : Fits cfg s frames) :
      Move cfg s ((s.decoded chunk decoder).enqueued frames)
  /-- The first of them is taken by the pending `receive`. -/
  | handed (chunk : Bytes) (pending : PendingReceive) (frame : Bytes) (frames : List Bytes)
      (decoder : NiFrameDecoder) (h : s.state = .open)
      (hd : s.decoder.push cfg.maxPayloadLength chunk = .ok (frame :: frames, decoder))
      (hp : s.pendingReceive = some pending) (hf : Fits cfg s frames) :
      Move cfg s (({ s.decoded chunk decoder with pendingReceive := none }.observe
        (.delivered pending.id frame)).enqueued frames)
  | closing (h : s.state ≠ .closed) (hc : s.closePromise = none) :
      Move cfg s
        { ((({ s with state := .closing }.observe .terminated).rejectPending
            ⟨.connectionClosed, "NI socket was closed locally"⟩).clearQueuedFrames) with
          decoder := s.decoder.reset, closePromise := some false }

section Moves
variable {cfg : NiSocketSettings} {s s' : NiSocketTransport}

/-- Sequences of moves. -/
abbrev Moves (cfg : NiSocketSettings) : NiSocketTransport → NiSocketTransport → Prop :=
  Relation.ReflTransGen (Move cfg)

/-- What is observed of a pending `receive` when the connection ends. -/
def rejections (s : NiSocketTransport) (error : NiTransportError) : List Observation :=
  match s.pendingReceive with
  | none => []
  | some pending => [.receiveRejected pending.id (.transport error)]

theorem rejectPending_eq (s : NiSocketTransport) (error : NiTransportError) :
    s.rejectPending error =
      { s with pendingReceive := none, trace := s.rejections error ++ s.trace } := by
  cases hp : s.pendingReceive with
  | none =>
      simp only [rejectPending, rejections, hp, List.nil_append]
      rw [← hp]
  | some pending =>
      simp only [rejectPending, rejections, hp, rejectReceive, observe, List.singleton_append]

theorem fail_closed (h : s.state = .closed) (error : NiTransportError) : s.fail error = s :=
  if_pos h

/-- What failing does to a connection which is not closed. -/
theorem fail_eq (h : s.state ≠ .closed) (error : NiTransportError) : s.fail error = {
    s with
    state := .closed
    decoder := .empty
    frames := []
    queuedPayloadLength := 0
    pendingReceive := none
    terminalError := some (s.terminalError.getD error)
    destroyed := true
    trace := s.rejections (s.terminalError.getD error) ++ .terminated :: s.trace } := by
  rw [fail, if_neg h]
  simp only [rejectPending_eq, observe, clearQueuedFrames, destroy, NiFrameDecoder.reset]
  rfl

/-- Failing leaves the calls of `send` alone, -/
theorem fail_with_sends (s : NiSocketTransport) (error : NiTransportError)
    (sends : List SendCall) : { s with sends }.fail error = { s.fail error with sends } := by
  by_cases h : s.state = .closed
  · rw [fail_closed h, fail_closed (by exact h)]
  · rw [fail_eq h, fail_eq (by exact h)]
    rfl

/-- and those of `receive` which do not wait, -/
theorem fail_with_receives (s : NiSocketTransport) (error : NiTransportError) (receives : Nat) :
    { s with receives }.fail error = { s.fail error with receives } := by
  by_cases h : s.state = .closed
  · rw [fail_closed h, fail_closed (by exact h)]
  · rw [fail_eq h, fail_eq (by exact h)]
    rfl

/-- and what has come in, while it forgets what has been decoded. -/
theorem fail_decoded (h : s.state ≠ .closed) (error : NiTransportError) (chunk : Bytes)
    (decoder : NiFrameDecoder) : (s.decoded chunk decoder).fail error =
      { s.fail error with incoming := (s.fail error).incoming ++ chunk } := by
  rw [fail_eq h, fail_eq (by exact h)]
  rfl

@[simp] theorem fail_sends (s : NiSocketTransport) (error : NiTransportError) :
    (s.fail error).sends = s.sends := by
  by_cases h : s.state = .closed
  · rw [fail_closed h]
  · rw [fail_eq h]

@[simp] theorem fail_receives (s : NiSocketTransport) (error : NiTransportError) :
    (s.fail error).receives = s.receives := by
  by_cases h : s.state = .closed
  · rw [fail_closed h]
  · rw [fail_eq h]

@[simp] theorem fail_closePromise (s : NiSocketTransport) (error : NiTransportError) :
    (s.fail error).closePromise = s.closePromise := by
  by_cases h : s.state = .closed
  · rw [fail_closed h]
  · rw [fail_eq h]

@[simp] theorem fail_state (s : NiSocketTransport) (error : NiTransportError) :
    (s.fail error).state = .closed := by
  by_cases h : s.state = .closed
  · rw [fail_closed h]
    exact h
  · rw [fail_eq h]

theorem settleSend_moves (s : NiSocketTransport) (i : Nat) (error : Option NiTransportError) :
    Moves cfg s (s.settleSend i error) := by
  unfold settleSend
  split
  · rename_i x hx
    split
    · exact .refl
    · rename_i hn
      have hn : x.settled = false := Bool.eq_false_iff.mpr hn
      cases error with
      | none => exact .single (.sendSettled i x (.ok ()) hx hn)
      | some error =>
          have hm := @Move.sendSettled cfg (s.fail error) i x
            (.error (.transport error)) (by rw [fail_sends]; exact hx) hn
          dsimp only
          rw [fail_with_sends]
          rw [fail_sends] at hm
          exact .tail (.single (.failed error)) hm
  · exact .refl

theorem settleClose_moves (s : NiSocketTransport) (destroy : Bool) :
    Moves cfg s (s.settleClose destroy) := by
  unfold settleClose
  split
  · rename_i hc
    cases destroy with
    | true => exact .single (.closeSettled true hc)
    | false => exact .single (.closeSettled s.destroyed hc)
  · exact .refl

theorem fire_moves (s : NiSocketTransport) (timer : Timer) : Moves cfg s (s.fire cfg timer) := by
  cases timer with
  | receive timeoutMs => exact .single (.failed _)
  | send i =>
      rw [fire]
      exact settleSend_moves s i _
  | close => exact settleClose_moves s true

theorem setTimeout_moves (s : NiSocketTransport) (timer : Timer) (scheduler : SetTimeout) :
    Moves cfg s (s.setTimeout cfg timer scheduler) := by
  have fires (timers : List Timer) (t : NiSocketTransport) :
      Moves cfg t (timers.foldl (fireTimer cfg) t) := by
    induction timers generalizing t with
    | nil => exact .refl
    | cons timer timers ih =>
        rw [List.foldl_cons]
        refine Relation.ReflTransGen.trans ?_ (ih (t.fireTimer cfg timer))
        unfold fireTimer
        split
        · exact fire_moves t timer
        · exact .refl
  exact .head (.timerSet timer) (fires scheduler.fires _)

/-- A connection which has not been closed locally is open, or has failed. -/
def FailedOrOpen (s : NiSocketTransport) : Prop :=
  s.closePromise = none → s.state = .open ∨ s.state = .closed ∧ s.destroyed = true

theorem resumed_fields (s : NiSocketTransport) :
    s.resumed.state = s.state ∧ s.resumed.closePromise = s.closePromise ∧
      s.resumed.destroyed = s.destroyed := by
  unfold resumed
  split <;> exact ⟨rfl, rfl, rfl⟩

theorem enqueued_fields (s : NiSocketTransport) (frames : List Bytes) :
    (s.enqueued frames).state = s.state ∧ (s.enqueued frames).closePromise = s.closePromise ∧
      (s.enqueued frames).destroyed = s.destroyed := by
  unfold enqueued
  split <;> exact ⟨rfl, rfl, rfl⟩

theorem Move.failedOrOpen (hm : Move cfg s s') (h : FailedOrOpen s) : FailedOrOpen s' := by
  cases hm with
  | failed error =>
      intro hc
      rw [fail_closePromise] at hc
      rw [fail_state]
      by_cases hs : s.state = .closed
      · rw [fail_closed hs]
        rcases h hc with ho | ⟨-, hd⟩
        · rw [hs] at ho
          cases ho
        · exact .inr ⟨rfl, hd⟩
      · rw [fail_eq hs]
        exact .inr ⟨rfl, rfl⟩
  | closeSettled destroyed hc => exact nofun
  | peerClosed hs =>
      intro hc
      rcases h hc with ho | ⟨ho, -⟩ <;>
      · rw [hs] at ho
        cases ho
  | taken frame frames ho hf => exact fun _ => .inl (by split <;> simp [resumed_fields, observe, ho])
  | queued chunk frames decoder ho hd hp hf =>
      exact fun _ => .inl ((enqueued_fields _ _).1.trans ho)
  | handed chunk pending frame frames decoder ho hd hp hf =>
      exact fun _ => .inl ((enqueued_fields _ _).1.trans ho)
  | closing hs hc => exact nofun
  | _ => exact h

theorem settleSend_closePromise (s : NiSocketTransport) (i : Nat)
    (error : Option NiTransportError) : (s.settleSend i error).closePromise = s.closePromise := by
  unfold settleSend
  split
  · split
    · rfl
    · cases error with
      | none => rfl
      | some error => exact fail_closePromise _ error
  · rfl

theorem fire_closePromise {timer : Timer} (h : s.closePromise = none) :
    (s.fire cfg timer).closePromise = none := by
  cases timer with
  | receive timeoutMs => exact (fail_closePromise s _).trans h
  | send i => exact (settleSend_closePromise s i _).trans h
  | close =>
      rw [fire, settleClose, if_neg (by rw [h]; exact nofun)]
      exact h

theorem setTimeout_closePromise {timer : Timer} {scheduler : SetTimeout}
    (h : s.closePromise = none) : (s.setTimeout cfg timer scheduler).closePromise = none := by
  have fires (timers : List Timer) (t : NiSocketTransport) (ht : t.closePromise = none) :
      (timers.foldl (fireTimer cfg) t).closePromise = none := by
    induction timers generalizing t with
    | nil => exact ht
    | cons timer timers ih =>
        rw [List.foldl_cons]
        apply ih
        unfold fireTimer
        split
        · exact fire_closePromise ht
        · exact ht
  exact fires scheduler.fires _ h

section Calls

/-- A socket which is given bytes has not been destroyed. -/
theorem writeFrame_moves (h : FailedOrOpen s) (hc : s.closePromise = none) (i : Nat)
    (frame : Bytes) (writeThrows : Bool) : Moves cfg s (s.writeFrame i frame writeThrows) := by
  unfold writeFrame
  split
  · exact .refl
  · split
    · exact settleSend_moves s i _
    · dsimp only
      refine .head (.writing i) ?_
      split
      · exact .refl
      · rename_i hd
        refine .single (.wrote i frame ?_)
        rcases h hc with ho | ⟨-, hd'⟩
        · exact ho
        · exact absurd hd' hd

theorem fail_refuseSend_moves (s : NiSocketTransport) (error : NiTransportError)
    (reason : Rejection) : Moves cfg s ((s.fail error).refuseSend reason) :=
  .tail (.single (.failed error)) (.sendRefused reason)

theorem moves_failedOrOpen (hm : Moves cfg s s') (h : FailedOrOpen s) : FailedOrOpen s' :=
  Machine.moves_preserve (fun _ _ hd hm => hm.failedOrOpen hd) hm h

theorem armSend_moves (s : NiSocketTransport) (i : Nat) (signal : Option SignalView)
    (scheduler : SetTimeout) : Moves cfg s (s.armSend cfg i signal scheduler) := by
  unfold armSend
  have hafter : Moves cfg s (if signal.any SignalView.after then
      s.settleSend i (some ⟨.aborted, "NI write was aborted"⟩) else s) := by
    split
    · exact settleSend_moves s i _
    · exact .refl
  dsimp only
  generalize (if signal.any SignalView.after then
    s.settleSend i (some ⟨.aborted, "NI write was aborted"⟩) else s) = t at hafter ⊢
  refine hafter.trans ?_
  split
  · refine Relation.ReflTransGen.trans (setTimeout_moves _ (.send i) scheduler) ?_
    split
    · exact settleSend_moves _ i _
    · exact .refl
  · exact .refl

theorem armSend_closePromise (h : s.closePromise = none) (i : Nat) (signal : Option SignalView)
    (scheduler : SetTimeout) : (s.armSend cfg i signal scheduler).closePromise = none := by
  unfold armSend
  dsimp only
  have hafter : (if signal.any SignalView.after then
      s.settleSend i (some ⟨.aborted, "NI write was aborted"⟩) else s).closePromise = none := by
    split
    · exact (settleSend_closePromise s i _).trans h
    · exact h
  generalize (if signal.any SignalView.after then
    s.settleSend i (some ⟨.aborted, "NI write was aborted"⟩) else s) = t at hafter ⊢
  split
  · split
    · exact (settleSend_closePromise _ i _).trans (setTimeout_closePromise hafter)
    · exact setTimeout_closePromise hafter
  · exact hafter

theorem send_moves (h : FailedOrOpen s) (hc : s.state = .open → s.closePromise = none)
    (payload : Bytes) (signal : Option SignalView) (scheduler : SetTimeout)
    (writeThrows : Bool) : Moves cfg s (s.send cfg payload signal scheduler writeThrows) := by
  unfold send
  split
  · exact .single (.sendRefused _)
  · rename_i ho
    split
    · exact fail_refuseSend_moves s _ _
    · split
      · exact .single (.sendRefused _)
      · rename_i frame hframe
        have hcalled : Moves cfg s _ := .single (.sendCalled signal.isSome)
        have harmed := hcalled.trans (armSend_moves _ s.sends.length signal scheduler)
        refine harmed.trans (writeFrame_moves (moves_failedOrOpen harmed h) ?_ _ _ _)
        apply armSend_closePromise
        exact hc (not_not.mp ho)

/-- A `receive` which fails the connection, and settles at once. -/
theorem failed_refused_moves (s : NiSocketTransport) (error : NiTransportError)
    (reason : Rejection) : Moves cfg s
      ({ s.fail error with receives := s.receives + 1 }.rejectReceive s.receives reason) := by
  have hm := @Move.receiveRefused cfg (s.fail error) reason
  rw [fail_receives] at hm
  exact .tail (.single (.failed error)) hm

theorem fail_refused_closed (s : NiSocketTransport) (error : NiTransportError)
    (reason : Rejection) :
    ({ s.fail error with receives := s.receives + 1 }.rejectReceive s.receives reason).state ≠
      .open := by
  change (s.fail error).state ≠ .open
  rw [fail_state]
  exact nofun

/-- A connection which fails while its queue runs empty. -/
theorem fail_emptied (ho : s.state = .open) (error : NiTransportError) (receives : Nat)
    (frames : List Bytes) (queuedPayloadLength : Nat) :
    { s with receives, frames, queuedPayloadLength, pausedForQueue := false }.fail error =
      { s.fail error with receives, pausedForQueue := false } := by
  have hn : s.state ≠ .closed := by
    rw [ho]
    exact nofun
  rw [fail_eq hn, fail_eq (by exact hn)]
  rfl

theorem takeFrame_moves {frame : Bytes} {frames : List Bytes} (ho : s.state = .open)
    (hf : s.frames = frame :: frames) (resumeThrows : Bool) :
    Moves cfg s ({ s with receives := s.receives + 1 }.takeFrame s.receives frame frames
      resumeThrows) := by
  have hm := @Move.taken cfg s frame frames ho hf
  unfold takeFrame resumeAfterQueue
  by_cases hframes : frames = []
  · subst hframes
    simp only [if_true] at hm ⊢
    cases hp : s.pausedForQueue with
    | false =>
        simp only [true_or, if_true]
        simp only [resumed, hp, Bool.false_eq_true, if_false] at hm
        exact .single hm
    | true =>
        simp only [ho, Bool.true_eq_false, ne_eq, not_true_eq_false, or_self, if_false]
        simp only [resumed, hp, if_true, ho] at hm
        cases resumeThrows with
        | false => exact .single hm
        | true =>
            simp only [if_true]
            have he := fail_emptied ho ⟨.connectionClosed,
              "NI socket could not resume after queued frames were drained"⟩ (s.receives + 1) []
              (s.queuedPayloadLength - frame.length)
            simp only [ho] at he
            rw [he]
            exact .tail (failed_refused_moves s _ _) (.unpaused (fail_refused_closed s _ _))
  · rw [if_neg hframes] at hm
    simp only [if_neg hframes]
    exact .single hm

theorem awaitFrame_moves (ho : s.state = .open) (hf : s.frames = [])
    (hp : s.pendingReceive = none) (timeoutMs : Nat) (signal : Option SignalView)
    (scheduler : SetTimeout) :
    Moves cfg s ({ s with receives := s.receives + 1 }.awaitFrame cfg s.receives timeoutMs
      signal scheduler) := by
  unfold awaitFrame
  dsimp only
  have hcalled : Moves cfg s _ := .single (.awaited signal.isSome ho hf hp)
  refine hcalled.trans ?_
  generalize { s with receives := s.receives + 1, pendingReceive := some _ } = t
  have hafter : Moves cfg t (if signal.any SignalView.after then
      t.fail ⟨.aborted, "NI receive was aborted"⟩ else t) := by
    split
    · exact .single (.failed _)
    · exact .refl
  generalize (if signal.any SignalView.after then
    t.fail ⟨.aborted, "NI receive was aborted"⟩ else t) = t' at hafter ⊢
  refine hafter.trans ?_
  split
  · refine Relation.ReflTransGen.trans (setTimeout_moves _ (.receive timeoutMs) scheduler) ?_
    split
    · exact .single (.failed _)
    · exact .refl
  · exact .refl

theorem receive_moves (s : NiSocketTransport) (options : NiReceiveOptions)
    (scheduler : SetTimeout) (resumeThrows : Bool) :
    Moves cfg s (s.receive cfg options scheduler resumeThrows) := by
  unfold receive
  dsimp only
  split
  · exact .single (.receiveRefused _)
  · split
    · exact .single (.receiveRefused _)
    · rename_i ho
      have ho : s.state = .open := not_not.mp ho
      split
      · rw [fail_with_receives]
        exact failed_refused_moves s _ _
      · split
        · rename_i frame frames hf
          exact takeFrame_moves ho hf resumeThrows
        · rename_i hf
          split
          · exact .single (.receiveRefused _)
          · rename_i hp
            exact awaitFrame_moves ho hf (Option.not_isSome_iff_eq_none.mp hp) _ _ _

theorem endSocket_moves (s : NiSocketTransport) (scheduler : SetTimeout) (endThrows : Bool) :
    Moves cfg s (s.endSocket cfg scheduler endThrows) := by
  unfold endSocket
  dsimp only
  have htimer : Moves cfg s (if cfg.closeTimeoutMs ≠ 0 then
      if scheduler.throws then (s.setTimeout cfg .close scheduler).settleClose true
      else s.setTimeout cfg .close scheduler
    else s) := by
    split
    · split
      · exact Relation.ReflTransGen.trans (setTimeout_moves s .close scheduler)
          (settleClose_moves _ true)
      · exact setTimeout_moves s .close scheduler
    · exact .refl
  generalize (if cfg.closeTimeoutMs ≠ 0 then
      if scheduler.throws then (s.setTimeout cfg .close scheduler).settleClose true
      else s.setTimeout cfg .close scheduler
    else s) = t at htimer ⊢
  refine htimer.trans ?_
  split
  · exact settleClose_moves t true
  · exact .refl

theorem close_moves (s : NiSocketTransport) (scheduler : SetTimeout) (endThrows : Bool) :
    Moves cfg s (s.close cfg scheduler endThrows) := by
  unfold close
  split
  · exact .refl
  · rename_i h
    obtain ⟨hc, hs⟩ := not_or.mp h
    have hclosing : Moves cfg s _ := .single (.closing hs (Option.not_isSome_iff_eq_none.mp hc))
    refine hclosing.trans ?_
    exact endSocket_moves
      { ((({ s with state := .closing }.observe .terminated).rejectPending
          ⟨.connectionClosed, "NI socket was closed locally"⟩).clearQueuedFrames) with
        decoder := s.decoder.reset, closePromise := some false } scheduler endThrows

end Calls

section Chunks

theorem payloadLength_cons (frame : Bytes) (frames : List Bytes) :
    payloadLength (frame :: frames) = frame.length + payloadLength frames := by
  simp [payloadLength]

/-- Frames for which there is room are queued without exception. -/
theorem handOver_queue {frames : List Bytes} (hp : s.pendingReceive = none)
    (hf : Fits cfg s frames) : s.handOver cfg frames = (true, {
      s with
      frames := s.frames ++ frames
      queuedPayloadLength := s.queuedPayloadLength + payloadLength frames }) := by
  induction frames generalizing s with
  | nil => simp [handOver, payloadLength]
  | cons frame frames ih =>
      obtain ⟨hcount, hbytes⟩ := hf
      rw [List.length_cons] at hcount
      rw [payloadLength_cons] at hbytes
      have hroom : ¬ (s.frames.length ≥ cfg.maxQueuedFrameCount ∨
          s.queuedPayloadLength + frame.length > cfg.maxQueuedPayloadLength) := by omega
      let t : NiSocketTransport := {
        s with
        frames := s.frames ++ [frame]
        queuedPayloadLength := s.queuedPayloadLength + frame.length }
      have ht : Fits cfg t frames := by
        constructor
        · change (s.frames ++ [frame]).length + _ ≤ _
          rw [List.length_append, List.length_singleton]
          omega
        · change s.queuedPayloadLength + frame.length + _ ≤ _
          omega
      have hstep : s.handOver cfg (frame :: frames) = t.handOver cfg frames := by
        rw [handOver, hp]
        simp only [queueFrame, if_neg hroom]
        rfl
      rw [hstep, ih (by exact hp) ht]
      simp only [t, payloadLength_cons, Nat.add_assoc, List.append_assoc, List.singleton_append]

theorem handOver_pending {pending : PendingReceive} {frame : Bytes} {frames : List Bytes}
    (hp : s.pendingReceive = some pending) :
    s.handOver cfg (frame :: frames) =
      ({ s with pendingReceive := none }.observe (.delivered pending.id frame)).handOver cfg
        frames := by
  rw [handOver, hp]

/-- The socket is paused before frames are queued. -/
theorem handOver_paused {t : NiSocketTransport} {frames : List Bytes} {pauseThrows : Bool}
    (ht : s.pauseBefore frames.length pauseThrows = some t)
    (hp : s.pendingReceive = none) (hf : Fits cfg s frames) :
    t.handOver cfg frames = (true, s.enqueued frames) := by
  cases frames with
  | nil =>
      cases ht
      rfl
  | cons frame frames =>
      rw [pauseBefore, if_pos (List.length_pos_of_ne_nil (List.cons_ne_nil frame frames)),
        pauseForQueue] at ht
      rw [enqueued, if_neg (List.cons_ne_nil frame frames)]
      split at ht
      · rename_i hpaused
        cases ht
        rw [handOver_queue hp hf, if_pos hpaused]
        simp only [hpaused]
      · rename_i hpaused
        split at ht
        · cases ht
        · cases ht
          rw [if_neg hpaused]
          exact handOver_queue hp ⟨hf.count, hf.bytes⟩

/-- Pausing the socket and handing over a frame do not interfere. -/
theorem pauseBefore_handed {t : NiSocketTransport} {n : Nat} {pauseThrows : Bool}
    (ht : s.pauseBefore n pauseThrows = some t) (i : Nat) (frame : Bytes) :
    t.pendingReceive = s.pendingReceive ∧
      ({ s with pendingReceive := none }.observe (.delivered i frame)).pauseBefore n pauseThrows =
        some ({ t with pendingReceive := none }.observe (.delivered i frame)) := by
  unfold pauseBefore pauseForQueue at ht ⊢
  split at ht
  · split at ht
    · rename_i hn hpaused
      cases ht
      rw [if_pos hn]
      exact ⟨rfl, if_pos hpaused⟩
    · split at ht
      · cases ht
      · rename_i hn hpaused hthrows
        cases ht
        rw [if_pos hn, if_neg hthrows]
        exact ⟨rfl, if_neg hpaused⟩
  · rename_i hn
    cases ht
    exact ⟨rfl, if_neg hn⟩

theorem fits_of_preflight {frames : List Bytes}
    (h : s.preflightDecodedFrames cfg frames = true) :
    Fits cfg s (frames.drop (s.consumedByPending frames)) := by
  rw [preflightDecodedFrames, Bool.and_eq_true, decide_eq_true_eq, decide_eq_true_eq] at h
  refine ⟨?_, h.2⟩
  rw [List.length_drop]
  exact h.1

theorem protocolFailure_moves (ho : s.state = .open) (chunk : Bytes)
    (decoder : NiFrameDecoder) : Moves cfg s (s.decoded chunk decoder).protocolFailure := by
  have hn : s.state ≠ .closed := by
    rw [ho]
    exact nofun
  rw [protocolFailure, fail_decoded hn]
  refine .tail (.single (.failed _)) (.received chunk ?_)
  rw [fail_state]
  exact nofun

/-- The frames of a chunk are queued, or handed over, or the connection fails. -/
theorem onFrames_moves (ho : s.state = .open) {chunk : Bytes} {frames : List Bytes}
    {decoder : NiFrameDecoder}
    (hd : s.decoder.push cfg.maxPayloadLength chunk = .ok (frames, decoder))
    (pauseThrows : Bool) :
    Moves cfg s ((s.decoded chunk decoder).onFrames cfg frames pauseThrows) := by
  have hfail := @protocolFailure_moves cfg s ho chunk decoder
  unfold onFrames
  split
  · rename_i hpre
    have hfits := fits_of_preflight hpre
    by_cases hn : s.pendingReceive = none ∨ frames = []
    · have hc : (s.decoded chunk decoder).consumedByPending frames = 0 := by
        rw [consumedByPending, if_pos]
        exact hn.imp_left Option.isNone_iff_eq_none.mpr
      rw [hc, List.drop_zero] at hfits
      rw [hc, Nat.sub_zero]
      cases ht : (s.decoded chunk decoder).pauseBefore frames.length pauseThrows with
      | none => exact hfail
      | some t =>
        have hm := Move.queued chunk frames decoder ho hd hn ⟨hfits.count, hfits.bytes⟩
        have hover : t.handOver cfg frames =
            (true, (s.decoded chunk decoder).enqueued frames) := by
          rcases hn with hn | rfl
          · exact handOver_paused ht hn hfits
          · cases ht
            rfl
        dsimp only
        rw [hover]
        exact .single hm
    · obtain ⟨hp, hne⟩ := not_or.mp hn
      obtain ⟨pending, hp⟩ := Option.ne_none_iff_exists'.mp hp
      obtain ⟨frame, frames, rfl⟩ := List.exists_cons_of_ne_nil hne
      have hc : (s.decoded chunk decoder).consumedByPending (frame :: frames) = 1 := by
        rw [consumedByPending, if_neg]
        simp [decoded, hp]
      rw [hc] at hfits
      rw [hc, List.length_cons, Nat.add_sub_cancel]
      cases ht : (s.decoded chunk decoder).pauseBefore frames.length pauseThrows with
      | none => exact hfail
      | some t =>
        have hm := Move.handed chunk pending frame frames decoder ho hd hp
          ⟨hfits.count, hfits.bytes⟩
        obtain ⟨hp', ht'⟩ := pauseBefore_handed ht pending.id frame
        dsimp only
        rw [handOver_pending (hp'.trans hp), handOver_paused ht' rfl ⟨hfits.count, hfits.bytes⟩]
        exact .single hm
  · exact hfail

theorem onData_moves (s : NiSocketTransport) (chunk : Bytes) (pauseThrows : Bool) :
    Moves cfg s (s.onData cfg chunk pauseThrows) := by
  unfold onData
  dsimp only
  split
  · rename_i ho
    exact .single (.received chunk ho)
  · rename_i ho
    have ho := not_not.mp ho
    split
    · exact protocolFailure_moves ho chunk s.decoder
    · rename_i frames decoder hd
      exact onFrames_moves ho hd pauseThrows

end Chunks

/-- Every step is a sequence of moves. -/
theorem step_moves {e : Event} (h : FailedOrOpen s) (hc : s.state = .open → s.closePromise = none)
    (he : step cfg s e = some s') : Moves cfg s s' := by
  cases e with
  | data chunk pauseThrows =>
      cases he
      exact onData_moves s chunk pauseThrows
  | receive options scheduler resumeThrows =>
      cases he
      exact receive_moves s options scheduler resumeThrows
  | abortReceive =>
      simp only [step] at he
      split at he <;> cases he
      exact .single (.failed _)
  | send payload signal scheduler writeThrows =>
      cases he
      exact send_moves h hc payload signal scheduler writeThrows
  | abortSend i =>
      simp only [step] at he
      split at he <;> cases he
      exact settleSend_moves s i _
  | written i failed =>
      simp only [step] at he
      split at he
      · rename_i onAbort settled hx
        cases he
        exact .head (.calledBack i _ hx) (settleSend_moves _ i _)
      · cases he
  | fire timer =>
      simp only [step] at he
      split at he <;> cases he
      exact fire_moves s timer
  | close scheduler endThrows =>
      cases he
      exact close_moves s scheduler endThrows
  | assertNoQueuedFrames =>
      cases he
      unfold assertNoQueuedFrames
      split
      · exact .refl
      · exact .single (.failed _)
  | socketEnd =>
      cases he
      unfold onEnd
      split
      · exact .refl
      · split <;> exact .single (.failed _)
  | socketError =>
      cases he
      exact .single (.failed _)
  | socketClose =>
      cases he
      have hclose : Moves cfg s s.onClose := by
        unfold onClose
        split
        · rename_i hs
          exact .single (.peerClosed hs)
        · exact .single (.failed _)
        · exact .refl
      exact hclose.trans (settleClose_moves _ false)

end Moves
end OpenRfc.Ni.NiSocketTransport
