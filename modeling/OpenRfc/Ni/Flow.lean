import OpenRfc.Ni.Decoder
import OpenRfc.Ni.Moves

/-!
The flow of the frames: what has been delivered, what is queued and what the decoder holds are
together what has come in, and the socket is paused exactly while frames are queued.
-/

namespace OpenRfc.Ni

def Observation.delivery : Observation → Option (Nat × Bytes)
  | .delivered i frame => some (i, frame)
  | _ => none

namespace NiSocketTransport

/-- The frames which calls of `receive` have resolved with, and the calls. -/
def deliveries (s : NiSocketTransport) : List (Nat × Bytes) :=
  (s.trace.filterMap Observation.delivery).reverse

def delivered (s : NiSocketTransport) : List Bytes := s.deliveries.map Prod.snd

structure Flow (cfg : NiSocketSettings) (s : NiSocketTransport) : Prop where
  decoder : s.state = .open → s.decoder.WellFormed ∧ s.decoder.remaining = leftover s.incoming
  frames : s.state = .open → completeFrames s.incoming = s.delivered ++ s.frames
  delivered : s.delivered <+: completeFrames s.incoming
  idle : s.state ≠ .open → s.frames = [] ∧ s.pendingReceive = none
  waiting : s.pendingReceive ≠ none → s.frames = []
  queued : s.queuedPayloadLength = payloadLength s.frames
  count : s.frames.length ≤ cfg.maxQueuedFrameCount
  bytes : s.queuedPayloadLength ≤ cfg.maxQueuedPayloadLength
  paused : s.state = .open → (s.pausedForQueue = true ↔ s.frames ≠ []) ∧
    s.paused = s.pausedForQueue
  closePromise : s.state = .open → s.closePromise = none

variable {cfg : NiSocketSettings} {s s' : NiSocketTransport}

theorem Flow.initial : Flow cfg .initial where
  decoder _ := ⟨.empty, leftover_nil.symm⟩
  frames _ := completeFrames_nil
  delivered := List.nil_prefix
  idle h := absurd rfl h
  waiting _ := rfl
  queued := rfl
  count := Nat.zero_le _
  bytes := Nat.zero_le _
  paused _ := ⟨⟨nofun, fun h => absurd rfl h⟩, rfl⟩
  closePromise _ := rfl

/-- What the flow depends on. -/
structure FlowView where
  state : NiSocketState
  decoder : NiFrameDecoder
  frames : List Bytes
  queuedPayloadLength : Nat
  pausedForQueue : Bool
  paused : Bool
  pendingReceive : Option PendingReceive
  closePromise : Option Bool
  incoming : Bytes
  delivered : List Bytes

def flowView (s : NiSocketTransport) : FlowView where
  state := s.state
  decoder := s.decoder
  frames := s.frames
  queuedPayloadLength := s.queuedPayloadLength
  pausedForQueue := s.pausedForQueue
  paused := s.paused
  pendingReceive := s.pendingReceive
  closePromise := s.closePromise
  incoming := s.incoming
  delivered := s.delivered

theorem Flow.same (h : Flow cfg s) (hv : s'.flowView = s.flowView) : Flow cfg s' := by
  simp only [flowView, FlowView.mk.injEq] at hv
  obtain ⟨h1, h2, h3, h4, h5, h6, h7, h8, h9, h10⟩ := hv
  constructor <;> simp only [h1, h2, h3, h4, h5, h6, h7, h8, h9, h10]
  · exact h.decoder
  · exact h.frames
  · exact h.delivered
  · exact h.idle
  · exact h.waiting
  · exact h.queued
  · exact h.count
  · exact h.bytes
  · exact h.paused
  · exact h.closePromise

/-- A connection which is no longer open, and has nothing queued. -/
theorem Flow.ended (h : Flow cfg s) (hs : s'.state ≠ .open) (hf : s'.frames = [])
    (hp : s'.pendingReceive = none) (hq : s'.queuedPayloadLength = 0)
    (hi : s'.incoming = s.incoming) (hd : s'.delivered = s.delivered) : Flow cfg s' where
  decoder ho := absurd ho hs
  frames ho := absurd ho hs
  delivered := by
    rw [hd, hi]
    exact h.delivered
  idle _ := ⟨hf, hp⟩
  waiting _ := hf
  queued := by
    rw [hq, hf]
    rfl
  count := by
    rw [hf]
    exact Nat.zero_le _
  bytes := by
    rw [hq]
    exact Nat.zero_le _
  paused ho := absurd ho hs
  closePromise ho := absurd ho hs

theorem delivered_rejections (s : NiSocketTransport) (error : NiTransportError)
    (past : List Observation) :
    (s.rejections error ++ past).filterMap Observation.delivery =
      past.filterMap Observation.delivery := by
  unfold rejections
  cases s.pendingReceive <;> rfl

theorem Flow.failed (h : Flow cfg s) (error : NiTransportError) : Flow cfg (s.fail error) := by
  by_cases hs : s.state = .closed
  · rw [fail_closed hs]
    exact h
  · rw [fail_eq hs]
    refine h.ended nofun rfl rfl rfl rfl ?_
    simp only [NiSocketTransport.delivered, deliveries, delivered_rejections]
    rfl

/-- A connection which is not open stays so, and keeps its empty queue. -/
theorem Flow.closed (h : Flow cfg s) (ho : s.state ≠ .open) (hs : s'.state ≠ .open)
    (hf : s'.frames = s.frames) (hp : s'.pendingReceive = s.pendingReceive)
    (hq : s'.queuedPayloadLength = s.queuedPayloadLength) (hi : s'.incoming = s.incoming)
    (hd : s'.delivered = s.delivered) : Flow cfg s' := by
  obtain ⟨hf', hp'⟩ := h.idle ho
  apply h.ended hs (hf.trans hf') (hp.trans hp') _ hi hd
  rw [hq, h.queued, hf']
  rfl

/-- More input only adds frames. -/
theorem completeFrames_leading (xs ys : Bytes) : completeFrames xs <+: completeFrames (xs ++ ys) := by
  rw [completeFrames_append]
  exact List.prefix_append _ _

theorem Flow.received (h : Flow cfg s) (ho : s.state ≠ .open) (chunk : Bytes) :
    Flow cfg { s with incoming := s.incoming ++ chunk } where
  decoder h' := absurd h' ho
  frames h' := absurd h' ho
  delivered := h.delivered.trans (completeFrames_leading s.incoming chunk)
  idle := h.idle
  waiting := h.waiting
  queued := h.queued
  count := h.count
  bytes := h.bytes
  paused h' := absurd h' ho
  closePromise h' := absurd h' ho

/-- A chunk completes the frames which the decoder returns. -/
theorem Flow.decoded (h : Flow cfg s) (ho : s.state = .open) {chunk : Bytes}
    {frames : List Bytes} {decoder : NiFrameDecoder}
    (hd : s.decoder.push cfg.maxPayloadLength chunk = .ok (frames, decoder)) :
    decoder.WellFormed ∧ decoder.remaining = leftover (s.incoming ++ chunk) ∧
      completeFrames (s.incoming ++ chunk) = s.delivered ++ s.frames ++ frames := by
  obtain ⟨hwf, hrem⟩ := h.decoder ho
  obtain ⟨hwf', hframes, hleft⟩ := NiFrameDecoder.push_eq hwf hd
  refine ⟨hwf', ?_, ?_⟩
  · rw [leftover_append, ← hrem]
    exact hleft.symm
  · rw [completeFrames_append, ← hrem, hframes, h.frames ho]

theorem payloadLength_append (xs ys : List Bytes) :
    payloadLength (xs ++ ys) = payloadLength xs + payloadLength ys := by
  simp [payloadLength]

/-- Frames which are queued follow those which are. -/
theorem Flow.enqueued {frames : List Bytes} (ho : s.state = .open)
    (hdec : s.decoder.WellFormed ∧ s.decoder.remaining = leftover s.incoming)
    (hall : completeFrames s.incoming = s.delivered ++ s.frames ++ frames)
    (hnone : s.pendingReceive = none ∨ frames = []) (hwait : s.pendingReceive ≠ none → s.frames = [])
    (hq : s.queuedPayloadLength = payloadLength s.frames)
    (hpaused : (s.pausedForQueue = true ↔ s.frames ≠ []) ∧ s.paused = s.pausedForQueue)
    (hc : s.closePromise = none) (hf : Fits cfg s frames) : Flow cfg (s.enqueued frames) := by
  by_cases hn : frames = []
  · subst hn
    rw [List.append_nil] at hall
    refine ⟨fun _ => hdec, fun _ => hall, ?_, fun h => absurd ho h, hwait, hq, ?_, ?_,
      fun _ => hpaused, fun _ => hc⟩
    · exact ⟨s.frames, hall.symm⟩
    · exact hf.count
    · exact hf.bytes
  · have hp : s.pendingReceive = none := hnone.resolve_right hn
    rw [NiSocketTransport.enqueued, if_neg hn]
    have hne : s.frames ++ frames ≠ [] := by
      intro he
      exact hn (List.append_eq_nil_iff.mp he).2
    rw [List.append_assoc] at hall
    refine ⟨fun _ => hdec, fun _ => hall, ?_, fun h => absurd ho h, fun h => absurd hp h, ?_, ?_,
      ?_, fun _ => ⟨⟨fun _ => hne, fun _ => rfl⟩, ?_⟩, fun _ => hc⟩
    · exact ⟨s.frames ++ frames, hall.symm⟩
    · dsimp only
      rw [hq, payloadLength_append]
    · rw [List.length_append]
      exact hf.count
    · exact hf.bytes
    · dsimp only
      split
      · rename_i hpq
        rw [hpaused.2]
        exact hpq
      · rfl

theorem delivered_observe (s : NiSocketTransport) (i : Nat) (frame : Bytes) :
    (s.observe (.delivered i frame)).delivered = s.delivered ++ [frame] := by
  simp only [NiSocketTransport.delivered, deliveries, observe, List.filterMap_cons,
    Observation.delivery, List.reverse_cons, List.map_append, List.map_cons, List.map_nil]

theorem resumed_of_paused (h : s.pausedForQueue = true) :
    s.resumed = { s with pausedForQueue := false, paused := false } := if_pos h

/-- The first queued frame is taken. -/
theorem Flow.taken (h : Flow cfg s) {frame : Bytes} {frames : List Bytes} (ho : s.state = .open)
    (hf : s.frames = frame :: frames) :
    Flow cfg ((if frames = [] then resumed else id) {
        s with
        receives := s.receives + 1
        frames
        queuedPayloadLength := s.queuedPayloadLength - frame.length }
      |>.observe (.delivered s.receives frame)) := by
  have hall := h.frames ho
  have hqueued := h.queued
  have hcount := h.count
  have hbytes := h.bytes
  obtain ⟨hiff, heq⟩ := h.paused ho
  have hpaused : s.pausedForQueue = true := hiff.mpr (by rw [hf]; exact List.cons_ne_nil _ _)
  have hp : s.pendingReceive = none := by
    by_contra hp
    have := h.waiting hp
    rw [hf] at this
    cases this
  rw [hf, payloadLength_cons] at hqueued
  rw [hf, List.length_cons] at hcount
  rw [hf, List.append_cons] at hall
  have hq : s.queuedPayloadLength - frame.length = payloadLength frames := by omega
  have main (paused : Bool) (hpq : paused = true ↔ frames ≠ []) : Flow cfg ({
      s with
      receives := s.receives + 1
      frames
      queuedPayloadLength := s.queuedPayloadLength - frame.length
      pausedForQueue := paused
      paused }.observe (.delivered s.receives frame)) := by
    refine ⟨fun _ => h.decoder ho, fun _ => ?_, ?_, fun h' => absurd ho h',
      fun h' => absurd hp h', hq, ?_, ?_, fun _ => ⟨hpq, rfl⟩, fun _ => h.closePromise ho⟩
    · rw [delivered_observe]
      exact hall
    · rw [delivered_observe]
      exact ⟨frames, hall.symm⟩
    · change frames.length ≤ _
      omega
    · change s.queuedPayloadLength - frame.length ≤ _
      omega
  by_cases hn : frames = []
  · rw [if_pos hn, resumed_of_paused (by exact hpaused)]
    exact main false ⟨nofun, fun h' => absurd hn h'⟩
  · rw [if_neg hn]
    have hm := main true ⟨fun _ => hn, fun _ => rfl⟩
    apply hm.same
    simp only [flowView, id, NiSocketTransport.observe, heq, hpaused]


theorem Move.flow (hm : Move cfg s s') (h : Flow cfg s) : Flow cfg s' := by
  cases hm with
  | failed error => exact h.failed error
  | sendSettled i x outcome hx hn => exact h.same rfl
  | timerSet timer => exact h.same rfl
  | closeSettled destroyed hc =>
      have ho : s.state ≠ .open := by
        intro ho
        have := h.closePromise ho
        rw [hc] at this
        cases this
      exact h.closed ho nofun rfl rfl rfl rfl rfl
  | peerClosed hs =>
      have ho : s.state ≠ .open := by
        rw [hs]
        exact nofun
      exact h.closed ho nofun rfl rfl rfl rfl rfl
  | receiveRefused reason => exact h.same rfl
  | awaited onAbort ho hf hp =>
      exact {
        decoder := h.decoder
        frames := h.frames
        delivered := h.delivered
        idle := fun h' => absurd ho h'
        waiting := fun _ => hf
        queued := h.queued
        count := h.count
        bytes := h.bytes
        paused := h.paused
        closePromise := h.closePromise }
  | taken frame frames ho hf => exact h.taken ho hf
  | unpaused ho => exact h.closed ho ho rfl rfl rfl rfl rfl
  | sendRefused reason => exact h.same rfl
  | sendCalled onAbort => exact h.same rfl
  | writing i => exact h.same rfl
  | wrote i bytes ho => exact h.same rfl
  | calledBack i x hx => exact h.same rfl
  | received chunk ho => exact h.received ho chunk
  | queued chunk frames decoder ho hd hp hf =>
      obtain ⟨hwf, hleft, hall⟩ := h.decoded ho hd
      exact Flow.enqueued (s := s.decoded chunk decoder) ho ⟨hwf, hleft⟩ hall hp h.waiting h.queued
        (h.paused ho) (h.closePromise ho) ⟨hf.count, hf.bytes⟩
  | handed chunk pending frame frames decoder ho hd hp hf =>
      obtain ⟨hwf, hleft, hall⟩ := h.decoded ho hd
      have hempty : s.frames = [] := h.waiting (by rw [hp]; exact nofun)
      apply Flow.enqueued
      · exact ho
      · exact ⟨hwf, hleft⟩
      · rw [delivered_observe]
        rw [hempty, List.append_nil] at hall
        change _ = s.delivered ++ [frame] ++ s.frames ++ frames
        rw [hempty, List.append_nil, List.append_assoc]
        exact hall
      · exact .inl rfl
      · exact fun h' => absurd rfl h'
      · exact h.queued
      · exact h.paused ho
      · exact h.closePromise ho
      · exact ⟨hf.count, hf.bytes⟩
  | closing hs hc =>
      apply h.ended
      · rw [rejectPending_eq]
        exact nofun
      · rfl
      · rw [rejectPending_eq]
        rfl
      · rfl
      · rw [rejectPending_eq]
        rfl
      · rw [rejectPending_eq]
        simp only [NiSocketTransport.delivered, deliveries, clearQueuedFrames,
          delivered_rejections]
        rfl

end NiSocketTransport
end OpenRfc.Ni
