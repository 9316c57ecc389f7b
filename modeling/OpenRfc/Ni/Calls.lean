import OpenRfc.Foundation.History
import OpenRfc.Ni.Flow

/-!
The calls of `receive` and `send`: each settles once, frames are delivered in the order of the
calls, and nothing is delivered or written once the connection has terminated.
-/

namespace OpenRfc.Ni

def Observation.settlesReceive (i : Nat) : Observation → Bool
  | .delivered j _ | .receiveRejected j _ => j = i
  | _ => false

def Observation.settlesSend (i : Nat) : Observation → Bool
  | .sendSettled j _ => j = i
  | _ => false

/-- A frame is delivered, or bytes are written. -/
def Observation.isTransfer : Observation → Bool
  | .delivered _ _ | .wrote _ _ => true
  | _ => false

def Observation.isTermination : Observation → Bool
  | .terminated => true
  | _ => false

namespace NiSocketTransport
variable {cfg : NiSocketSettings} {s s' : NiSocketTransport}

section Receives

def waitsFor (s : NiSocketTransport) (i : Nat) : Bool :=
  s.pendingReceive.any fun pending => pending.id = i

structure ReceiveCalls (s : NiSocketTransport) : Prop where
  settled : ∀ i, s.trace.countP (Observation.settlesReceive i) =
    if i < s.receives ∧ s.waitsFor i = false then 1 else 0
  pending : ∀ pending, s.pendingReceive = some pending → pending.id < s.receives

theorem ReceiveCalls.same (h : ReceiveCalls s) (hr : s'.receives = s.receives)
    (hp : s'.pendingReceive = s.pendingReceive)
    (ht : ∀ i, s'.trace.countP (Observation.settlesReceive i) =
      s.trace.countP (Observation.settlesReceive i)) : ReceiveCalls s' where
  settled i := by
    rw [ht, h.settled, hr, waitsFor, waitsFor, hp]
  pending pending := by
    rw [hp, hr]
    exact h.pending pending

/-- A call which settles at once. -/
theorem ReceiveCalls.refused (h : ReceiveCalls s) (hr : s'.receives = s.receives + 1)
    (hp : s'.pendingReceive = s.pendingReceive)
    (ht : ∀ i, s'.trace.countP (Observation.settlesReceive i) =
      s.trace.countP (Observation.settlesReceive i) + if s.receives = i then 1 else 0) :
    ReceiveCalls s' where
  settled i := by
    rw [ht, h.settled, hr, waitsFor, waitsFor, hp]
    by_cases hi : s.receives = i
    · subst hi
      have hw : (s.pendingReceive.any fun pending => decide (pending.id = s.receives)) = false := by
        cases hpend : s.pendingReceive with
        | none => rfl
        | some pending =>
            have := h.pending pending hpend
            rw [Option.any_some, decide_eq_false_iff_not]
            omega
      simp [hw]
    · have hlt : i < s.receives + 1 ↔ i < s.receives := by omega
      simp only [if_neg hi, Nat.add_zero, hlt]
  pending pending := by
    rw [hp, hr]
    exact fun hpend => (h.pending pending hpend).trans (Nat.lt_succ_self _)

/-- The pending call settles. -/
theorem ReceiveCalls.pendingSettled (h : ReceiveCalls s) {pending : PendingReceive}
    (hpend : s.pendingReceive = some pending) (hr : s'.receives = s.receives)
    (hp : s'.pendingReceive = none)
    (ht : ∀ i, s'.trace.countP (Observation.settlesReceive i) =
      s.trace.countP (Observation.settlesReceive i) + if pending.id = i then 1 else 0) :
    ReceiveCalls s' where
  settled i := by
    rw [ht, h.settled, hr, waitsFor, waitsFor, hp, hpend]
    have hlt := h.pending pending hpend
    by_cases hi : pending.id = i
    · subst hi
      simp [hlt]
    · simp [hi]
  pending := by
    rw [hp]
    exact nofun

theorem countP_rejections (s : NiSocketTransport) (error : NiTransportError)
    (past : List Observation) (i : Nat) :
    (s.rejections error ++ past).countP (Observation.settlesReceive i) =
      past.countP (Observation.settlesReceive i) + if s.waitsFor i then 1 else 0 := by
  unfold rejections waitsFor
  cases s.pendingReceive with
  | none => simp
  | some pending => simp [List.countP_cons, Observation.settlesReceive]

/-- Whatever else an ending observes, it rejects the pending call. -/
theorem ReceiveCalls.ended (h : ReceiveCalls s) (error : NiTransportError)
    {past : List Observation} (hr : s'.receives = s.receives) (hp : s'.pendingReceive = none)
    (ht : s'.trace = s.rejections error ++ past)
    (hpast : ∀ i, past.countP (Observation.settlesReceive i) =
      s.trace.countP (Observation.settlesReceive i)) : ReceiveCalls s' := by
  have hcount (i : Nat) : s'.trace.countP (Observation.settlesReceive i) =
      s.trace.countP (Observation.settlesReceive i) + if s.waitsFor i then 1 else 0 := by
    rw [ht, countP_rejections, hpast]
  cases hpend : s.pendingReceive with
  | none =>
      apply h.same hr (hp.trans hpend.symm)
      intro i
      rw [hcount, waitsFor, hpend]
      rfl
  | some pending =>
      apply h.pendingSettled hpend hr hp
      intro i
      rw [hcount, waitsFor, hpend]
      simp

theorem countP_delivered (s : NiSocketTransport) (i j : Nat) (frame : Bytes) :
    (s.observe (.delivered j frame)).trace.countP (Observation.settlesReceive i) =
      s.trace.countP (Observation.settlesReceive i) + if j = i then 1 else 0 := by
  simp [observe, List.countP_cons, Observation.settlesReceive]

theorem resumed_calls (s : NiSocketTransport) : s.resumed.receives = s.receives ∧
    s.resumed.pendingReceive = s.pendingReceive ∧ s.resumed.trace = s.trace ∧
    s.resumed.sends = s.sends := by
  unfold resumed
  split <;> exact ⟨rfl, rfl, rfl, rfl⟩

theorem enqueued_calls (s : NiSocketTransport) (frames : List Bytes) :
    (s.enqueued frames).receives = s.receives ∧
      (s.enqueued frames).pendingReceive = s.pendingReceive ∧
      (s.enqueued frames).trace = s.trace ∧ (s.enqueued frames).sends = s.sends := by
  unfold enqueued
  split <;> exact ⟨rfl, rfl, rfl, rfl⟩

theorem Move.receiveCalls (hm : Move cfg s s') (h : ReceiveCalls s) : ReceiveCalls s' := by
  cases hm with
  | failed error =>
      by_cases hs : s.state = .closed
      · rw [fail_closed hs]
        exact h
      · rw [fail_eq hs]
        exact h.ended _ rfl rfl rfl fun i => List.countP_cons_of_neg (by exact nofun)
  | receiveRefused reason =>
      refine h.refused rfl rfl ?_
      intro i
      simp [rejectReceive, observe, List.countP_cons, Observation.settlesReceive]
  | awaited onAbort ho hf hp =>
      constructor
      · intro i
        rw [h.settled]
        simp only [waitsFor, hp, Option.any_none, Option.any_some, decide_eq_false_iff_not]
        congr 1
        simp only [and_true, eq_iff_iff]
        omega
      · intro pending hpend
        cases hpend
        exact Nat.lt_succ_self _
  | taken frame frames ho hf =>
      apply h.refused
      · split
        · exact (resumed_calls _).1
        · rfl
      · split
        · exact (resumed_calls _).2.1
        · rfl
      · intro i
        rw [countP_delivered]
        split
        · rw [(resumed_calls _).2.2.1]
        · rfl
  | queued chunk frames decoder ho hd hp hf =>
      obtain ⟨hr, hpend, ht, -⟩ := enqueued_calls (s.decoded chunk decoder) frames
      apply h.same hr hpend
      intro i
      rw [ht]
      rfl
  | handed chunk pending frame frames decoder ho hd hp hf =>
      have he := enqueued_calls ({ s.decoded chunk decoder with pendingReceive := none }.observe
        (.delivered pending.id frame)) frames
      apply h.pendingSettled hp he.1 he.2.1
      intro i
      rw [he.2.2.1, countP_delivered]
      rfl
  | closing hs hc =>
      rw [rejectPending_eq]
      exact h.ended _ rfl rfl rfl fun i => List.countP_cons_of_neg (by exact nofun)
  | sendSettled i x outcome hx hn => exact h.same rfl rfl fun j => rfl
  | sendRefused reason => exact h.same rfl rfl fun j => rfl
  | wrote i bytes ho => exact h.same rfl rfl fun j => rfl
  | _ => exact h.same rfl rfl fun j => rfl

end Receives

section Sends

/-- Every settled call of `send` has settled once, and no other. -/
def SendCalls (s : NiSocketTransport) : Prop :=
  ∀ i, s.trace.countP (Observation.settlesSend i) = if s.isSettled i then 1 else 0

theorem SendCalls.same (h : SendCalls s) (hs : ∀ i, s'.isSettled i = s.isSettled i)
    (ht : ∀ i, s'.trace.countP (Observation.settlesSend i) =
      s.trace.countP (Observation.settlesSend i)) : SendCalls s' := by
  intro i
  rw [ht, hs]
  exact h i

theorem SendCalls.settled (h : SendCalls s) {i : Nat} (hi : s.isSettled i = false)
    (hi' : s'.isSettled i = true) (hs : ∀ j, j ≠ i → s'.isSettled j = s.isSettled j)
    (ht : ∀ j, s'.trace.countP (Observation.settlesSend j) =
      s.trace.countP (Observation.settlesSend j) + if i = j then 1 else 0) : SendCalls s' := by
  intro j
  rw [ht, h j]
  by_cases hj : i = j
  · subst hj
    simp [hi, hi']
  · rw [if_neg hj, hs j (Ne.symm hj), Nat.add_zero]

theorem countP_rejections_send (s : NiSocketTransport) (error : NiTransportError)
    (past : List Observation) (i : Nat) :
    (s.rejections error ++ past).countP (Observation.settlesSend i) =
      past.countP (Observation.settlesSend i) := by
  unfold rejections
  cases s.pendingReceive with
  | none => rfl
  | some pending => exact List.countP_cons_of_neg (by exact nofun)

theorem isSettled_set {i : Nat} {x y : SendCall} (hx : s.sends[i]? = some x)
    (hs : s'.sends = s.sends.set i y) (j : Nat) :
    s'.isSettled j = if j = i then y.settled else s.isSettled j := by
  have hlt : i < s.sends.length := (List.getElem?_eq_some_iff.mp hx).1
  unfold isSettled
  rw [hs, List.getElem?_set]
  by_cases hj : j = i
  · subst hj
    simp [hlt]
  · simp [hj, Ne.symm hj]

theorem isSettled_append {y : SendCall} (hs : s'.sends = s.sends ++ [y]) (j : Nat) :
    s'.isSettled j = if j = s.sends.length then y.settled else s.isSettled j := by
  unfold isSettled
  rw [hs]
  rcases Nat.lt_trichotomy j s.sends.length with hj | rfl | hj
  · rw [List.getElem?_append_left hj, if_neg (by omega)]
  · simp
  · rw [if_neg (by omega), List.getElem?_eq_none (by simp; omega),
      List.getElem?_eq_none (by omega)]

theorem Move.sendCalls (hm : Move cfg s s') (h : SendCalls s) : SendCalls s' := by
  have hlast : s.isSettled s.sends.length = false := by
    rw [isSettled, List.getElem?_eq_none (Nat.le_refl _)]
    rfl
  cases hm with
  | failed error =>
      apply h.same
      · intro i
        rw [isSettled, isSettled, fail_sends]
      · intro i
        by_cases hs : s.state = .closed
        · rw [fail_closed hs]
        · rw [fail_eq hs]
          exact (countP_rejections_send s _ _ i).trans (List.countP_cons_of_neg (by exact nofun))
  | sendSettled i x outcome hx hn =>
      have hset := @isSettled_set s { s with
        sends := s.sends.set i { x with settled := true } } i _ _ hx rfl
      apply h.settled (i := i)
      · rw [isSettled, hx]
        exact hn
      · exact (hset i).trans (if_pos rfl)
      · intro j hj
        exact (hset j).trans (if_neg hj)
      · intro j
        simp [observe, List.countP_cons, Observation.settlesSend]
  | sendRefused reason =>
      have happ := @isSettled_append s { s with
        sends := s.sends ++ [SendCall.mk false true false] } _ rfl
      apply h.settled (i := s.sends.length) hlast
      · exact (happ _).trans (if_pos rfl)
      · intro j hj
        exact (happ j).trans (if_neg hj)
      · intro j
        simp [refuseSend, observe, List.countP_cons, Observation.settlesSend]
  | sendCalled onAbort =>
      refine h.same ?_ fun i => rfl
      intro j
      rw [isSettled_append rfl]
      split
      · rename_i hj
        rw [hj, hlast]
      · rfl
  | writing i =>
      refine h.same ?_ fun i => rfl
      intro j
      unfold isSettled
      rw [List.getElem?_modify]
      cases s.sends[j]? with
      | none => rfl
      | some x => by_cases hj : i = j <;> simp [hj]
  | calledBack i x hx =>
      refine h.same ?_ fun i => rfl
      intro j
      rw [isSettled_set hx rfl]
      split
      · rename_i hj
        rw [hj, isSettled, hx]
        rfl
      · rfl
  | taken frame frames ho hf =>
      apply h.same
      · intro i
        split
        · simp only [isSettled, observe, resumed_calls]
        · rfl
      · intro i
        split
        · simp [observe, resumed_calls, Observation.settlesSend]
        · rfl
  | queued chunk frames decoder ho hd hp hf =>
      have he := enqueued_calls (s.decoded chunk decoder) frames
      apply h.same
      · intro i
        rw [isSettled, he.2.2.2]
        rfl
      · intro i
        rw [he.2.2.1]
        rfl
  | handed chunk pending frame frames decoder ho hd hp hf =>
      have he := enqueued_calls ({ s.decoded chunk decoder with pendingReceive := none }.observe
        (.delivered pending.id frame)) frames
      apply h.same
      · intro i
        rw [isSettled, he.2.2.2]
        rfl
      · intro i
        rw [he.2.2.1]
        rfl
  | closing hs hc =>
      rw [rejectPending_eq]
      refine h.same (fun i => rfl) ?_
      intro i
      exact (countP_rejections_send s _ _ i).trans (List.countP_cons_of_neg (by exact nofun))
  | _ => exact h.same (fun i => rfl) fun i => rfl

end Sends

section Order

/-- Frames have been delivered to the calls in their order. -/
structure InOrder (s : NiSocketTransport) : Prop where
  order : (s.deliveries.map Prod.fst).Pairwise (· < ·)
  recent : ∀ x ∈ s.deliveries, x.1 < s.receives
  pending : ∀ x ∈ s.deliveries, ∀ pending, s.pendingReceive = some pending → x.1 < pending.id

theorem InOrder.kept (h : InOrder s) (hd : s'.deliveries = s.deliveries)
    (hr : s.receives ≤ s'.receives)
    (hp : ∀ pending, s'.pendingReceive = some pending →
      s.pendingReceive = some pending ∨ pending.id = s.receives) : InOrder s' where
  order := by
    rw [hd]
    exact h.order
  recent x hx := by
    rw [hd] at hx
    exact (h.recent x hx).trans_le hr
  pending x hx pending hpend := by
    rw [hd] at hx
    rcases hp pending hpend with hpend | hi
    · exact h.pending x hx pending hpend
    · rw [hi]
      exact h.recent x hx

theorem InOrder.delivered (h : InOrder s) {i : Nat} {frame : Bytes}
    (hd : s'.deliveries = s.deliveries ++ [(i, frame)]) (hi : ∀ x ∈ s.deliveries, x.1 < i)
    (hr : s.receives ≤ s'.receives) (hlt : i < s'.receives) (hp : s'.pendingReceive = none) :
    InOrder s' where
  order := by
    rw [hd, List.map_append, List.pairwise_append]
    refine ⟨h.order, List.pairwise_singleton _ _, ?_⟩
    intro a ha b hb
    obtain ⟨x, hx, rfl⟩ := List.mem_map.mp ha
    rw [List.map_singleton, List.mem_singleton] at hb
    rw [hb]
    exact hi x hx
  recent x hx := by
    rw [hd, List.mem_append, List.mem_singleton] at hx
    rcases hx with hx | rfl
    · exact (h.recent x hx).trans_le hr
    · exact hlt
  pending x _ pending hpend := by
    rw [hp] at hpend
    cases hpend

theorem deliveries_of_rejections {error : NiTransportError} {past : List Observation}
    (ht : s'.trace = s.rejections error ++ .terminated :: past) (hp : past = s.trace) :
    s'.deliveries = s.deliveries := by
  rw [deliveries, deliveries, ht, delivered_rejections, hp]
  rfl

theorem deliveries_observe (s : NiSocketTransport) (i : Nat) (frame : Bytes) :
    (s.observe (.delivered i frame)).deliveries = s.deliveries ++ [(i, frame)] := by
  simp only [deliveries, observe, List.filterMap_cons, Observation.delivery, List.reverse_cons]

theorem deliveries_of_trace (ht : s'.trace = s.trace) : s'.deliveries = s.deliveries := by
  rw [deliveries, deliveries, ht]

theorem Move.inOrder (hm : Move cfg s s') (hf : Flow cfg s) (hc : ReceiveCalls s)
    (h : InOrder s) : InOrder s' := by
  cases hm with
  | failed error =>
      by_cases hs : s.state = .closed
      · rw [fail_closed hs]
        exact h
      · rw [fail_eq hs]
        exact h.kept (deliveries_of_rejections rfl rfl) (Nat.le_refl _) nofun
  | awaited onAbort ho hq hp =>
      refine h.kept rfl (Nat.le_succ _) ?_
      intro pending hpend
      cases hpend
      exact .inr rfl
  | receiveRefused reason => exact h.kept rfl (Nat.le_succ _) fun _ hpend => .inl hpend
  | taken frame frames ho hq =>
      have hp : s.pendingReceive = none := by
        by_contra hp
        have := hf.waiting hp
        rw [hq] at this
        cases this
      have main {t : NiSocketTransport} (hr : t.receives = s.receives + 1)
          (hpend : t.pendingReceive = s.pendingReceive) (ht : t.trace = s.trace) :
          InOrder (t.observe (.delivered s.receives frame)) := by
        apply h.delivered
        · rw [deliveries_observe, deliveries_of_trace ht]
        · exact h.recent
        · exact (Nat.le_succ _).trans hr.ge
        · exact (Nat.lt_succ_self _).trans_le hr.ge
        · exact hpend.trans hp
      split
      · obtain ⟨hr, hpend, ht, -⟩ := resumed_calls { s with
          receives := s.receives + 1
          frames
          queuedPayloadLength := s.queuedPayloadLength - frame.length }
        exact main hr hpend ht
      · exact main rfl rfl rfl
  | queued chunk frames decoder ho hd hp hq =>
      obtain ⟨hr, hpend, ht, -⟩ := enqueued_calls (s.decoded chunk decoder) frames
      apply h.kept (deliveries_of_trace ht) hr.ge
      intro pending hp'
      rw [hpend] at hp'
      exact .inl hp'
  | handed chunk pending frame frames decoder ho hd hp hq =>
      obtain ⟨hr, hpend, ht, -⟩ := enqueued_calls ({ s.decoded chunk decoder with
        pendingReceive := none }.observe (.delivered pending.id frame)) frames
      apply h.delivered
      · rw [deliveries_of_trace ht, deliveries_observe]
        rfl
      · exact fun x hx => h.pending x hx pending hp
      · exact hr.ge
      · exact (hc.pending pending hp).trans_le hr.ge
      · exact hpend
  | closing hs hc =>
      rw [rejectPending_eq]
      exact h.kept (deliveries_of_rejections rfl rfl) (Nat.le_refl _) nofun
  | _ => exact h.kept rfl (Nat.le_refl _) fun _ hpend => .inl hpend

end Order

section Termination

/-- A transfer does not follow a termination. -/
def Permitted (o : Observation) (past : List Observation) : Prop :=
  o.isTransfer = true → ∀ x ∈ past, x.isTermination = false

/-- Nothing is delivered or written once the connection has terminated. -/
structure Ended (s : NiSocketTransport) : Prop where
  law : History.Each Permitted s.trace
  running : s.state = .open ↔ ∀ x ∈ s.trace, x.isTermination = false

theorem Ended.kept (h : Ended s) (ht : s'.trace = s.trace)
    (hs : s'.state = .open ↔ s.state = .open) : Ended s' where
  law := by
    rw [ht]
    exact h.law
  running := by
    rw [ht, hs]
    exact h.running

/-- An observation of an open connection, or one which is no transfer. -/
theorem Ended.observed (h : Ended s) {o : Observation} (ht : s'.trace = o :: s.trace)
    (hs : s'.state = .open ↔ s.state = .open) (ho : o.isTransfer = true → s.state = .open)
    (hn : o.isTermination = false) : Ended s' where
  law := by
    rw [ht]
    exact ⟨fun hx => h.running.mp (ho hx), h.law⟩
  running := by
    rw [ht, hs, List.forall_mem_cons, h.running]
    exact (and_iff_right hn).symm

theorem Ended.terminated (h : Ended s) {error : NiTransportError}
    (ht : s'.trace = s.rejections error ++ .terminated :: s.trace) (hs : s'.state ≠ .open) :
    Ended s' where
  law := by
    rw [ht]
    have hpast : History.Each Permitted (.terminated :: s.trace) := ⟨nofun, h.law⟩
    apply hpast.append
    intro o past ho
    unfold rejections at ho
    cases hp : s.pendingReceive with
    | none =>
        rw [hp] at ho
        cases ho
    | some pending =>
        rw [hp] at ho
        obtain rfl := List.mem_singleton.mp ho
        exact nofun
  running := by
    refine iff_of_false hs fun hall => ?_
    have hmem : Observation.terminated ∈ s'.trace := by
      rw [ht]
      exact List.mem_append_right _ List.mem_cons_self
    exact absurd (hall _ hmem) nofun

theorem Move.ended (hm : Move cfg s s') (hf : Flow cfg s) (h : Ended s) : Ended s' := by
  cases hm with
  | failed error =>
      by_cases hs : s.state = .closed
      · rw [fail_closed hs]
        exact h
      · rw [fail_eq hs]
        exact h.terminated rfl (by rintro ⟨⟩)
  | sendSettled i x outcome hx hn => exact h.observed rfl Iff.rfl (by rintro ⟨⟩) rfl
  | closeSettled destroyed hc =>
      refine h.kept rfl (iff_of_false (by rintro ⟨⟩) fun ho => ?_)
      have := hf.closePromise ho
      rw [hc] at this
      cases this
  | peerClosed hs =>
      refine h.kept rfl (iff_of_false (by rintro ⟨⟩) ?_)
      rw [hs]
      simp
  | receiveRefused reason => exact h.observed rfl Iff.rfl (by rintro ⟨⟩) rfl
  | taken frame frames ho hq =>
      split
      · refine h.observed (o := .delivered s.receives frame) ?_ ?_ (fun _ => ho) rfl
        · rw [observe, (resumed_calls _).2.2.1]
        · exact iff_of_eq (congrArg (· = NiSocketState.open) (resumed_fields _).1)
      · exact h.observed rfl Iff.rfl (fun _ => ho) rfl
  | sendRefused reason => exact h.observed rfl Iff.rfl (by rintro ⟨⟩) rfl
  | wrote i bytes ho => exact h.observed rfl Iff.rfl (fun _ => ho) rfl
  | queued chunk frames decoder ho hd hp hq =>
      apply h.kept (enqueued_calls (s.decoded chunk decoder) frames).2.2.1
      rw [(enqueued_fields _ _).1]
      exact Iff.rfl
  | handed chunk pending frame frames decoder ho hd hp hq =>
      have ht := (enqueued_calls ({ s.decoded chunk decoder with
        pendingReceive := none }.observe (.delivered pending.id frame)) frames).2.2.1
      refine h.observed ht ?_ (fun _ => ho) rfl
      rw [(enqueued_fields _ _).1]
      exact Iff.rfl
  | closing hs hc =>
      rw [rejectPending_eq]
      exact h.terminated rfl (by rintro ⟨⟩)
  | _ => exact h.kept rfl Iff.rfl

end Termination

end NiSocketTransport
end OpenRfc.Ni
